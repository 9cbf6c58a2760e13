import PageMarkup.Proofs.Contents
import PageMarkup.Proofs.Reading.Backticks
import PageMarkup.Proofs.Reading.Extended
import PageMarkup.Proofs.Relocation

/-! # Inline code

Between backticks stands inline code, and a doubled backtick in it is a backtick of the code. Not so
at its front: two backticks there end the code and begin it anew, so that the code loses every
backtick that it begins with. -/

namespace PageMarkup

/-! ## Reading -/

namespace Cursor

theorem next_backtick {mode : Mode} (code : mode ≠ .code) (rest : Text) (offset : Nat) :
    (⟨'`' :: rest, offset⟩ : Cursor).next mode true =
      .ok (some (⟨.backtick, offset⟩, ⟨rest, offset + 1⟩)) := by
  cases mode with
  | code => exact absurd rfl code
  | normal | image | inlineCode => rfl

theorem run_doubled_before_backtick {code rest : Text} (line : '\n' ∉ code)
    (single : rest.head? ≠ some '`') :
    Text.run (· = '\n') true (code.doubleBackticks ++ '`' :: rest) =
      (code.doubleBackticks, '`' :: rest) := by
  have plain : ∀ c ∈ code, decide (c = '\n') = false := by
    intro c mem
    have other : c ≠ '\n' := fun same => line (same ▸ mem)
    simpa using other
  have ends : Text.run (· = '\n') true ('`' :: rest) = ([], '`' :: rest) := by
    cases rest with
    | nil => rfl
    | cons d rest =>
        have other : d ≠ '`' := by simpa using single
        simp [Text.run, other]
  rw [Text.run_append_of_whole (Text.run_doubleBackticks plain), ends, List.append_nil]

/-- Code that does not begin with a backtick is read whole, and its doubled backticks are halved. -/
theorem next_code {c : Char} {code rest : Text} (tick : c ≠ '`') (line : '\n' ∉ c :: code)
    (single : rest.head? ≠ some '`') (offset : Nat) :
    (⟨Text.doubleBackticks (c :: code) ++ '`' :: rest, offset⟩ : Cursor).next .inlineCode true =
      .ok (some (⟨.text (c :: code), offset⟩,
        ⟨'`' :: rest, offset + (Text.doubleBackticks (c :: code)).length⟩)) := by
  have inside : nextInInlineCode true ⟨Text.doubleBackticks (c :: code) ++ '`' :: rest, offset⟩ =
      .ok (⟨.text (c :: code), offset⟩,
        ⟨'`' :: rest, offset + (Text.doubleBackticks (c :: code)).length⟩) := by
    simp only [nextInInlineCode, run_doubled_before_backtick line single, List.head?_cons,
      Text.halveBackticks_doubleBackticks]
    rfl
  rw [Text.doubleBackticks_cons tick, List.cons_append] at inside ⊢
  simp [next, tick, inside, Except.map]

end Cursor

/-! ## The page -/

/-- Inline code on the page. Where there is no code, nothing is shown. -/
def inlineCode (code : Text) : Text :=
  if code = [] then []
  else Document.inlineCodeStart ++ Text.escape code ++ Document.inlineCodeEnd

/-- Adds inline code to the page and to the label of every open bookmark. -/
def Document.emitCode (document : Document) (code : Text) : Document :=
  if code = [] then document
  else ((document.emit inlineCodeStart).emitText (Text.escape code)).emit inlineCodeEnd

namespace Document

@[simp] theorem mode?_emitCode (document : Document) (code : Text) :
    (document.emitCode code).mode? = document.mode? := by
  unfold emitCode
  split <;> rfl

@[simp] theorem elements_emitCode (document : Document) (code : Text) :
    (document.emitCode code).elements = document.elements := by
  unfold emitCode
  split <;> rfl

end Document

namespace Compilation

variable {setup : Setup} {document : Document} {code rest : Text}

theorem run_backtick_starts (current : document.mode? = some .normal)
    (enabled : document.backticks = true) (rest : Text) (offset : Nat) :
    (⟨⟨'`' :: rest, offset⟩, document⟩ : Compilation).run setup =
      (⟨⟨rest, offset + 1⟩, document.enterMode .inlineCode⟩ : Compilation).run setup := by
  have read := Cursor.next_backtick (show Mode.normal ≠ .code by decide) rest offset
  apply run_of_handled (advance_of_next current (enabled ▸ read) _)
  simp only [Document.handle, Document.handleBacktick, enabled, current, if_true]

theorem run_backtick_ends (enabled : document.backticks = true) (rest : Text) (offset : Nat) :
    (⟨⟨'`' :: rest, offset⟩, document.enterMode .inlineCode⟩ : Compilation).run setup =
      (⟨⟨rest, offset + 1⟩, document⟩ : Compilation).run setup := by
  have read := Cursor.next_backtick (show Mode.inlineCode ≠ .code by decide) rest offset
  have inside : (document.enterMode .inlineCode).backticks = true := enabled
  apply run_of_handled (advance_of_next rfl (inside ▸ read) _)
  simp only [Document.handle, Document.handleBacktick, inside, if_true]
  rfl

/-- Inside inline code, up to the backtick that ends it. Each doubled backtick at the front leads
back to where it stands. -/
theorem run_insideCode (current : document.mode? = some .normal)
    (enabled : document.backticks = true) (line : '\n' ∉ code) (single : rest.head? ≠ some '`')
    (offset : Nat) :
    (⟨⟨code.doubleBackticks ++ '`' :: rest, offset⟩, document.enterMode .inlineCode⟩ :
        Compilation).run setup =
      (⟨⟨rest, offset + code.doubleBackticks.length + 1⟩,
        document.emitCode (code.dropWhile (· = '`'))⟩ : Compilation).run setup := by
  induction code generalizing offset with
  | nil => exact run_backtick_ends enabled rest offset
  | cons c code ih =>
      have later : '\n' ∉ code := fun mem => line (List.mem_cons_of_mem c mem)
      by_cases tick : c = '`'
      · subst tick
        rw [Text.doubleBackticks_cons_tick, List.cons_append, List.cons_append,
          run_backtick_ends enabled, run_backtick_starts current enabled, ih later]
        have length : offset + 1 + 1 + (Text.doubleBackticks code).length + 1 =
            offset + ('`' :: '`' :: Text.doubleBackticks code).length + 1 := by
          simp only [List.length_cons]
          omega
        rw [length]
        rfl
      · have read := Cursor.next_code tick line single offset
        have inside : (document.enterMode .inlineCode).backticks = true := enabled
        have front : (c :: code).dropWhile (· = '`') = c :: code := by simp [tick]
        have handled : (document.enterMode .inlineCode).handle setup ⟨.text (c :: code), offset⟩ =
            .ok ((document.emitCode (c :: code)).enterMode .inlineCode) := rfl
        have kept : (document.emitCode (c :: code)).backticks = true := enabled
        rw [run_of_handled (advance_of_next rfl (inside ▸ read) handled), front]
        exact run_backtick_ends kept rest _

end Compilation

/-! ## Code as written -/

theorem Document.Laid.render_emitCode {document : Document} (laid : document.Laid)
    (closed : document.elements = []) (code : Text) :
    (document.emitCode code).render = document.render ++ inlineCode code := by
  have added := laid.render_emit closed
    (inlineCodeStart ++ Text.escape code ++ inlineCodeEnd)
  unfold emitCode inlineCode
  split
  · rw [List.append_nil]
  · rw [← added, ← emit_emit, ← emit_emit]
    rfl

theorem length_inlineCode_dropWhile_lt {code : Text} (tick : code.head? = some '`') :
    (inlineCode (code.dropWhile (· = '`'))).length < (inlineCode code).length := by
  obtain ⟨more, rfl⟩ := List.head?_eq_some_iff.mp tick
  have whole := congrArg (fun text => (Text.escape text).length)
    (@List.takeWhile_append_dropWhile _ (· = '`') more)
  simp only [Text.escape_append, List.length_append] at whole
  have first : Text.escape ('`' :: more) = '`' :: Text.escape more := rfl
  rw [List.dropWhile_cons_of_pos (by decide), inlineCode, inlineCode, if_neg (List.cons_ne_nil _ _),
    first]
  split
  · simp only [List.length_append, List.length_cons, List.length_nil]
    omega
  · simp only [List.length_append, List.length_cons]
    omega

open Compilation in
/-- Code between backticks, with its own backticks doubled, is shown without the backticks that it
begins with. So it is shown as it is exactly if it begins with none. -/
theorem inline_code_is_shown_without_front_backticks {setup : Setup} {code : Text}
    (enabled : setup.settings.backticks = true) (line : '\n' ∉ code) :
    compileWith setup ('`' :: (code.doubleBackticks ++ ['`'])) =
        .ok (inlineCode (code.dropWhile (· = '`'))) ∧
      (code ≠ [] →
        (compileWith setup ('`' :: (code.doubleBackticks ++ ['`'])) =
            .ok (Document.inlineCodeStart ++ Text.escape code ++ Document.inlineCodeEnd) ↔
          code.head? ≠ some '`')) := by
  have laid : (Document.start setup.settings).Laid := ⟨rfl, nofun⟩
  have shown : compileWith setup ('`' :: (code.doubleBackticks ++ ['`'])) =
      .ok (inlineCode (code.dropWhile (· = '`'))) := by
    have current : (Document.start setup.settings).mode? = some .normal := rfl
    have starts := @run_backtick_starts setup _ current enabled (code.doubleBackticks ++ ['`']) 0
    have inside := @run_insideCode setup _ _ [] current enabled line (by simp) 1
    have rendered := laid.render_emitCode rfl (code.dropWhile (· = '`'))
    have kept := (Document.mode?_emitCode _ (code.dropWhile (· = '`'))).trans current
    have closed : ((Document.start setup.settings).emitCode
        (code.dropWhile (· = '`'))).elements = [] := Document.elements_emitCode _ _
    exact compileWith_of_run (starts.trans (inside.trans (run_at_end kept _))) closed rendered
  refine ⟨shown, fun nonempty => ?_⟩
  have whole : inlineCode code =
      Document.inlineCodeStart ++ Text.escape code ++ Document.inlineCodeEnd := if_neg nonempty
  rw [shown, ← whole, Except.ok.injEq]
  constructor
  · intro same tick
    have shorter := length_inlineCode_dropWhile_lt tick
    rw [same] at shorter
    exact Nat.lt_irrefl _ shorter
  · intro other
    obtain ⟨c, more, rfl⟩ := List.exists_cons_of_ne_nil nonempty
    have tick : c ≠ '`' := by simpa using other
    rw [List.dropWhile_cons_of_neg (by simpa using tick)]

/-- A backtick at the front of the code is lost, and with it what is asked of inline code. -/
theorem inline_code_loses_front_backtick :
    compileWith { settings := { backticks := true } } "```a`".toList =
        .ok "<span class=\"inline_code\">a</span>".toList ∧
      compileWith { settings := { backticks := true } } "```a`".toList ≠
        .ok "<span class=\"inline_code\">`a</span>".toList := by
  obtain ⟨shown, law⟩ := @inline_code_is_shown_without_front_backticks
    { settings := { backticks := true } } "`a".toList rfl (by decide)
  refine ⟨shown, fun claimed => ?_⟩
  exact (law (by decide)).mp claimed rfl

end PageMarkup
