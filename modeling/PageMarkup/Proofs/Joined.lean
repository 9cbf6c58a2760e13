import PageMarkup.Proofs.Handling.Rules
import PageMarkup.Proofs.Reading.Backticks
import PageMarkup.Proofs.Reading.Extended
import PageMarkup.Proofs.Relocation

/-! # Sources that go on

A run over a source is also a run over every source that begins with it, up to text at the end. That
text may be one token with text of what follows. Without backticks the one token does what the two
would do, so that a source in two parts is compiled part after part. -/

namespace PageMarkup

open Cursor (IsRun nextText endsText runValue)

/-! ## Text in two pieces -/

namespace Document

variable {document middle : Document} {first : Text} {offset : Int}

theorem emitText_emitText (first second : Text) :
    (document.emitText first).emitText second = document.emitText (first ++ second) := by
  simp only [emitText, emit, Sink.emit_emit, List.map_map]
  congr 2
  funext capture
  simp

theorem capture_append (h : document.capture first = some middle) (second : Text) :
    middle.capture second = document.capture (first ++ second) := by
  unfold capture at h ⊢
  split at h
  · cases h
  · cases h
    simp only [List.append_assoc]

/-- Text changes nothing of what the next token is read by. -/
theorem reading_of_handleText (h : document.handleText first offset = .ok middle) :
    middle.mode? = document.mode? ∧ middle.backticks = document.backticks := by
  cases @handleText_handling {} _ _ _ _ h <;> exact ⟨rfl, rfl⟩

theorem mode?_of_handle_text {setup : Setup} {token : Token}
    (h : document.handle setup token = .ok middle) (text : token.form.kind = .text) :
    middle.mode? = document.mode? := by
  obtain ⟨form, offset⟩ := token
  cases form with
  | text value => exact (reading_of_handleText h).1
  | newline | pipe | openTag | closeTag | selfCloseTag | backtick => cases text

/-- Outside inline code, text in two pieces does what it does in one. -/
theorem handleText_append (h : document.handleText first offset = .ok middle)
    (tags : document.mode? = some .normal ∨ document.mode? = some .image) (second : Text)
    (place : Int) :
    ∃ after, document.handleText (first ++ second) offset = .ok after ∧
      middle.handleText second place = .ok after := by
  obtain ⟨kept, -⟩ := reading_of_handleText h
  rcases tags with mode | mode
  · rw [mode] at kept
    simp only [handleText, mode, Except.ok.injEq] at h
    simp only [handleText, mode, kept, ← emitText_emitText, h]
    exact ⟨_, rfl, rfl⟩
  · rw [mode] at kept
    simp only [handleText, mode] at h
    split at h
    · next found =>
        cases h
        have whole := capture_append found second
        obtain ⟨element, outer, elements, rfl⟩ := capture_eq_some found
        simp only [handleText, mode, kept, ← whole]
        exact ⟨_, rfl, rfl⟩
    · cases h

end Document

/-! ## Runs that go on -/

namespace Compilation

variable {setup : Setup} {first before after last : Compilation} {token : Token} {steps : List Step}
  {more : Text}

/-- The compilation where the source goes on with `more`. -/
def followedBy (more : Text) (compilation : Compilation) : Compilation :=
  ⟨compilation.cursor.followedBy more, compilation.document⟩

theorem followedBy_of_run (ran : first.run setup = (none, last)) (more : Text) :
    last.followedBy more = ⟨⟨more, last.cursor.offset⟩, last.document⟩ := by
  simp only [followedBy, Cursor.followedBy, rest_eq_nil_of_run ran, List.nil_append]

theorem rest_ne_nil_of_handled (h : before.advance setup = .handled token after) :
    before.cursor.rest ≠ [] := by
  have shorter := advance_shorter h
  intro empty
  simp [empty] at shorter

theorem advance_followedBy (h : before.advance setup = .handled token after)
    (ends : after.cursor.rest ≠ [] ∨ token.form.kind ≠ .text)
    (single : after.cursor.rest = ['`'] → more.head? ≠ some '`') :
    (before.followedBy more).advance setup = .handled token (after.followedBy more) := by
  rw [advance_eq_handled_iff] at h ⊢
  obtain ⟨⟨mode, current, read⟩, handled⟩ := h
  have longer := Cursor.next_followedBy more read fun text =>
    .append (ends.resolve_right (by simp [text])) single
  exact ⟨⟨mode, current, longer⟩, handled⟩

/-- A run whose last token is no text at the end of the source is a run over every longer source,
where a backtick at the end is not doubled. -/
theorem Reaches.followedBy (h : first.Reaches setup steps last)
    (ends : last.cursor.rest ≠ [] ∨ ∀ step ∈ steps.getLast?, step.token.form.kind ≠ .text)
    (other : last.cursor.rest <:+ ['`'] → more.head? ≠ some '`') :
    (first.followedBy more).Reaches setup steps (last.followedBy more) := by
  induction h with
  | refl => exact .refl
  | step earlier handled ih =>
      obtain ⟨⟨_, _, read⟩, -⟩ := advance_eq_handled_iff.mp handled
      obtain ⟨_, -, reads⟩ := Cursor.reads_next read
      have begun := ih (.inl (rest_ne_nil_of_handled handled)) fun within =>
        other ((reads.rest ▸ List.suffix_append _ _).trans within)
      refine begun.step (advance_followedBy handled (by simpa using ends) fun single => ?_)
      exact other (single ▸ List.suffix_rfl)

/-- Whether a run to the end of its source goes on in a longer one hangs on text at the end. -/
theorem run_followedBy_of_text (ran : first.run setup = (none, last))
    (other : more.head? ≠ some '`')
    (across : ∀ {steps before token}, first.Reaches setup steps before →
      before.advance setup = .handled token last → token.form.kind = .text →
      (before.followedBy more).run setup = (last.followedBy more).run setup) :
    (first.followedBy more).run setup = (last.followedBy more).run setup := by
  obtain ⟨steps, reaches, -⟩ := exists_reaches_of_run ran
  cases reaches with
  | refl => rfl
  | @step earlier before token _ begun handled =>
      by_cases text : token.form.kind = .text
      · have left := rest_ne_nil_of_handled handled
        rw [(begun.followedBy (.inl left) fun _ => other).run_eq]
        exact across begun handled text
      · exact ((begun.step handled).followedBy (.inr (by simpa using text)) fun _ => other).run_eq

end Compilation

/-! ## Text across the joint -/

namespace Cursor

variable {backticks : Bool} {run rest text : Text}

theorem runValue_eq_self (plain : backticks = false ∨ '`' ∉ run) :
    runValue backticks run rest = run := by
  unfold runValue
  split
  · rfl
  · next read =>
      have enabled : backticks ≠ false := fun off => by simp [off] at read
      exact Text.halveBackticks_of_not_mem (plain.resolve_left enabled)

theorem nextText_of_run (found : Text.run endsText backticks text = (run, rest))
    (plain : backticks = false ∨ '`' ∉ run) (offset : Nat) :
    nextText backticks ⟨text, offset⟩ = (⟨.text run, offset⟩, ⟨rest, offset + run.length⟩) := by
  simp only [nextText, found, runValue_eq_self plain]

theorem isRun_of_run (found : Text.run endsText backticks text = (run, rest)) (nonempty : run ≠ [])
    (plain : backticks = false ∨ '`' ∉ run) : IsRun backticks run := by
  have whole := Text.run_run endsText backticks text
  rw [found] at whole
  refine ⟨nonempty, fun c head => ?_, whole⟩
  rcases plain with off | plain
  · simp [off]
  · have other : c ≠ '`' := fun same => plain (same ▸ List.mem_of_mem_head? head)
    simp [other]

end Cursor

namespace Compilation

/-- Text at the end of a source is one token with the text that follows it, and that token does what
the two would do. -/
theorem run_across {setup : Setup} {text more : Text} {offset : Nat} {document middle : Document}
    {mode : Mode} (isRun : IsRun document.backticks text) (current : document.mode? = some mode)
    (tags : mode = .normal ∨ mode = .image)
    (plain : document.backticks = false ∨ '`' ∉ text ++ more)
    (handled : document.handleText text offset = .ok middle) :
    (⟨⟨text ++ more, offset⟩, document⟩ : Compilation).run setup =
      (⟨⟨more, offset + text.length⟩, middle⟩ : Compilation).run setup := by
  obtain ⟨run, rest, found⟩ : ∃ run rest, Text.run endsText document.backticks more = (run, rest) :=
    ⟨_, _, rfl⟩
  have whole : run ++ rest = more := by
    have parts := Text.run_append endsText document.backticks more
    rwa [found] at parts
  have plainJoined : document.backticks = false ∨ '`' ∉ text ++ run := by
    refine plain.imp_right fun plain mem => plain ?_
    rw [← whole, ← List.append_assoc]
    exact List.mem_append_left rest mem
  have plainRun : document.backticks = false ∨ '`' ∉ run :=
    plainJoined.imp_right fun plain mem => plain (List.mem_append_right text mem)
  have joined : Text.run endsText document.backticks (text ++ more) = (text ++ run, rest) := by
    rw [Text.run_append_of_whole isRun.whole, found]
  have read := isRun.next_append tags more offset
  rw [Cursor.nextText_of_run joined plainJoined] at read
  have currentMode : document.mode? = some .normal ∨ document.mode? = some .image := by
    rwa [current, Option.some.injEq, Option.some.injEq]
  obtain ⟨after, once, twice⟩ :=
    Document.handleText_append handled currentMode run (offset + text.length : Nat)
  rw [run_of_handled (advance_of_next current read once)]
  by_cases empty : run = []
  · subst empty
    rw [List.append_nil, handled, Except.ok.injEq] at once
    rw [once, List.append_nil, ← whole, List.nil_append]
  · have second := (Cursor.isRun_of_run found empty plainRun).next_append tags rest
      (offset + text.length)
    obtain ⟨sameMode, sameMark⟩ := Document.reading_of_handleText handled
    rw [whole, Cursor.nextText_of_run found plainRun, ← sameMark] at second
    rw [run_of_handled (advance_of_next (sameMode.trans current) second twice)]
    simp only [List.length_append, Nat.add_assoc]

/-- A source without backticks is compiled up to any joint of its parts, and then on from there. The
first part does not end with a bracket, which what follows it could make a tag. -/
theorem run_followedBy {setup : Setup} {first last : Compilation} {more : Text}
    (ran : first.run setup = (none, last))
    (tags : last.document.mode? = some .normal ∨ last.document.mode? = some .image)
    (plain : '`' ∉ first.cursor.rest) (plainMore : '`' ∉ more)
    (noBracket : first.cursor.rest.getLast? ≠ some '<') :
    (first.followedBy more).run setup = (last.followedBy more).run setup := by
  have other : more.head? ≠ some '`' := fun head => plainMore (List.mem_of_head? head)
  -- What remains is text at the end of the first part: a lone bracket, or a run that goes on.
  apply run_followedBy_of_text ran other
  intro steps before token reaches handled text
  obtain ⟨start, reads⟩ := reaches.reads_start
  rw [reads.rest] at plain noBracket
  have plainLast : '`' ∉ before.cursor.rest := fun mem => plain (List.mem_append_right start mem)
  obtain ⟨⟨mode, current, read⟩, handles⟩ := advance_eq_handled_iff.mp handled
  have tagged : mode = .normal ∨ mode = .image := by
    rw [Document.mode?_of_handle_text handles text, current] at tags
    simpa using tags
  have ended := rest_eq_nil_of_run ran
  rcases Cursor.text_at_end read text tagged ended with ⟨bracket, -⟩ | ⟨isRun, same⟩
  · simp [bracket] at noBracket
  · rw [Cursor.nextText_of_run isRun.whole (.inr plainLast)] at same
    obtain ⟨rfl, reached⟩ := Prod.mk.inj same
    simp only [followedBy, Cursor.followedBy, reached, List.nil_append]
    exact run_across isRun current tagged (.inr (by simp [plainLast, plainMore])) handles

/-! ## Two sources, one after the other -/

/-- Two sources without backticks are compiled together as the first and then, from what it left,
the second, all offsets further on by the length of the first. Whether the second comes to its end
or to a fault, what is left is the same. -/
theorem joined_sources_are_compiled_apart {setup : Setup} {first second : Text} {last : Compilation}
    (plain : '`' ∉ first) (plainSecond : '`' ∉ second) (noBracket : first.getLast? ≠ some '<')
    (ran : (start setup.settings first).run setup = (none, last))
    (tags : last.document.mode? = some .normal ∨ last.document.mode? = some .image) :
    (start setup.settings (first ++ second)).run setup =
        (⟨⟨second, first.length⟩, last.document⟩ : Compilation).run setup ∧
      (start setup.settings (first ++ second)).run setup =
        let apart : Compilation := ⟨.start second, last.document.behind (-first.length) []⟩
        ((apart.run setup).1.map (Fault.behind first.length),
          (apart.run setup).2.behind first.length []) := by
  -- The first source has been read whole, so that what follows stands at its length.
  obtain ⟨steps, reaches, -⟩ := exists_reaches_of_run ran
  obtain ⟨read, reads⟩ := reaches.reads_start
  have whole : first = read := by
    have rest := reads.rest
    rwa [rest_eq_nil_of_run ran, List.append_nil] at rest
  have reached : last.followedBy second = ⟨⟨second, first.length⟩, last.document⟩ := by
    simp only [followedBy_of_run ran, reads.offset, whole, start, Cursor.start, Nat.zero_add]
  have joined : (start setup.settings (first ++ second)).run setup =
      (⟨⟨second, first.length⟩, last.document⟩ : Compilation).run setup := by
    rw [← reached]
    exact run_followedBy ran tags plain plainSecond noBracket
  refine ⟨joined, joined.trans ?_⟩
  rw [← run_behind]
  simp only [behind, Cursor.behind, Cursor.start, Nat.zero_add, Document.behind_neg]

/-- The address of an image in two parts is read as one. -/
theorem image_address_in_two_parts :
    ∃ last, (start {} "<image>a".toList).run {} = (none, last) ∧
      last.document.mode? = some .image ∧
      (start {} ("<image>a".toList ++ "b</image>".toList)).run {} =
        (⟨⟨"b</image>".toList, 8⟩, last.document⟩ : Compilation).run {} := by
  have name : Cursor.IsTagName "image".toList := by decide
  have opens := Cursor.next_writtenTag (show Mode.normal ≠ .code by decide) (by decide) false name
    (List.forall_mem_nil _) false ['a'] 0
  have address : (⟨['a'], 7⟩ : Cursor).next .image false =
      .ok (some (⟨.text ['a'], 7⟩, ⟨[], 8⟩)) := by
    simp [Cursor.next, nextText, Text.run, endsText, runValue]
  have ran : ∃ last, (start {} "<image>a".toList).run {} = (none, last) ∧
      last.document.mode? = some .image := by
    refine ⟨_, (run_of_handled (advance_of_next rfl opens rfl)).trans
      ((run_of_handled (advance_of_next rfl address rfl)).trans (run_of_finished rfl)), rfl⟩
  obtain ⟨last, ran, mode⟩ := ran
  exact ⟨last, ran, mode, (joined_sources_are_compiled_apart (by decide) (by decide) (by decide) ran
    (.inr mode)).1⟩

end Compilation

end PageMarkup
