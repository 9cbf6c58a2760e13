import PageMarkup.Proofs.Contents
import PageMarkup.Proofs.Joined

/-! # Line ends

A line end, or a pipe, goes to the page and leaves what stands before it as it is. There is one
exception. A doubled backtick in a run of text is one backtick where the run ends with the source or
before a single backtick, and two where it ends before a line end, a pipe or a bracket. -/

namespace PageMarkup

open Cursor (IsRun nextText endsText runValue)

/-! ## What ends a run of text -/

/-- A run of text ends at the end of the source, before a line end, a pipe or a bracket, and before
a backtick that is not the first of two. -/
def EndsRun (rest : Text) : Prop :=
  rest = [] ∨ rest.head?.any endsText = true ∨
    ∃ more, rest = '`' :: more ∧ more.head? ≠ some '`'

theorem EndsRun.run_eq {rest : Text} (ends : EndsRun rest) :
    Text.run endsText true rest = ([], rest) := by
  rcases ends with rfl | stops | ⟨more, rfl, single⟩
  · rfl
  · cases rest with
    | nil => rfl
    | cons c rest => exact Text.run_of_stops (by simpa using stops)
  · cases more with
    | nil => rfl
    | cons d more =>
        have other : d ≠ '`' := by simpa using single
        simp [Text.run, endsText, other]

theorem head?_lineEnd_ne {c : Char} (ends : c = '\n' ∨ c = '|') : [c].head? ≠ some '`' := by
  rcases ends with rfl | rfl <;> decide

theorem any_endsText_lineEnd {c : Char} (ends : c = '\n' ∨ c = '|') :
    [c].head?.any endsText = true := by
  rcases ends with rfl | rfl <;> rfl

/-- How the doubled backticks of a run are read hangs on what ends it. -/
theorem Cursor.IsRun.next_of_ends {mode : Mode} {text rest : Text} (run : IsRun true text)
    (tags : mode = .normal ∨ mode = .image) (ends : EndsRun rest) (offset : Nat) :
    (⟨text ++ rest, offset⟩ : Cursor).next mode true =
      .ok (some (⟨.text (if rest.head?.any endsText then text else text.halveBackticks), offset⟩,
        ⟨rest, offset + text.length⟩)) := by
  rw [run.next_append tags]
  simp only [nextText, Text.run_append_of_whole run.whole, ends.run_eq, List.append_nil, runValue,
    Bool.not_true, Bool.false_or]

/-! ## Runs over one more character -/

namespace Compilation

variable {setup : Setup} {source : Text} {last : Compilation} {steps : List Step}

/-- The source ends with a run of text that is read with backticks enabled. -/
def EndsInRun (setup : Setup) (source run : Text) : Prop :=
  ∃ steps last, (start setup.settings source).Reaches setup steps last ∧
    last.document.mode? = some .normal ∧ last.document.backticks = true ∧
    last.cursor.rest = run ∧ IsRun true run

theorem run_lineEnd {document : Document} {c : Char} (current : document.mode? = some .normal)
    (ends : c = '\n' ∨ c = '|') (offset : Nat) :
    (⟨⟨[c], offset⟩, document⟩ : Compilation).run setup =
      (none, ⟨⟨[], offset + 1⟩, document.emit [c]⟩) := by
  have kept : (document.emit [c]).mode? = some .normal := current
  rw [← run_at_end kept]
  rcases ends with rfl | rfl
  · exact run_of_handled (advance_of_next current rfl rfl)
  · exact run_of_handled (advance_of_next current rfl rfl)

/-- At a run of text, what is left of a source is compiled as the text and then what ends it. -/
theorem run_of_isRun {document : Document} {text rest : Text}
    (current : document.mode? = some .normal) (enabled : document.backticks = true)
    (isRun : IsRun true text) (ends : EndsRun rest) (offset : Nat) :
    (⟨⟨text ++ rest, offset⟩, document⟩ : Compilation).run setup =
      (⟨⟨rest, offset + text.length⟩, document.emitText
        (if rest.head?.any endsText then text else text.halveBackticks)⟩ : Compilation).run
        setup := by
  have read := isRun.next_of_ends (.inl rfl) ends offset
  have handled (value : Text) : document.handle setup ⟨.text value, offset⟩ =
      .ok (document.emitText value) := by
    simp only [Document.handle, Document.handleText, current]
  exact run_of_handled (advance_of_next current (enabled ▸ read) (handled _))

/-- Where the source ends with a run, the last text of the page is the run, halved only where
nothing follows. -/
theorem run_of_endsInRun {run : Text} {c : Char} (h : EndsInRun setup source run)
    (ends : c = '\n' ∨ c = '|') :
    ∃ document : Document, document.Laid ∧ ∃ cursor cursor' : Cursor,
      (start setup.settings source).run setup =
        (none, ⟨cursor, document.emitText run.halveBackticks⟩) ∧
      (start setup.settings (source ++ [c])).run setup =
        (none, ⟨cursor', (document.emitText run).emit [c]⟩) := by
  obtain ⟨steps, ⟨⟨rest, offset⟩, document⟩, reaches, current, enabled, rfl, isRun⟩ := h
  simp only at current enabled isRun
  have longer := reaches.followedBy (.inl isRun.nonempty) fun _ => head?_lineEnd_ne ends
  have stops := any_endsText_lineEnd ends
  have alone := @run_of_isRun setup _ _ _ current enabled isRun (.inl rfl) offset
  have more := @run_of_isRun setup _ _ _ current enabled isRun (.inr (.inl stops)) offset
  rw [List.append_nil] at alone
  rw [if_pos stops] at more
  have atEnd := @run_at_end setup (document.emitText rest.halveBackticks) .normal current
  have lineEnd := @run_lineEnd setup (document.emitText rest) c current ends
  exact ⟨document, reaches.laid, _, _, reaches.run_eq.trans (alone.trans (atEnd _)),
    longer.run_eq.trans (more.trans (lineEnd _))⟩

/-- Text at the end of a source is read as well before a line end, unless it is a run read with
backticks enabled. -/
theorem next_lineEnd {cursor after : Cursor} {token : Token} {backticks : Bool} {c : Char}
    (read : cursor.next .normal backticks = .ok (some (token, after)))
    (text : token.form.kind = .text) (ended : after.rest = []) (ends : c = '\n' ∨ c = '|')
    (noRun : backticks = true → ¬ IsRun true cursor.rest) :
    (cursor.followedBy [c]).next .normal backticks = .ok (some (token, after.followedBy [c])) := by
  obtain ⟨rest, offset⟩ := cursor
  rcases Cursor.text_at_end read text (.inl rfl) ended with ⟨rfl, -⟩ | ⟨isRun, same⟩
  · cases read
    rcases ends with rfl | rfl <;> rfl
  cases backticks with
  | true => exact absurd isRun (noRun rfl)
  | false =>
      have stops : Text.run endsText false [c] = ([], [c]) :=
        Text.run_of_stops (any_endsText_lineEnd ends)
      have joined : Text.run endsText false (rest ++ [c]) = (rest, [c]) := by
        rw [Text.run_append_of_whole isRun.whole, stops, List.append_nil]
      obtain ⟨rfl, rfl⟩ := Prod.mk.inj same
      rw [Cursor.followedBy, isRun.next_append (.inl rfl)]
      simp only [nextText, joined, isRun.whole, runValue, Bool.not_false, Bool.true_or, if_true,
        Cursor.followedBy, List.nil_append]

/-- A source that ends with no run read with backticks enabled is left as it is by a line end. -/
theorem run_followedBy_lineEnd {c : Char}
    (ran : (start setup.settings source).run setup = (none, last))
    (current : last.document.mode? = some .normal) (ends : c = '\n' ∨ c = '|')
    (noRun : ∀ run, ¬ EndsInRun setup source run) :
    ((start setup.settings source).followedBy [c]).run setup = (last.followedBy [c]).run setup := by
  apply run_followedBy_of_text ran (head?_lineEnd_ne ends)
  intro steps before token reaches handled text
  obtain ⟨⟨mode, current', read⟩, handles⟩ := advance_eq_handled_iff.mp handled
  obtain rfl : mode = .normal := by
    rw [Document.mode?_of_handle_text handles text, current'] at current
    exact Option.some.inj current
  have longer := next_lineEnd read text (rest_eq_nil_of_run ran) ends fun enabled isRun =>
    noRun before.cursor.rest ⟨steps, before, reaches, current', enabled, rfl, isRun⟩
  exact run_of_handled (advance_of_next current' longer handles)

/-! ## Pages -/

theorem compileWith_lineEnd_of_not_endsInRun {c : Char}
    (ran : (start setup.settings source).run setup = (none, last))
    (current : last.document.mode? = some .normal) (closed : last.document.elements = [])
    (ends : c = '\n' ∨ c = '|') (noRun : ∀ run, ¬ EndsInRun setup source run) :
    compileWith setup (source ++ [c]) = .ok (last.document.render ++ [c]) := by
  obtain ⟨steps, reaches, -⟩ := exists_reaches_of_run ran
  have longer := run_followedBy_lineEnd ran current ends noRun
  rw [followedBy_of_run ran, run_lineEnd current ends] at longer
  exact compileWith_of_run longer closed (reaches.laid.render_emit closed [c])

theorem compileWith_lineEnd_of_endsInRun {run : Text} {c : Char}
    (ran : (start setup.settings source).run setup = (none, last))
    (closed : last.document.elements = []) (ends : c = '\n' ∨ c = '|')
    (h : EndsInRun setup source run) :
    ∃ front, last.document.render = front ++ run.halveBackticks ∧
      compileWith setup (source ++ [c]) = .ok (front ++ run ++ [c]) := by
  obtain ⟨document, laid, cursor, cursor', alone, longer⟩ := run_of_endsInRun h ends
  rw [ran, Prod.mk.injEq] at alone
  obtain rfl := alone.2
  refine ⟨document.render, laid.render_emit closed _, compileWith_of_run longer closed ?_⟩
  have added := laid.render_emit closed (run ++ [c])
  rw [← Document.emit_emit, ← List.append_assoc] at added
  exact added

/-- A line end or a pipe behind a source is added to its page and changes nothing else, unless the
source ends with a run of text that holds a doubled backtick and is read with backticks enabled.
Such a run is halved at the end of the source, as it is before a single backtick; before a line end,
a pipe or a bracket it is not. -/
theorem line_end_is_added_unless_doubled_backtick_before {c : Char}
    (ran : (start setup.settings source).run setup = (none, last))
    (current : last.document.mode? = some .normal) (closed : last.document.elements = [])
    (ends : c = '\n' ∨ c = '|') :
    ∃ page, compileWith setup source = .ok page ∧
      (compileWith setup (source ++ [c]) = .ok (page ++ [c]) ↔
        ∀ run, EndsInRun setup source run → ¬ ['`', '`'] <:+: run) ∧
      (∀ run, EndsInRun setup source run → ∃ front, page = front ++ run.halveBackticks ∧
        compileWith setup (source ++ [c]) = .ok (front ++ run ++ [c])) ∧
      ∀ mode text rest offset, IsRun true text → (mode = .normal ∨ mode = .image) →
        EndsRun rest → (⟨text ++ rest, offset⟩ : Cursor).next mode true =
          .ok (some
            (⟨.text (if rest.head?.any endsText then text else text.halveBackticks), offset⟩,
              ⟨rest, offset + text.length⟩)) := by
  have each (run : Text) (h : EndsInRun setup source run) :=
    compileWith_lineEnd_of_endsInRun ran closed ends h
  have halves := fun mode text rest offset isRun (tags : mode = .normal ∨ mode = .image) stops =>
    @IsRun.next_of_ends mode text rest isRun tags stops offset
  refine ⟨last.document.render, compileWith_of_run ran closed rfl,
    ⟨fun added run h => ?_, fun single => ?_⟩, each, halves⟩
  · obtain ⟨front, page, longer⟩ := each run h
    rw [longer, page, Except.ok.injEq] at added
    apply Text.halveBackticks_eq_self_iff.mp
    simpa using added.symm
  · by_cases ending : ∃ run, EndsInRun setup source run
    · obtain ⟨run, h⟩ := ending
      obtain ⟨front, page, longer⟩ := each run h
      rw [longer, page, Text.halveBackticks_eq_self_iff.mpr (single run h)]
    · exact compileWith_lineEnd_of_not_endsInRun ran current closed ends (not_exists.mp ending)

/-- The same doubled backtick is one backtick at the end of a source, and two before a line end. -/
theorem doubled_backtick_at_end_and_before_line_end :
    compileWith { settings := { backticks := true } } "a``b".toList = .ok "a`b".toList ∧
      compileWith { settings := { backticks := true } } ("a``b".toList ++ ['\n']) =
        .ok "a``b\n".toList := by
  have isRun : IsRun true "a``b".toList :=
    { nonempty := by decide
      tick := by rintro c ⟨⟩; rfl
      whole := by decide }
  have ran : ∃ last, (start { backticks := true } "a``b".toList).run
      { settings := { backticks := true } } = (none, last) ∧
      last.document.mode? = some .normal ∧ last.document.elements = [] ∧
      last.document.render = "a`b".toList :=
    ⟨_, (run_of_isRun rfl rfl isRun (.inl rfl) 0).trans (run_at_end rfl _), rfl, rfl, rfl⟩
  obtain ⟨last, ran, current, closed, rendered⟩ := ran
  have ending : EndsInRun { settings := { backticks := true } } "a``b".toList "a``b".toList :=
    ⟨[], _, .refl, rfl, rfl, rfl, isRun⟩
  obtain ⟨page, compiled, -, doubled, -⟩ :=
    line_end_is_added_unless_doubled_backtick_before ran current closed (.inl rfl)
  obtain ⟨front, shown, longer⟩ := doubled _ ending
  have whole := compileWith_of_run ran closed rendered
  obtain rfl : page = "a`b".toList := Except.ok.inj (compiled.symm.trans whole)
  obtain rfl : front = [] := List.self_eq_append_left.mp shown
  exact ⟨compiled, longer⟩

end Compilation

end PageMarkup
