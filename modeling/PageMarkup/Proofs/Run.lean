import PageMarkup.Compilation

/-! Runs of a compilation, step by step. `Compilation.Reaches` lists the steps that lead from one
compilation to another, and the page of a source is told by where its run ends. -/

namespace PageMarkup

section Reports

variable {α β γ : Type}

@[simp]
theorem mapError_ok (f : α → β) (value : γ) : (Except.ok value).mapError f = .ok value := rfl

@[simp]
theorem mapError_error (f : α → β) (fault : α) :
    (Except.error fault : Except α γ).mapError f = .error (f fault) := rfl

end Reports

/-- The page that a source describes, or what is wrong with it, with the ids of bookmarks chosen
by the setup. -/
def compileWith (setup : Setup) (source : Text) : Except Fault Text :=
  ((Session.start setup.settings source).parse setup).1

theorem compile_eq_compileWith (settings : Settings) (source : Text) :
    compile settings source =
      (compileWith { settings } source).mapError fun fault => fault.report source := by
  have report := congrArg (fun kept (fault : Fault) => fault.report kept)
    (Session.source_parse { settings } (.start settings source))
  exact congrArg (compileWith { settings } source).mapError report

/-- A token, and the document that it was handled by. -/
structure Step where
  document : Document
  token : Token

namespace Compilation

/-- The compilation with which the first page of a session begins. -/
def opening (settings : Settings) (source : Text) : Compilation :=
  ⟨.start source, (Document.start settings).tell (.compiling source.length)⟩

/-- `token` is the next token of the source, and `after` the place behind it. -/
def Reads (compilation : Compilation) (token : Token) (after : Cursor) : Prop :=
  ∃ mode, compilation.document.mode? = some mode ∧
    compilation.cursor.next mode compilation.document.backticks = .ok (some (token, after))

/-- Tokens handled one after another lead from one compilation to another. -/
inductive Reaches (setup : Setup) (first : Compilation) : List Step → Compilation → Prop
  | refl : Reaches setup first [] first
  | step {steps before token after} (earlier : Reaches setup first steps before)
      (handled : before.advance setup = .handled token after) :
      Reaches setup first (steps ++ [⟨before.document, token⟩]) after

/-! ### One step -/

theorem advance_eq_handled_iff {setup : Setup} {before after : Compilation} {token : Token} :
    before.advance setup = .handled token after ↔
      before.Reads token after.cursor ∧
        before.document.handle setup token = .ok after.document := by
  obtain ⟨cursor, document⟩ := before
  obtain ⟨cursor', document'⟩ := after
  simp only [advance, Reads]
  constructor
  · intro h
    split at h
    · cases h
    next mode found =>
    split at h
    · cases h
    · cases h
    next read =>
    split at h
    · cases h
    next handled =>
    cases h
    exact ⟨⟨mode, found, read⟩, handled⟩
  · rintro ⟨⟨mode, found, read⟩, handled⟩
    simp only [found, read, handled]

theorem advance_of_next {setup : Setup} {cursor cursor' : Cursor} {document document' : Document}
    {mode : Mode} {token : Token} (current : document.mode? = some mode)
    (read : cursor.next mode document.backticks = .ok (some (token, cursor')))
    (handled : document.handle setup token = .ok document') :
    (⟨cursor, document⟩ : Compilation).advance setup = .handled token ⟨cursor', document'⟩ :=
  advance_eq_handled_iff.mpr ⟨⟨mode, current, read⟩, handled⟩

/-- A step stops before reading, while reading or while handling what was read. -/
theorem advance_eq_stopped {setup : Setup} {before after : Compilation} {token? : Option Token}
    {fault : Fault} (h : before.advance setup = .stopped token? fault after) :
    before.document.mode? = none ∨
      (∃ mode stop, before.document.mode? = some mode ∧
        before.cursor.next mode before.document.backticks = .error stop ∧ fault = stop.fault) ∨
      ∃ token cursor halt, before.Reads token cursor ∧
        before.document.handle setup token = .error halt ∧ fault = halt.fault := by
  obtain ⟨cursor, document⟩ := before
  simp only [advance] at h
  split at h
  · next missing => exact .inl missing
  next mode found =>
  split at h
  · next stop read =>
      cases h
      exact .inr (.inl ⟨mode, stop, found, read, rfl⟩)
  · cases h
  next token cursor' read =>
  split at h
  · next halt handled =>
      cases h
      exact .inr (.inr ⟨token, cursor', halt, ⟨mode, found, read⟩, handled, rfl⟩)
  · cases h

theorem advance_of_refused {setup : Setup} {before : Compilation} {token : Token} {cursor : Cursor}
    {halt : Halt} (read : before.Reads token cursor)
    (refused : before.document.handle setup token = .error halt) :
    before.advance setup = .stopped (some token) halt.fault ⟨cursor, halt.document⟩ := by
  obtain ⟨start, document⟩ := before
  obtain ⟨mode, found, read⟩ := read
  simp only at found read refused
  simp only [advance, found, read, refused]

theorem rest_eq_nil_of_finished {setup : Setup} {last : Compilation}
    (h : last.advance setup = .finished) : last.cursor.rest = [] := by
  obtain ⟨cursor, document⟩ := last
  simp only [advance] at h
  split at h
  · cases h
  split at h
  · cases h
  · next read => exact Cursor.next_eq_none_iff.mp read
  · split at h <;> cases h

theorem advance_at_end {setup : Setup} {last : Compilation} {mode : Mode}
    (current : last.document.mode? = some mode) (ended : last.cursor.rest = []) :
    last.advance setup = .finished := by
  obtain ⟨⟨rest, offset⟩, document⟩ := last
  obtain rfl : rest = [] := ended
  simp only at current
  simp only [advance, current]
  rfl

/-- If closed tags are required and nothing is wrong at the end, no element is left open. -/
theorem elements_eq_nil_of_leftOpen {settings : Settings} {document : Document}
    (required : settings.closeTags = true) (left : leftOpen? settings document = none) :
    document.elements = [] := by
  unfold leftOpen? at left
  split at left
  · rw [if_pos required] at left
    cases left
  · assumption

/-! ### Runs -/

theorem run_of_handled {setup : Setup} {before after : Compilation} {token : Token}
    (h : before.advance setup = .handled token after) : before.run setup = after.run setup := by
  rw [run]
  split
  · next finished => simp [h] at finished
  · next handled =>
      rw [h] at handled
      cases handled
      rfl
  · next stopped => simp [h] at stopped

theorem run_of_finished {setup : Setup} {last : Compilation} (h : last.advance setup = .finished) :
    last.run setup = (none, last) := by
  rw [run]
  split
  · rfl
  · next handled => simp [h] at handled
  · next stopped => simp [h] at stopped

theorem run_at_end {setup : Setup} {document : Document} {mode : Mode}
    (current : document.mode? = some mode) (offset : Nat) :
    (⟨⟨[], offset⟩, document⟩ : Compilation).run setup = (none, ⟨⟨[], offset⟩, document⟩) :=
  run_of_finished (advance_at_end current rfl)

theorem run_of_stopped {setup : Setup} {last after : Compilation} {token? : Option Token}
    {fault : Fault} (h : last.advance setup = .stopped token? fault after) :
    last.run setup = (some fault, after) := by
  rw [run]
  split
  · next finished => simp [h] at finished
  · next handled => simp [h] at handled
  · next stopped =>
      rw [h] at stopped
      cases stopped
      rfl

/-- Two steps that match: both finish, both go on with `kept` holding of what they come to, or both
stop. Of runs that end with them, the same is `seen`. -/
inductive MatchedSteps {α : Type} (kept : Compilation → Compilation → Prop)
    (seen : Option Fault × Compilation → α) (one two : Compilation) : Advance → Advance → Prop
  | finished (same : seen (none, one) = seen (none, two)) :
      MatchedSteps kept seen one two .finished .finished
  | handled {token token' after after'} (later : kept after after') :
      MatchedSteps kept seen one two (.handled token after) (.handled token' after')
  | stopped {token? token?' fault fault' after after'}
      (same : seen (some fault, after) = seen (some fault', after')) :
      MatchedSteps kept seen one two (.stopped token? fault after) (.stopped token?' fault' after')

/-- What is seen of two runs is the same if their steps match. -/
theorem run_matched {α : Type} {setup setup' : Setup} {kept : Compilation → Compilation → Prop}
    {seen : Option Fault × Compilation → α}
    (steps : ∀ {one two}, kept one two →
      MatchedSteps kept seen one two (one.advance setup) (two.advance setup'))
    {one two : Compilation} (start : kept one two) :
    seen (one.run setup) = seen (two.run setup') := by
  fun_induction run setup one generalizing two with
  | case1 last finished =>
      have step := steps start
      rw [finished] at step
      generalize ended : two.advance setup' = advance at step
      cases step with
      | finished same => rw [run_of_finished ended, same]
  | case2 here token after handled ih =>
      have step := steps start
      rw [handled] at step
      generalize handled' : two.advance setup' = advance at step
      cases step with
      | handled later => rw [run_of_handled handled', ih later]
  | case3 last token? fault after stopped =>
      have step := steps start
      rw [stopped] at step
      generalize stopped' : two.advance setup' = advance at step
      cases step with
      | stopped same => rw [run_of_stopped stopped', same]

/-- Setups under which every step is the same lead to the same end. -/
theorem run_congr {setup setup' : Setup}
    (advances : ∀ here : Compilation, here.advance setup = here.advance setup')
    (first : Compilation) : first.run setup = first.run setup' := by
  refine @run_matched _ setup setup' Eq id (fun {here _} same => ?_) first first rfl
  subst same
  rw [advances]
  cases here.advance setup' with
  | finished => exact .finished rfl
  | handled => exact .handled rfl
  | stopped => exact .stopped rfl

namespace Reaches

variable {setup : Setup} {first next last : Compilation} {steps : List Step}

theorem run_eq (h : first.Reaches setup steps last) : first.run setup = last.run setup := by
  induction h with
  | refl => rfl
  | step _ handled ih => rw [ih, run_of_handled handled]

/-- A step before a run makes a longer run. -/
theorem cons {token : Token} (handled : first.advance setup = .handled token next)
    (later : next.Reaches setup steps last) :
    first.Reaches setup (⟨first.document, token⟩ :: steps) last := by
  induction later with
  | refl => exact .step .refl handled
  | step _ further ih => exact .step ih further

theorem append {front back : List Step} (earlier : first.Reaches setup front next)
    (later : next.Reaches setup back last) : first.Reaches setup (front ++ back) last := by
  induction later with
  | refl => rwa [List.append_nil]
  | step _ handled ih =>
      rw [← List.append_assoc]
      exact ih.step handled

/-- A run over two rows of steps comes by a compilation in between. -/
theorem split {front back : List Step} (h : first.Reaches setup (front ++ back) last) :
    ∃ middle, first.Reaches setup front middle ∧ middle.Reaches setup back last := by
  generalize whole : front ++ back = steps at h
  induction h generalizing back with
  | refl =>
      obtain ⟨rfl, rfl⟩ := List.append_eq_nil_iff.mp whole
      exact ⟨first, .refl, .refl⟩
  | step earlier handled ih =>
      rcases List.eq_nil_or_concat back with rfl | ⟨inner, step, rfl⟩
      · rw [List.append_nil] at whole
        exact ⟨_, whole ▸ earlier.step handled, .refl⟩
      · rw [List.concat_eq_append, ← List.append_assoc] at whole
        obtain ⟨same, single⟩ := List.append_inj' whole rfl
        obtain ⟨middle, begun, later⟩ := ih same
        rw [List.concat_eq_append, single]
        exact ⟨middle, begun, later.step handled⟩

/-- A run begins with its first step. -/
theorem uncons {here : Step} (h : first.Reaches setup (here :: steps) last) :
    ∃ next, here.document = first.document ∧ first.advance setup = .handled here.token next ∧
      next.Reaches setup steps last := by
  have whole : first.Reaches setup ([here] ++ steps) last := h
  obtain ⟨next, once, later⟩ := whole.split
  generalize single : [here] = row at once
  cases once with
  | refl => cases single
  | step earlier handled =>
      rw [← List.nil_append [here]] at single
      obtain ⟨none, same⟩ := List.append_inj' single rfl
      obtain rfl := (List.cons.inj same).1
      cases earlier with
      | refl => exact ⟨next, rfl, handled, later⟩
      | step => simp at none

/-- A run comes to each of its steps, takes it and goes on. -/
theorem at_step {front back : List Step} {here : Step}
    (h : first.Reaches setup (front ++ here :: back) last) :
    ∃ before after, first.Reaches setup front before ∧ here.document = before.document ∧
      before.advance setup = .handled here.token after ∧ after.Reaches setup back last := by
  obtain ⟨before, earlier, later⟩ := h.split
  obtain ⟨after, same, handled, behind⟩ := later.uncons
  exact ⟨before, after, earlier, same, handled, behind⟩

/-- All runs over a source are parts of one that goes no further. -/
theorem prefix_of_ended {last' : Compilation} {steps' : List Step}
    (whole : first.Reaches setup steps last)
    (ended : ∀ token after, last.advance setup ≠ .handled token after)
    (part : first.Reaches setup steps' last') :
    ∃ back, steps = steps' ++ back ∧ last'.Reaches setup back last := by
  induction part with
  | refl => exact ⟨steps, rfl, whole⟩
  | @step steps' before token after _ handled ih =>
      obtain ⟨back, rfl, later⟩ := ih
      cases back with
      | nil =>
          generalize none : [] = back at later
          cases later with
          | refl => exact absurd handled (ended token after)
          | step => simp at none
      | cons step back =>
          obtain ⟨next, here, taken, later⟩ := later.uncons
          rw [handled] at taken
          cases taken
          exact ⟨back, by simp [← here], later⟩

/-- A run that has read its source to the end goes over all of its steps. -/
theorem eq_of_rest_eq_nil {last' : Compilation} {steps' : List Step}
    (whole : first.Reaches setup steps last) (finished : last.advance setup = .finished)
    (part : first.Reaches setup steps' last') (read : last'.cursor.rest = []) :
    steps' = steps ∧ last' = last := by
  have ended (token : Token) (after : Compilation) : last.advance setup ≠ .handled token after := by
    rw [finished]
    exact nofun
  obtain ⟨back, rfl, later⟩ := whole.prefix_of_ended ended part
  cases back with
  | nil =>
      generalize none : [] = back at later
      cases later with
      | refl => exact ⟨(List.append_nil _).symm, rfl⟩
      | step => simp at none
  | cons step back =>
      obtain ⟨next, -, taken, -⟩ := later.uncons
      have shorter := advance_shorter taken
      simp [read] at shorter

/-- What a step keeps, a run keeps. -/
theorem invariant (kept : Compilation → Prop)
    (keeps : ∀ {before after token}, before.advance setup = .handled token after →
      kept before → kept after)
    (h : first.Reaches setup steps last) (start : kept first) : kept last := by
  induction h with
  | refl => exact start
  | step _ handled ih => exact keeps handled ih

/-- A run stands where it has read to. -/
theorem reads_start (h : first.Reaches setup steps last) :
    ∃ read, first.cursor.Reads read last.cursor := by
  refine h.invariant (fun here => ∃ read, first.cursor.Reads read here.cursor) ?_ ⟨[], .refl _⟩
  rintro before after token handled ⟨earlier, start⟩
  obtain ⟨⟨mode, -, read⟩, -⟩ := advance_eq_handled_iff.mp handled
  obtain ⟨further, -, reads⟩ := Cursor.reads_next read
  exact ⟨_, start.trans reads⟩

/-- Where a run stands, it has what follows in the source before it. -/
theorem cursor_eq {settings : Settings} {read rest : Text}
    (h : (opening settings (read ++ rest)).Reaches setup steps last)
    (place : last.cursor.offset = read.length) : last.cursor = ⟨rest, read.length⟩ := by
  obtain ⟨written, start⟩ := h.reads_start
  have length : read.length = written.length := by
    rw [← place, start.offset]
    exact Nat.zero_add _
  have same : read ++ rest = written ++ last.cursor.rest := start.rest
  obtain ⟨-, rfl⟩ := List.append_inj same length
  rw [← place]

end Reaches

/-- Every run takes some steps and then finishes or stops. -/
theorem exists_reaches_run (setup : Setup) (first : Compilation) :
    ∃ steps last, first.Reaches setup steps last ∧
      (last.advance setup = .finished ∧ first.run setup = (none, last) ∨
        ∃ token? fault after, last.advance setup = .stopped token? fault after ∧
          first.run setup = (some fault, after)) := by
  fun_induction run setup first with
  | case1 last finished => exact ⟨[], last, .refl, .inl ⟨finished, rfl⟩⟩
  | case2 first token next handled ih =>
      obtain ⟨steps, last, reaches, ends⟩ := ih
      exact ⟨_, last, reaches.cons handled, ends⟩
  | case3 last token? fault after stopped =>
      exact ⟨[], last, .refl, .inr ⟨token?, fault, after, stopped, rfl⟩⟩

theorem exists_reaches_of_run {setup : Setup} {first last : Compilation}
    (ran : first.run setup = (none, last)) :
    ∃ steps, first.Reaches setup steps last ∧ last.advance setup = .finished := by
  obtain ⟨steps, reached, reaches, ⟨finished, run⟩ | ⟨_, _, _, _, run⟩⟩ :=
    exists_reaches_run setup first
  · obtain rfl : last = reached := by simpa [ran] using run
    exact ⟨steps, reaches, finished⟩
  · simp [ran] at run

theorem rest_eq_nil_of_run {setup : Setup} {first last : Compilation}
    (ran : first.run setup = (none, last)) : last.cursor.rest = [] := by
  obtain ⟨_, -, finished⟩ := exists_reaches_of_run ran
  exact rest_eq_nil_of_finished finished

end Compilation

/-! ### Pages -/

open Compilation

theorem compileWith_eq (setup : Setup) (source : Text) :
    compileWith setup source =
      match (opening setup.settings source).run setup with
      | (some fault, _) => .error fault
      | (none, last) =>
        match leftOpen? setup.settings last.document with
        | some fault => .error fault
        | none => .ok last.document.render := by
  simp only [compileWith, Session.parse, Session.start, opening, Compilation.start]
  generalize Compilation.run setup _ = result
  obtain ⟨_ | fault, last⟩ := result
  · simp only [Option.none_or]
    cases leftOpen? setup.settings last.document <;> rfl
  · rfl

/-- There is a page when the run finishes and leaves nothing open that has to be closed. -/
theorem compileWith_eq_ok_iff {setup : Setup} {source page : Text} :
    compileWith setup source = .ok page ↔
      ∃ steps last, (opening setup.settings source).Reaches setup steps last ∧
        last.advance setup = .finished ∧ leftOpen? setup.settings last.document = none ∧
        last.document.render = page := by
  rw [compileWith_eq]
  constructor
  · intro h
    obtain ⟨steps, last, reaches, ⟨finished, run⟩ | ⟨_, _, _, _, run⟩⟩ :=
      exists_reaches_run setup (opening setup.settings source)
    · rw [run] at h
      simp only at h
      split at h
      · cases h
      next closed => exact ⟨steps, last, reaches, finished, closed, Except.ok.inj h⟩
    · rw [run] at h
      cases h
  · rintro ⟨steps, last, reaches, finished, closed, rfl⟩
    rw [reaches.run_eq, run_of_finished finished]
    simp only [closed]

/-- There is a fault when the run stops, or finishes and leaves open what has to be closed. -/
theorem compileWith_eq_error_iff {setup : Setup} {source : Text} {fault : Fault} :
    compileWith setup source = .error fault ↔
      ∃ steps last, (opening setup.settings source).Reaches setup steps last ∧
        ((∃ token? after, last.advance setup = .stopped token? fault after) ∨
          last.advance setup = .finished ∧
            leftOpen? setup.settings last.document = some fault) := by
  rw [compileWith_eq]
  constructor
  · intro h
    obtain ⟨steps, last, reaches, ⟨finished, run⟩ | ⟨token?, _, after, stopped, run⟩⟩ :=
      exists_reaches_run setup (opening setup.settings source)
    · rw [run] at h
      simp only at h
      split at h
      · next found =>
          cases h
          exact ⟨steps, last, reaches, .inr ⟨finished, found⟩⟩
      · cases h
    · rw [run] at h
      cases h
      exact ⟨steps, last, reaches, .inl ⟨token?, after, stopped⟩⟩
  · rintro ⟨steps, last, reaches, ⟨token?, after, stopped⟩ | ⟨finished, found⟩⟩
    · rw [reaches.run_eq, run_of_stopped stopped]
    · rw [reaches.run_eq, run_of_finished finished]
      simp only [found]

end PageMarkup
