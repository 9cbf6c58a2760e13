import PageMarkup.Proofs.Handling.Refusals
import PageMarkup.Proofs.Handling.Rules
import PageMarkup.Proofs.Reading.Faults
import PageMarkup.Proofs.Reading.Written

/-! # Sessions

A session can be asked for its page again. A page stays, and so does a fault that is met without
anything being read. After any other fault the next call goes on behind it and may come to a page
all the same. -/

namespace PageMarkup

/-! ## Where reading stops -/

/-- Reading that began at `first` has stopped at `last` with this fault: where it began if the fault
lasts, and else further on. -/
def Fault.Leads (fault : Fault) (first last : Cursor) : Prop :=
  if fault.cause.lasts then last = first else ∃ read, read ≠ [] ∧ first.Reads read last

namespace Cursor

variable {cursor : Cursor} {stop : Stop}

theorem leads_of_metFrom {rest : Text} (bracket : cursor.rest = '<' :: rest)
    (h : stop.MetFrom ⟨rest, cursor.offset + 1⟩) : stop.fault.Leads cursor stop.cursor := by
  obtain ⟨further, later⟩ := h.reads
  have first : cursor.Reads ['<'] ⟨rest, cursor.offset + 1⟩ := ⟨bracket, rfl⟩
  rw [Fault.Leads, h.passes]
  -- At least the bracket is left behind.
  exact ⟨_, List.cons_ne_nil '<' further, first.trans later⟩

theorem nextAtBracket_leads {rest : Text} (bracket : cursor.rest = '<' :: rest)
    (h : cursor.nextAtBracket = .error stop) : stop.fault.Leads cursor stop.cursor := by
  unfold nextAtBracket at h
  split at h
  · cases h
  split at h
  · cases h
    rfl
  split at h
  · exact leads_of_metFrom bracket (closeTag_error bracket (Stop.eq_error_of_map h))
  split at h
  · exact leads_of_metFrom bracket (openTag_error bracket (Stop.eq_error_of_map h))
  · cases h

theorem next_leads {mode : Mode} {backticks : Bool}
    (h : cursor.next mode backticks = .error stop) : stop.fault.Leads cursor stop.cursor := by
  unfold next at h
  split at h
  · cases h
  next c rest first =>
  split at h
  · cases h
  split at h
  · cases h
  split at h
  · have inside := Stop.eq_error_of_map h
    simp only [nextInInlineCode] at inside
    split at inside
    · cases inside
      rfl
    · cases inside
  split at h
  · cases h
  split at h
  · cases h
  split at h
  · next bracket => exact nextAtBracket_leads (bracket ▸ first) (Stop.eq_error_of_map h)
  · cases h

end Cursor

/-! ## Where handling stops -/

open Document Compilation

/-- No fault that a token can have in a mode lasts. -/
theorem Document.Refusal.passes {setup : Setup} {before : Document} {token : Token} {fault : Fault}
    (refusal : Refusal setup before token fault) (current : before.mode? ≠ none) :
    fault.cause.lasts = false := by
  cases refusal with
  | noMode missing => exact absurd missing current
  | noModeToLeave | noOpenTag | repeatedContents | mismatched => rfl
  | listing _ _ refusal => cases refusal <;> rfl

namespace Compilation

variable {setup : Setup} {first here after last : Compilation} {fault : Fault}

/-- A step that stops has met a fault that lasts and has changed nothing, or it has read on. -/
theorem advance_stopped_cases {token? : Option Token}
    (h : here.advance setup = .stopped token? fault after) :
    fault.cause.lasts = true ∧ here.advance setup = .stopped none fault here ∧ after = here ∨
      fault.cause.lasts = false ∧ ∃ read, read ≠ [] ∧ here.cursor.Reads read after.cursor := by
  have stopped := h
  obtain ⟨cursor, document⟩ := here
  simp only [advance] at h
  split at h
  · cases h
    exact .inl ⟨rfl, stopped, rfl⟩
  next mode current =>
  split at h
  · next stop read =>
      cases h
      have leads := Cursor.next_leads read
      rw [Fault.Leads] at leads
      cases lasts : stop.fault.cause.lasts with
      | true =>
          rw [lasts, if_pos rfl] at leads
          rw [leads] at stopped ⊢
          exact .inl ⟨rfl, stopped, rfl⟩
      | false =>
          rw [lasts, if_neg (by simp)] at leads
          exact .inr ⟨rfl, leads⟩
  · cases h
  next token cursor' read =>
  split at h
  · next halt handled =>
      cases h
      -- The token has been read although it is refused.
      obtain ⟨text, nonempty, reads⟩ := Cursor.reads_next read
      have passes := (refusal_of_handle handled).passes (by simp [current])
      exact .inr ⟨passes, text, nonempty, reads⟩
  · cases h

/-- No call that begins here comes any further: each meets the fault. -/
inductive Blocked (setup : Setup) (here : Compilation) (fault : Fault) : Prop
  | stops (stopped : here.advance setup = .stopped none fault here)
  | ends (finished : here.advance setup = .finished)
      (left : leftOpen? setup.settings here.document = some fault)

/-- A notice lets it come no further. -/
theorem Blocked.tell {cursor : Cursor} {document : Document}
    (blocked : Blocked setup ⟨cursor, document⟩ fault) (notice : Notice) :
    Blocked setup ⟨cursor, document.tell notice⟩ fault := by
  have mode : (document.tell notice).mode? = document.mode? := rfl
  have backticks : (document.tell notice).backticks = document.backticks := rfl
  cases blocked with
  | stops stopped =>
      refine .stops ?_
      simp only [advance, mode, backticks] at stopped ⊢
      split at stopped
      · cases stopped
        rfl
      split at stopped
      · cases stopped
        rfl
      · cases stopped
      · split at stopped <;> cases stopped
  | ends finished left =>
      refine .ends ?_ left
      simp only [advance, mode, backticks] at finished ⊢
      split at finished
      · cases finished
      split at finished
      · cases finished
      · rfl
      · split at finished <;> cases finished

theorem Blocked.run (blocked : Blocked setup here fault) :
    here.run setup = (some fault, here) ∨
      here.run setup = (none, here) ∧ leftOpen? setup.settings here.document = some fault := by
  cases blocked with
  | stops stopped => exact .inl (run_of_stopped stopped)
  | ends finished left => exact .inr ⟨run_of_finished finished, left⟩

/-- A run that meets a fault ends where the fault lasts, or further on than it began. -/
theorem run_fault_cases (ran : first.run setup = (some fault, after)) :
    fault.cause.lasts = true ∧ Blocked setup after fault ∨
      fault.cause.lasts = false ∧ ∃ read, read ≠ [] ∧ first.cursor.Reads read after.cursor := by
  obtain ⟨steps, last, reaches, ⟨_, run⟩ | ⟨token?, met, left, stopped, run⟩⟩ :=
    exists_reaches_run setup first
  · simp [run] at ran
  · rw [run] at ran
    obtain ⟨rfl, rfl⟩ : met = fault ∧ left = after := by simpa using ran
    rcases advance_stopped_cases stopped with ⟨lasts, stays, rfl⟩ | ⟨passes, read, nonempty, reads⟩
    · exact .inl ⟨lasts, .stops stays⟩
    · obtain ⟨earlier, start⟩ := reaches.reads_start
      exact .inr ⟨passes, earlier ++ read, by simp [nonempty], start.trans reads⟩

theorem lasts_of_leftOpen {settings : Settings} {document : Document}
    (left : leftOpen? settings document = some fault) : fault.cause.lasts = true := by
  unfold leftOpen? at left
  split at left
  · split at left <;> cases left
    rfl
  · cases left

end Compilation

/-! ## Calls -/

namespace Session

variable {setup : Setup} {session : Session} {last : Compilation} {fault : Fault} {page : Text}

/-- The session after a number of calls. -/
def after (setup : Setup) : Session → Nat → Session
  | session, 0 => session
  | session, calls + 1 => after setup (session.parse setup).2 calls

/-- What a session answers after a number of calls. -/
def answer (setup : Setup) (session : Session) (calls : Nat) : Except Fault Text :=
  ((session.after setup calls).parse setup).1

theorem after_add (setup : Setup) (session : Session) (calls more : Nat) :
    session.after setup (calls + more) = (session.after setup calls).after setup more := by
  induction calls generalizing session with
  | zero => rw [Nat.zero_add, after]
  | succ calls ih => rw [Nat.succ_add, after, ih, ← after]

theorem answer_add (setup : Setup) (session : Session) (calls more : Nat) :
    session.answer setup (calls + more) = (session.after setup calls).answer setup more := by
  rw [answer, after_add, ← answer]

/-- What a call answers and leaves: a page that is kept, a fault that stands in the way of every
further call, or a fault that the next call has behind it. -/
inductive Call (setup : Setup) (before : Session) : Except Fault Text → Session → Prop
  | page {page after} (kept : after.page? = some page) : Call setup before (.ok page) after
  | lasts {fault after} (unmade : after.page? = none) (lasts : fault.cause.lasts = true)
      (blocked : Blocked setup after.compilation fault) : Call setup before (.error fault) after
  | passes {fault after} (unmade : after.page? = none) (passes : fault.cause.lasts = false)
      (moves : ∃ read, read ≠ [] ∧
        before.compilation.cursor.Reads read after.compilation.cursor) :
      Call setup before (.error fault) after

/-- The compilation with which a call begins if there is no page yet. -/
def begun (session : Session) : Compilation :=
  ⟨session.compilation.cursor,
    session.compilation.document.tell (.compiling session.source.length)⟩

/-- A session with a page answers with it and stays as it is. -/
theorem parse_of_page (kept : session.page? = some page) :
    session.parse setup = (.ok page, session) := by
  simp only [parse, kept]

theorem parse_of_fault (unmade : session.page? = none)
    (ran : session.begun.run setup = (some fault, last)) :
    session.parse setup = (.error fault, { source := session.source, compilation := last }) := by
  rw [begun] at ran
  simp only [parse, unmade, ran, Option.some_or]

theorem parse_of_leftOpen (unmade : session.page? = none)
    (ran : session.begun.run setup = (none, last))
    (left : leftOpen? setup.settings last.document = some fault) :
    session.parse setup = (.error fault, { source := session.source, compilation := last }) := by
  rw [begun] at ran
  simp only [parse, unmade, ran, Option.none_or, left]

theorem parse_of_end (unmade : session.page? = none)
    (ran : session.begun.run setup = (none, last))
    (closed : leftOpen? setup.settings last.document = none) :
    (session.parse setup).1 = .ok last.document.render ∧
      (session.parse setup).2.page? = some last.document.render := by
  rw [begun] at ran
  simp only [parse, unmade, ran, Option.none_or, closed, and_self]

/-- Where nothing comes further, a call answers with the fault and leaves it as it is. -/
theorem parse_of_blocked (unmade : session.page? = none)
    (blocked : Blocked setup session.compilation fault) :
    ∃ after, session.parse setup = (.error fault, after) ∧ after.page? = none ∧
      Blocked setup after.compilation fault := by
  have told : Blocked setup session.begun fault := blocked.tell _
  rcases told.run with run | ⟨run, left⟩
  · exact ⟨_, parse_of_fault unmade run, rfl, told⟩
  · exact ⟨_, parse_of_leftOpen unmade run left, rfl, told⟩

theorem call_parse (setup : Setup) (session : Session) :
    Call setup session (session.parse setup).1 (session.parse setup).2 := by
  cases kept : session.page? with
  | some page =>
      rw [parse_of_page kept]
      exact .page kept
  | none =>
      rcases ran : session.begun.run setup with ⟨_ | fault, last⟩
      · cases left : leftOpen? setup.settings last.document with
        | none =>
            obtain ⟨answered, made⟩ := parse_of_end kept ran left
            rw [answered]
            exact .page made
        | some fault =>
            obtain ⟨steps, -, finished⟩ := exists_reaches_of_run ran
            rw [parse_of_leftOpen kept ran left]
            exact .lasts rfl (lasts_of_leftOpen left) (.ends finished left)
      · rw [parse_of_fault kept ran]
        rcases run_fault_cases ran with ⟨lasts, blocked⟩ | ⟨passes, moves⟩
        · exact .lasts rfl lasts blocked
        · exact .passes rfl passes moves

/-! ### Later calls -/

theorem answer_succ (setup : Setup) (session : Session) (calls : Nat) :
    session.answer setup (calls + 1) = (session.parse setup).2.answer setup calls := rfl

theorem answer_of_page (kept : session.page? = some page) (later : Nat) :
    session.answer setup later = .ok page := by
  induction later with
  | zero => exact congrArg Prod.fst (parse_of_page kept)
  | succ later ih => rwa [answer_succ, parse_of_page kept]

theorem answer_of_blocked (unmade : session.page? = none)
    (blocked : Blocked setup session.compilation fault) (later : Nat) :
    session.answer setup later = .error fault := by
  induction later generalizing session with
  | zero =>
      obtain ⟨after, parsed, -, -⟩ := parse_of_blocked unmade blocked
      exact congrArg Prod.fst parsed
  | succ later ih =>
      obtain ⟨after, parsed, unmade, blocked⟩ := parse_of_blocked unmade blocked
      rw [answer_succ, parsed]
      exact ih unmade blocked

/-- Calls answer with the page from the first one on that does. -/
theorem answer_of_ok (answered : (session.parse setup).1 = .ok page) (later : Nat) :
    session.answer setup later = .ok page := by
  cases later with
  | zero => exact answered
  | succ later =>
      have call := call_parse setup session
      rw [answered] at call
      cases call with
      | page kept => exact answer_of_page kept later

/-- Calls answer with a fault that lasts from the first one on that does. -/
theorem answer_of_lasts (answered : (session.parse setup).1 = .error fault)
    (lasts : fault.cause.lasts = true) (later : Nat) :
    session.answer setup later = .error fault := by
  cases later with
  | zero => exact answered
  | succ later =>
      have call := call_parse setup session
      rw [answered] at call
      cases call with
      | lasts unmade _ blocked => exact answer_of_blocked unmade blocked later
      | passes _ passes => simp [lasts] at passes

theorem reads_of_passes (answered : (session.parse setup).1 = .error fault)
    (passes : fault.cause.lasts = false) :
    ∃ read, read ≠ [] ∧
      session.compilation.cursor.Reads read (session.parse setup).2.compilation.cursor := by
  have call := call_parse setup session
  rw [answered] at call
  cases call with
  | lasts _ lasts => simp [passes] at lasts
  | passes _ _ moves => exact moves

/-- Either all calls answer alike, or the first one leaves less to read. -/
theorem answers_alike_or_shorter (setup : Setup) (session : Session) :
    (∀ later, session.answer setup later = (session.parse setup).1) ∨
      (session.parse setup).2.compilation.cursor.rest.length <
        session.compilation.cursor.rest.length := by
  cases answered : (session.parse setup).1 with
  | ok page => exact .inl (answer_of_ok answered)
  | error fault =>
      cases lasts : fault.cause.lasts with
      | true => exact .inl (answer_of_lasts answered lasts)
      | false =>
          obtain ⟨read, nonempty, reads⟩ := reads_of_passes answered lasts
          exact .inr (reads.shorter nonempty)

/-- There are at most as many faults in a row that do not last as there are characters to read. -/
theorem answer_settles {calls : Nat} (short : session.compilation.cursor.rest.length ≤ calls)
    (more : Nat) : session.answer setup (calls + more) = session.answer setup calls := by
  induction calls generalizing session with
  | zero =>
      rcases answers_alike_or_shorter setup session with alike | shorter
      · rw [alike, alike]
      · omega
  | succ calls ih =>
      rcases answers_alike_or_shorter setup session with alike | shorter
      · rw [alike, alike]
      · rw [Nat.succ_add, answer_succ, answer_succ]
        exact ih (by omega)

end Session

/-- What a session answers when it is called again and again: Once it has answered with a page it
always does, and so it is with a fault that lasts. After any other fault the next call begins
further on in the source, and it may answer otherwise. After as many calls as there are characters
to read the answer changes no more, so that a page is ever answered only if it is answered then. -/
theorem answers_of_sessions_settle (setup : Setup) (session : Session) :
    (∀ calls page, session.answer setup calls = .ok page →
      ∀ later, calls ≤ later → session.answer setup later = .ok page) ∧
    (∀ calls fault, session.answer setup calls = .error fault → fault.cause.lasts = true →
      ∀ later, calls ≤ later → session.answer setup later = .error fault) ∧
    (∀ calls fault, session.answer setup calls = .error fault → fault.cause.lasts = false →
      (session.after setup calls).compilation.cursor.offset <
        (session.after setup (calls + 1)).compilation.cursor.offset) ∧
    (∀ later, session.compilation.cursor.rest.length ≤ later → session.answer setup later =
      session.answer setup session.compilation.cursor.rest.length) ∧
    ∀ page, (∃ calls, session.answer setup calls = .ok page) ↔
      session.answer setup session.compilation.cursor.rest.length = .ok page := by
  have pages calls page (answered : session.answer setup calls = .ok page) later
      (since : calls ≤ later) : session.answer setup later = .ok page := by
    obtain ⟨more, rfl⟩ := Nat.exists_eq_add_of_le since
    rw [Session.answer_add]
    exact Session.answer_of_ok answered more
  have settled later (enough : session.compilation.cursor.rest.length ≤ later) :
      session.answer setup later =
        session.answer setup session.compilation.cursor.rest.length := by
    obtain ⟨more, rfl⟩ := Nat.exists_eq_add_of_le enough
    exact Session.answer_settles (Nat.le_refl _) more
  refine ⟨pages, ?_, ?_, settled, fun page => ⟨?_, fun answered => ⟨_, answered⟩⟩⟩
  · intro calls fault answered lasts later since
    obtain ⟨more, rfl⟩ := Nat.exists_eq_add_of_le since
    rw [Session.answer_add]
    exact Session.answer_of_lasts answered lasts more
  · intro calls fault answered passes
    obtain ⟨read, nonempty, reads⟩ := Session.reads_of_passes answered passes
    have next := Session.after_add setup session calls 1
    have length := List.length_pos_iff.mpr nonempty
    rw [next]
    have offset := reads.offset
    change _ < ((session.after setup calls).parse setup).2.compilation.cursor.offset
    omega
  · rintro ⟨calls, answered⟩
    rw [← settled _ (Nat.le_max_right calls _)]
    exact pages calls page answered _ (Nat.le_max_left ..)

/-- After a stray closing tag the next call answers with a page, and so do all others. -/
theorem stray_closing_tag_is_passed :
    (Session.start {} "a</b>c".toList).answer {} 0 = .error ⟨.mismatchedClose [] ['b'], 1⟩ ∧
      ∀ later, 1 ≤ later →
        (Session.start {} "a</b>c".toList).answer {} later = .ok "ac".toList := by
  have first : (⟨"a</b>c".toList, 0⟩ : Cursor).next .normal false =
      .ok (some (⟨.text ['a'], 0⟩, ⟨"</b>c".toList, 1⟩)) :=
    Cursor.next_writtenChar (by decide) (by decide) rfl rfl _
  have second := Cursor.next_writtenClose (show Mode.normal ≠ .code by decide) (by decide) false
    (show Cursor.IsWord ['b'] by decide) ['c'] 1
  have third : (⟨['c'], 5⟩ : Cursor).next .normal false =
      .ok (some (⟨.text ['c'], 5⟩, ⟨[], 6⟩)) :=
    Cursor.next_writtenChar (by decide) (by decide) rfl rfl _
  have refused : ∃ next, (Session.start {} "a</b>c".toList).parse {} =
      (.error ⟨.mismatchedClose [] ['b'], 1⟩, next) ∧
      next = { source := "a</b>c".toList, compilation :=
        ⟨⟨['c'], 5⟩, ((Document.start {}).tell (.compiling 6)).emitText ['a']⟩ } :=
    ⟨_, Session.parse_of_fault rfl ((run_of_handled (advance_of_next rfl first rfl)).trans
      (run_of_stopped (@advance_of_refused {} _ _ _ ⟨⟨.mismatchedClose [] ['b'], 1⟩, _⟩
        ⟨.normal, rfl, second⟩ rfl))), rfl⟩
  obtain ⟨next, refused, same⟩ := refused
  have begun : next.begun.run {} =
      (none, ⟨⟨[], 6⟩, next.begun.document.emitText ['c']⟩) := by
    rw [same]
    exact (run_of_handled (advance_of_next rfl third rfl)).trans (run_at_end rfl _)
  have made := Session.parse_of_end (same ▸ rfl) begun (same ▸ rfl)
  have passed : (Session.start {} "a</b>c".toList).answer {} 1 = .ok "ac".toList := by
    rw [Session.answer_succ, refused]
    exact made.1.trans (same ▸ rfl)
  exact ⟨congrArg Prod.fst refused, (answers_of_sessions_settle {} _).1 1 _ passed⟩

end PageMarkup
