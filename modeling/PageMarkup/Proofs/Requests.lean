import PageMarkup.Proofs.Reading.Backticks
import PageMarkup.Proofs.Reading.Grammar
import PageMarkup.Proofs.Reading.Tokens
import PageMarkup.Proofs.Sessions

/-! # Requests for tokens

A token can be asked for in any mode and with any meaning of backticks, whatever was asked for
before. Each request is answered with what stands at the cursor and moves it forward, so that there
are no more tokens than characters and every run comes to an end. -/

namespace PageMarkup

/-- How the next token is asked for. -/
structure Request where
  mode : Mode
  backticks : Bool

/-- A request that has been answered: with a token, with nothing, or with a fault. -/
structure Exchange where
  request : Request
  before : Cursor
  answer : Except Fault (Option Token)
  after : Cursor

/-- A token was read. -/
def Exchange.isToken (exchange : Exchange) : Bool :=
  match exchange.answer with
  | .ok (some _) => true
  | _ => false

namespace Cursor

/-- The answer to a request and the place where it leaves the cursor, which after a fault is where
reading stopped. -/
def answer (request : Request) (cursor : Cursor) : Except Fault (Option Token) × Cursor :=
  match cursor.next request.mode request.backticks with
  | .error stop => (.error stop.fault, stop.cursor)
  | .ok none => (.ok none, cursor)
  | .ok (some (token, after)) => (.ok (some token), after)

/-- Requests in a row, each answered where the one before has left the cursor. -/
def exchanges : List Request → Cursor → List Exchange
  | [], _ => []
  | request :: requests, cursor =>
    let (answer, after) := cursor.answer request
    ⟨request, cursor, answer, after⟩ :: exchanges requests after

end Cursor

/-! ## Texts -/

/-- The stretch can stand as text: only inside listings and inline code do brackets. -/
def Request.Keeps (request : Request) (read : Text) : Prop :=
  request.mode = .code ∨ request.mode = .inlineCode ∨ '<' ∉ read

/-- What a stretch of the source can give as text: itself, an escaped bracket for a bracket outside
listings and inline code, and one backtick for two where they are enabled outside listings. -/
inductive Request.TextOf (request : Request) : (read value : Text) → Prop
  | verbatim {read} (keeps : request.Keeps read) : TextOf request read read
  | bracket (code : request.mode ≠ .code) (inline : request.mode ≠ .inlineCode) :
      TextOf request ['<'] "&lt;".toList
  | halved {read} (keeps : request.Keeps read) (code : request.mode ≠ .code)
      (enabled : request.backticks = true) : TextOf request read (Text.halveBackticks read)

theorem Request.TextOf.ne_nil {request : Request} {read value : Text}
    (textOf : request.TextOf read value) (nonempty : read ≠ []) : value ≠ [] := by
  cases textOf with
  | verbatim => exact nonempty
  | bracket => decide
  | halved => exact Text.halveBackticks_ne_nil nonempty

namespace Cursor

variable {request : Request} {cursor after : Cursor} {token : Token} {read value : Text}

theorem textOf_nextInListing (h : cursor.nextInListing = (token, after))
    (code : request.mode = .code) (text : token.form = .text value)
    (reads : cursor.Reads read after) :
    request.TextOf read value := by
  unfold nextInListing at h
  split at h
  · obtain ⟨rfl, -⟩ := Prod.mk.inj h
    cases text
  · obtain ⟨rfl, rfl⟩ := Prod.mk.inj h
    obtain rfl := Token.Form.text.inj text
    have whole := (Text.breakOn_append listingEnd cursor.rest).trans reads.rest
    obtain rfl := List.append_cancel_right whole
    exact .verbatim (.inl code)

theorem textOf_nextInInlineCode
    (h : nextInInlineCode request.backticks cursor = .ok (token, after))
    (inline : request.mode = .inlineCode) (text : token.form = .text value)
    (reads : cursor.Reads read after) : request.TextOf read value := by
  have whole := Text.run_append (· = '\n') request.backticks cursor.rest
  simp only [nextInInlineCode] at h
  split at h
  · cases h
  · obtain ⟨rfl, rfl⟩ := Prod.mk.inj (Except.ok.inj h)
    obtain rfl := Token.Form.text.inj text
    obtain rfl := List.append_cancel_right (whole.trans reads.rest)
    split
    · next enabled => exact .halved (.inr (.inl inline)) (by simp [inline]) enabled
    · exact .verbatim (.inr (.inl inline))

theorem textOf_nextText (h : nextText request.backticks cursor = (token, after))
    (code : request.mode ≠ .code) (text : token.form = .text value)
    (reads : cursor.Reads read after) : request.TextOf read value := by
  have whole := Text.run_append endsText request.backticks cursor.rest
  simp only [nextText] at h
  obtain ⟨rfl, rfl⟩ := Prod.mk.inj h
  obtain rfl := Token.Form.text.inj text
  have keeps : request.Keeps (Text.run endsText request.backticks cursor.rest).1 :=
    .inr (.inr fun mem => absurd (Text.stops_of_mem_run mem) (by decide))
  obtain rfl := List.append_cancel_right (whole.trans reads.rest)
  unfold runValue
  split
  · exact .verbatim keeps
  · next halves =>
      have enabled : request.backticks = true := by
        rw [Bool.or_eq_true, not_or] at halves
        simpa using halves.1
      exact .halved keeps code enabled

/-- At a bracket, text is the bracket itself. -/
theorem textOf_nextAtBracket {rest : Text} (bracket : cursor.rest = '<' :: rest)
    (h : cursor.nextAtBracket = .ok (token, after)) (code : request.mode ≠ .code)
    (inline : request.mode ≠ .inlineCode) (text : token.form = .text value)
    (reads : cursor.Reads read after) : request.TextOf read value := by
  obtain ⟨rfl, rfl⟩ := Prod.mk.inj (nextAtBracket_text h text)
  obtain rfl := Token.Form.text.inj text
  have whole := reads.rest
  rw [bracket] at whole
  obtain rfl : ['<'] = read := List.append_cancel_right whole
  exact .bracket code inline

theorem textOf_next (h : cursor.next request.mode request.backticks = .ok (some (token, after)))
    (text : token.form = .text value) (reads : cursor.Reads read after) :
    request.TextOf read value := by
  unfold next at h
  split at h
  · cases h
  next c rest first =>
  split at h
  · next code => exact textOf_nextInListing (Option.some.inj (Except.ok.inj h)) code text reads
  next code =>
  split at h
  · cases h
    cases text
  split at h
  · next inline =>
      obtain ⟨_, inside, same⟩ := Stop.eq_ok_of_map h
      cases same
      exact textOf_nextInInlineCode inside inline text reads
  next inline =>
  split at h
  · cases h
    cases text
  split at h
  · cases h
    cases text
  split at h
  · next bracket =>
      obtain ⟨_, inside, same⟩ := Stop.eq_ok_of_map h
      cases same
      exact textOf_nextAtBracket (bracket ▸ first) inside code inline text reads
  · exact textOf_nextText (Option.some.inj (Except.ok.inj h)) code text reads

/-! ## One request -/

/-- A reader that meets a fault stops where it began or further on. -/
theorem reads_of_next_error {mode : Mode} {backticks : Bool} {stop : Stop}
    (h : cursor.next mode backticks = .error stop) : ∃ read, cursor.Reads read stop.cursor := by
  have leads := next_leads h
  unfold Fault.Leads at leads
  split at leads
  · exact ⟨[], leads ▸ .refl cursor⟩
  · obtain ⟨read, -, reads⟩ := leads
    exact ⟨read, reads⟩

end Cursor

/-- One rule for each kind of answer. -/
inductive Request.Answered (request : Request) (before : Cursor) :
    Except Fault (Option Token) → Cursor → Prop
  | nothing (ended : before.rest = []) : Answered request before (.ok none) before
  | token {token : Token} {after read} (nonempty : read ≠ []) (reads : before.Reads read after)
      (place : token.offset = before.offset)
      (text : ∀ value, token.form = .text value → request.TextOf read value) :
      Answered request before (.ok (some token)) after
  | fault {fault after read} (left : before.rest ≠ []) (reads : before.Reads read after) :
      Answered request before (.error fault) after

theorem Request.answered (request : Request) (cursor : Cursor) :
    request.Answered cursor (cursor.answer request).1 (cursor.answer request).2 := by
  unfold Cursor.answer
  split
  · next stop failed =>
      obtain ⟨read, reads⟩ := Cursor.reads_of_next_error failed
      refine .fault (fun ended => ?_) reads
      rw [Cursor.next_eq_none_iff.mpr ended] at failed
      cases failed
  · next none => exact .nothing (Cursor.next_eq_none_iff.mp none)
  · next token after found =>
      obtain ⟨read, nonempty, reads⟩ := Cursor.reads_next found
      exact .token nonempty reads (Cursor.next_readAt found).1
        fun value text => Cursor.textOf_next found text reads

namespace Request.Answered

variable {request : Request} {before after : Cursor} {answer : Except Fault (Option Token)}

theorem reads (answered : request.Answered before answer after) :
    ∃ read, before.Reads read after := by
  cases answered with
  | nothing => exact ⟨[], .refl before⟩
  | token _ reads => exact ⟨_, reads⟩
  | fault _ reads => exact ⟨_, reads⟩

theorem eq_none_iff (answered : request.Answered before answer after) :
    answer = .ok none ↔ before.rest = [] := by
  cases answered with
  | nothing ended => exact iff_of_true rfl ended
  | token nonempty reads =>
      refine iff_of_false (by simp) fun ended => nonempty ?_
      have whole := reads.rest
      rw [ended] at whole
      exact (List.append_eq_nil_iff.mp whole.symm).1
  | fault left => exact iff_of_false (by simp) left

end Request.Answered

/-! ## Requests in a row -/

/-- The stretch of the source from one place to another. -/
def Text.slice (first last : Nat) (text : Text) : Text := (text.take last).drop first

theorem Cursor.Reads.slice_eq {source front read : Text} {before after : Cursor}
    (start : (Cursor.start source).Reads front before) (reads : before.Reads read after) :
    source.slice before.offset after.offset = read := by
  have whole : source = front ++ read ++ after.rest := (start.trans reads).rest
  have first : before.offset = front.length := start.offset.trans (Nat.zero_add _)
  have last : after.offset = (front ++ read).length :=
    (start.trans reads).offset.trans (Nat.zero_add _)
  rw [Text.slice, whole, first, last, List.take_left, List.drop_left]

/-- A place in the source is the end exactly if nothing is left there. -/
theorem Cursor.Reads.offset_eq_length_iff {source front : Text} {here : Cursor}
    (start : (Cursor.start source).Reads front here) :
    here.offset = source.length ↔ here.rest = [] := by
  have length : source.length = front.length + here.rest.length := start.length_rest
  have offset : here.offset = front.length := start.offset.trans (Nat.zero_add _)
  rw [length, offset, ← List.length_eq_zero_iff]
  omega

/-- What is true of every answer to a request, wherever in the source it is given. -/
structure Exchange.Sound (source : Text) (exchange : Exchange) : Prop where
  forward : exchange.before.offset ≤ exchange.after.offset
  inside : exchange.after.offset ≤ source.length
  ended : exchange.answer = .ok none ↔ exchange.before.offset = source.length
  place : ∀ token, exchange.answer = .ok (some token) →
    token.offset = exchange.before.offset ∧ exchange.before.offset < exchange.after.offset
  text : ∀ token value, exchange.answer = .ok (some token) → token.form = .text value →
    value ≠ [] ∧ exchange.request.TextOf
      (source.slice exchange.before.offset exchange.after.offset) value

theorem Request.Answered.sound {request : Request} {source front : Text} {before after : Cursor}
    {answer : Except Fault (Option Token)} (answered : request.Answered before answer after)
    (start : (Cursor.start source).Reads front before) :
    Exchange.Sound source ⟨request, before, answer, after⟩ := by
  obtain ⟨read, reads⟩ := answered.reads
  have length : source.length = (front ++ read).length + after.rest.length :=
    (start.trans reads).length_rest
  have offset : after.offset = (front ++ read).length :=
    (start.trans reads).offset.trans (Nat.zero_add _)
  have further := reads.offset
  refine ⟨?_, ?_, ?_, ?_, ?_⟩
  · simp only
    omega
  · simp only
    omega
  · simp only [answered.eq_none_iff, start.offset_eq_length_iff]
  · rintro token same
    cases answered with
    | nothing | fault => cases same
    | token nonempty reads place =>
        obtain rfl := Option.some.inj (Except.ok.inj same)
        refine ⟨place, ?_⟩
        have moved := reads.offset
        have positive := List.length_pos_iff.mpr nonempty
        simp only
        omega
  · rintro token value same text
    cases answered with
    | nothing | fault => cases same
    | token nonempty reads _ textOf =>
        obtain rfl := Option.some.inj (Except.ok.inj same)
        have given := textOf value text
        refine ⟨given.ne_nil nonempty, ?_⟩
        rwa [start.slice_eq reads]

namespace Cursor

variable {source front : Text} {here : Cursor}

theorem sound_of_mem_exchanges (start : (Cursor.start source).Reads front here)
    (requests : List Request) : ∀ exchange ∈ here.exchanges requests, exchange.Sound source := by
  induction requests generalizing front here with
  | nil => exact List.forall_mem_nil _
  | cons request requests ih =>
      have answered := request.answered here
      obtain ⟨read, reads⟩ := answered.reads
      exact List.forall_mem_cons.mpr ⟨answered.sound start, ih (start.trans reads)⟩

/-- Every token leaves less to read, and no answer leaves more. -/
theorem length_tokens_le (requests : List Request) (cursor : Cursor) :
    ((cursor.exchanges requests).filter Exchange.isToken).length ≤ cursor.rest.length := by
  induction requests generalizing cursor with
  | nil => exact Nat.zero_le _
  | cons request requests ih =>
      have later := ih (cursor.answer request).2
      have answered := request.answered cursor
      simp only [exchanges]
      generalize (cursor.answer request).1 = answer at answered
      generalize (cursor.answer request).2 = after at answered later
      cases answered with
      | nothing => exact later
      | token nonempty reads =>
          have shorter := reads.shorter nonempty
          simp only [List.filter_cons, Exchange.isToken, if_true, List.length_cons]
          omega
      | fault _ reads =>
          have length := reads.length_rest
          simp only [List.filter_cons, Exchange.isToken, Bool.false_eq_true, if_false]
          omega

end Cursor

namespace Compilation

/-- Every step of a run leaves less to read. -/
theorem Reaches.length_le {setup : Setup} {first last : Compilation} {steps : List Step}
    (h : first.Reaches setup steps last) :
    steps.length + last.cursor.rest.length ≤ first.cursor.rest.length := by
  induction h with
  | refl => exact Nat.le_of_eq (Nat.zero_add _)
  | step _ handled ih =>
      have shorter := advance_shorter handled
      rw [List.length_append, List.length_singleton]
      omega

end Compilation

open Compilation

/-- Whatever tokens are asked for, one after another, in any modes and with any meanings of
backticks: There is no token exactly at the end of the source. A token lies where the cursor stood
and moves it forward, a fault does not move it back, and nothing moves it beyond the end. A text is
not empty and is the stretch that was read, but for an escaped bracket and halved backticks. So
there are no more tokens than characters, and a run over the source takes no more steps than that
before it ends. -/
theorem every_request_reads_on (source : Text) :
    (∀ requests, (∀ exchange ∈ (Cursor.start source).exchanges requests, exchange.Sound source) ∧
      (((Cursor.start source).exchanges requests).filter Exchange.isToken).length ≤
        source.length) ∧
    ∀ setup : Setup,
      (∀ steps last, (opening setup.settings source).Reaches setup steps last →
        steps.length ≤ source.length) ∧
      ∃ steps last, (opening setup.settings source).Reaches setup steps last ∧
        (last.advance setup = .finished ∨
          ∃ token? fault after, last.advance setup = .stopped token? fault after) := by
  refine ⟨fun requests => ⟨?_, ?_⟩, fun setup => ⟨?_, ?_⟩⟩
  · exact Cursor.sound_of_mem_exchanges (.refl _) requests
  · exact Cursor.length_tokens_le requests (.start source)
  · intro steps last reaches
    exact Nat.le_trans (Nat.le_add_right _ _) reaches.length_le
  · obtain ⟨steps, last, reaches, ⟨finished, -⟩ | ⟨token?, fault, after, stopped, -⟩⟩ :=
      exists_reaches_run setup (opening setup.settings source)
    · exact ⟨steps, last, reaches, .inl finished⟩
    · exact ⟨steps, last, reaches, .inr ⟨token?, fault, after, stopped⟩⟩

/-- A raw comment is refused, and can be asked for as text of inline code nonetheless. -/
theorem text_is_read_behind_a_fault :
    Exchange.Sound "<!``".toList ⟨⟨.inlineCode, true⟩, .start "<!``".toList,
      .ok (some ⟨.text "<!`".toList, 0⟩), ⟨[], 4⟩⟩ :=
  ((every_request_reads_on _).1 [⟨.normal, false⟩, ⟨.inlineCode, true⟩]).1 _ (.tail _ (.head _))

end PageMarkup
