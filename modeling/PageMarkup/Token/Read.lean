import PageMarkup.Tag.Read

/-! Reading tokens. `Cursor.next` reads one token in a given mode; with backticks enabled a
single backtick is a token of its own and a doubled one stands for a literal backtick. The main
statement here is `reads_next`: every token comes from a stretch of the source that is not empty. -/

namespace PageMarkup

namespace Text

/-- The longest run of text: it ends before a character with the property `stops` and, where
backticks are enabled, before a backtick that is not followed by another. -/
def run (stops : Char → Bool) (backticks : Bool) : Text → Text × Text
  | [] => ([], [])
  | c :: text =>
    if stops c then ([], c :: text)
    else if backticks && c = '`' then
      match text with
      | [] => ([], [c])
      | d :: text =>
        if d = '`' then (c :: d :: (run stops backticks text).1, (run stops backticks text).2)
        else ([], c :: d :: text)
    else (c :: (run stops backticks text).1, (run stops backticks text).2)

/-- Each pair of backticks becomes one. -/
def halveBackticks : Text → Text
  | [] => []
  | '`' :: '`' :: text => '`' :: halveBackticks text
  | c :: text => c :: halveBackticks text

theorem run_of_stops {stops : Char → Bool} {backticks : Bool} {c : Char} {text : Text}
    (h : stops c = true) : run stops backticks (c :: text) = ([], c :: text) := by
  cases text <;> simp [run, h]

theorem run_of_plain {stops : Char → Bool} {backticks : Bool} {c : Char} {text : Text}
    (plain : stops c = false) (tick : (c = '`' && backticks) = false) :
    run stops backticks (c :: text) =
      (c :: (run stops backticks text).1, (run stops backticks text).2) := by
  rw [Bool.and_comm] at tick
  cases text <;> simp [run, plain, tick]

theorem run_append (stops : Char → Bool) (backticks : Bool) (text : Text) :
    (run stops backticks text).1 ++ (run stops backticks text).2 = text := by
  fun_induction run stops backticks text <;> simp_all

end Text

namespace Cursor

/-- The closing tag of a code listing, the only markup inside one. -/
def listingEnd : Text := "</code>".toList

/-- Characters that end a run of text outside inline code. -/
def endsText (c : Char) : Bool := c = '\n' || c = '|' || c = '<'

/-- The text of a run, given what follows it. Doubled backticks are halved unless the run ends
before a line end, a pipe or an angle bracket. -/
def runValue (backticks : Bool) (run rest : Text) : Text :=
  if !backticks || rest.head?.any endsText then run else Text.halveBackticks run

/-- A token that is one character wide. -/
def single (cursor : Cursor) (form : Token.Form) : Token × Cursor :=
  (⟨form, cursor.offset⟩, ⟨cursor.rest.drop 1, cursor.offset + 1⟩)

/-- Inside a listing: its closing tag, or all code before it. -/
def nextInListing (cursor : Cursor) : Token × Cursor :=
  match cursor.take? listingEnd with
  | some after => (⟨.closeTag "code".toList, cursor.offset⟩, after)
  | none =>
    let (code, rest) := Text.breakOn listingEnd cursor.rest
    (⟨.text code, cursor.offset⟩, ⟨rest, cursor.offset + code.length⟩)

/-- Inside inline code: all text before the next single backtick. -/
def nextInInlineCode (backticks : Bool) (cursor : Cursor) : Except Stop (Token × Cursor) :=
  let (run, rest) := Text.run (· = '\n') backticks cursor.rest
  if rest.head? = some '\n' then
    .error ⟨⟨.newlineInInlineCode, cursor.offset + run.length⟩, cursor⟩
  else
    .ok (⟨.text (if backticks then Text.halveBackticks run else run), cursor.offset⟩,
      ⟨rest, cursor.offset + run.length⟩)

/-- At an angle bracket: a tag, or the bracket itself as text. -/
def nextAtBracket (cursor : Cursor) : Except Stop (Token × Cursor) :=
  match cursor.rest.tail.head? with
  | none => .ok (cursor.single (.text "&lt;".toList))
  | some c =>
    if c = '!' then .error (cursor.stop .rawComment)
    else if c = '/' then
      cursor.closeTag.map fun (form, after) => (⟨form, cursor.offset⟩, after)
    else if isTagStart c then
      cursor.openTag.map fun (form, after) => (⟨form, cursor.offset⟩, after)
    else .ok (cursor.single (.text "&lt;".toList))

/-- A run of text outside inline code. -/
def nextText (backticks : Bool) (cursor : Cursor) : Token × Cursor :=
  let (run, rest) := Text.run endsText backticks cursor.rest
  (⟨.text (runValue backticks run rest), cursor.offset⟩, ⟨rest, cursor.offset + run.length⟩)

/-- The next token in a mode, or nothing at the end of the source. -/
def next (mode : Mode) (backticks : Bool) (cursor : Cursor) :
    Except Stop (Option (Token × Cursor)) :=
  match cursor.rest with
  | [] => .ok none
  | c :: _ =>
    if mode = .code then .ok (some cursor.nextInListing)
    else if c = '`' && backticks then .ok (some (cursor.single .backtick))
    else if mode = .inlineCode then (nextInInlineCode backticks cursor).map some
    else if c = '|' then .ok (some (cursor.single .pipe))
    else if c = '\n' then .ok (some (cursor.single .newline))
    else if c = '<' then cursor.nextAtBracket.map some
    else .ok (some (nextText backticks cursor))

/-! ### What is read -/

theorem reads_one {cursor : Cursor} (nonempty : cursor.rest ≠ []) :
    ∃ read, read ≠ [] ∧ cursor.Reads read ⟨cursor.rest.drop 1, cursor.offset + 1⟩ := by
  obtain ⟨c, rest, h⟩ := List.exists_cons_of_ne_nil nonempty
  exact ⟨[c], by simp, by simp [h], by simp⟩

theorem reads_nextInListing {cursor : Cursor} (nonempty : cursor.rest ≠ []) :
    ∃ read, read ≠ [] ∧ cursor.Reads read cursor.nextInListing.2 := by
  unfold nextInListing
  split
  · next found => exact ⟨_, by decide, reads_take? found⟩
  · next missing =>
      refine ⟨(Text.breakOn listingEnd cursor.rest).1, fun empty => ?_,
        (Text.breakOn_append _ _).symm, rfl⟩
      have whole := Text.breakOn_append listingEnd cursor.rest
      rw [empty, List.nil_append] at whole
      rcases Text.breakOn_rest listingEnd cursor.rest with atEnd | found
      · exact nonempty (whole ▸ atEnd)
      · rw [whole, Text.beginsWith, Option.isSome_iff_exists] at found
        obtain ⟨rest, found⟩ := found
        simp [take?, found] at missing

theorem reads_nextInInlineCode {backticks : Bool} {cursor after : Cursor} {token : Token}
    {c : Char} {text : Text} (rest : cursor.rest = c :: text)
    (tick : (c = '`' && backticks) = false)
    (h : nextInInlineCode backticks cursor = .ok (token, after)) :
    ∃ read, read ≠ [] ∧ cursor.Reads read after := by
  have whole := Text.run_append (· = '\n') backticks cursor.rest
  simp only [nextInInlineCode] at h
  split at h
  · cases h
  · next inside =>
      cases h
      refine ⟨(Text.run (· = '\n') backticks cursor.rest).1, ?_, whole.symm, rfl⟩
      by_cases newline : c = '\n'
      · simp [rest, newline, Text.run_of_stops] at inside
      · rw [rest, Text.run_of_plain (by simpa using newline) tick]
        simp

theorem reads_nextAtBracket {cursor after : Cursor} {token : Token} (nonempty : cursor.rest ≠ [])
    (h : cursor.nextAtBracket = .ok (token, after)) :
    ∃ read, read ≠ [] ∧ cursor.Reads read after := by
  unfold nextAtBracket at h
  split at h
  · cases h
    exact reads_one nonempty
  · split at h
    · cases h
    split at h
    · obtain ⟨⟨form, last⟩, closes, same⟩ := Stop.eq_ok_of_map h
      cases same
      exact reads_closeTag closes
    split at h
    · obtain ⟨⟨form, last⟩, opens, same⟩ := Stop.eq_ok_of_map h
      cases same
      exact reads_openTag opens
    · cases h
      exact reads_one nonempty

/-- A token comes from a stretch of the source that is not empty. -/
theorem reads_next {mode : Mode} {backticks : Bool} {cursor after : Cursor} {token : Token}
    (h : cursor.next mode backticks = .ok (some (token, after))) :
    ∃ read, read ≠ [] ∧ cursor.Reads read after := by
  unfold next at h
  split at h
  · cases h
  next c text rest =>
  have nonempty : cursor.rest ≠ [] := by simp [rest]
  split at h
  · simp only [Except.ok.injEq, Option.some.injEq] at h
    have reads := reads_nextInListing nonempty
    rwa [h] at reads
  split at h
  · cases h
    exact reads_one nonempty
  next tick =>
  rw [Bool.not_eq_true] at tick
  split at h
  · obtain ⟨_, inside, same⟩ := Stop.eq_ok_of_map h
    cases same
    exact reads_nextInInlineCode rest tick inside
  split at h
  · cases h
    exact reads_one nonempty
  next pipe =>
  split at h
  · cases h
    exact reads_one nonempty
  next newline =>
  split at h
  · obtain ⟨_, bracket, same⟩ := Stop.eq_ok_of_map h
    cases same
    exact reads_nextAtBracket nonempty bracket
  next bracket =>
  cases h
  refine ⟨(Text.run endsText backticks cursor.rest).1, ?_, (Text.run_append _ _ _).symm, rfl⟩
  rw [rest, Text.run_of_plain (by simp [endsText, pipe, newline, bracket]) tick]
  simp

/-- There is no token exactly at the end of the source. -/
theorem next_eq_none_iff {mode : Mode} {backticks : Bool} {cursor : Cursor} :
    cursor.next mode backticks = .ok none ↔ cursor.rest = [] := by
  constructor
  · intro h
    unfold next at h
    split at h
    · assumption
    · repeat' split at h
      all_goals try cases h
      · obtain ⟨_, -, same⟩ := Stop.eq_ok_of_map h
        cases same
      · obtain ⟨_, -, same⟩ := Stop.eq_ok_of_map h
        cases same
  · intro h
    simp [next, h]

/-- The token at the cursor, the cursor after it, or nothing at the end; in one mode to the end
of the source, with the stop that ended it if there was one. -/
def tokens (mode : Mode) (backticks : Bool) (cursor : Cursor) : List Token × Option Stop :=
  match _found : cursor.next mode backticks with
  | .error stop => ([], some stop)
  | .ok none => ([], none)
  | .ok (some (token, after)) =>
    let (later, stop?) := tokens mode backticks after
    (token :: later, stop?)
termination_by cursor.rest.length
decreasing_by
  obtain ⟨_, nonempty, reads⟩ := reads_next _found
  exact reads.shorter nonempty

end Cursor

end PageMarkup
