import PageMarkup.Token.Read

/-! # Where reading fails

Every fault that a reader meets lies ahead of it in the source, and the text there is as the cause
of the fault tells. -/

namespace PageMarkup

/-- What a reader has before it where it meets the cause of a fault. It meets no other causes. -/
def Cause.MetBy : Cause → Text → Prop
  | .rawComment, text => "<!".toList <+: text
  | .newlineInInlineCode, text => text.head? = some '\n'
  | .unclosedQuote, text => ∃ rest, text = '"' :: rest ∧ '"' ∉ rest
  | .literalExpected literal, text => ¬ literal <+: text
  | .tagNameExpected, text | .attributeNameExpected, text =>
    ∀ c ∈ text.head?, Cursor.isNameChar c = false
  | _, _ => False

/-- The fault lies at or after the cursor, where a reader meets it. -/
def Fault.MetFrom (fault : Fault) (cursor : Cursor) : Prop :=
  ∃ read here, cursor.Reads read here ∧ fault.offset = here.offset ∧ fault.cause.MetBy here.rest

namespace Fault.MetFrom

theorem here {cursor : Cursor} {cause : Cause} (met : cause.MetBy cursor.rest) :
    Fault.MetFrom ⟨cause, cursor.offset⟩ cursor :=
  ⟨[], cursor, .refl cursor, rfl, met⟩

theorem of_reads {fault : Fault} {before after : Cursor} {read : Text}
    (reads : before.Reads read after) (h : fault.MetFrom after) : fault.MetFrom before := by
  obtain ⟨further, there, later, offset, met⟩ := h
  exact ⟨_, there, reads.trans later, offset, met⟩

end Fault.MetFrom

/-- Where a fault of this cause is met, nothing is left behind: whoever goes on from there meets it
again. -/
def Cause.lasts : Cause → Bool
  | .rawComment | .newlineInInlineCode | .unclosedTag _ | .noMode => true
  | _ => false

/-- A reader of a part of a tag stops at or behind the cursor, where it has the fault behind it. -/
structure Stop.MetFrom (stop : Stop) (cursor : Cursor) : Prop where
  fault : stop.fault.MetFrom cursor
  reads : ∃ read, cursor.Reads read stop.cursor
  passes : stop.fault.cause.lasts = false

namespace Stop.MetFrom

theorem here {cursor : Cursor} {cause : Cause} (met : cause.MetBy cursor.rest)
    (passes : cause.lasts = false) : (cursor.stop cause).MetFrom cursor :=
  ⟨.here met, ⟨[], .refl cursor⟩, passes⟩

theorem of_reads {stop : Stop} {before after : Cursor} {read : Text}
    (reads : before.Reads read after) (h : stop.MetFrom after) : stop.MetFrom before := by
  obtain ⟨fault, ⟨further, later⟩, passes⟩ := h
  exact ⟨.of_reads reads fault, ⟨_, reads.trans later⟩, passes⟩

end Stop.MetFrom

namespace Cursor

variable {cursor : Cursor} {literal : Text} {stop : Stop}

/-! ## Pieces of tags -/

theorem not_isPrefix_of_take? (h : cursor.take? literal = none) : ¬ literal <+: cursor.rest := by
  rintro ⟨rest, same⟩
  simp [take?, Text.after?_eq_some_iff.mpr same.symm] at h

theorem expect_error (h : cursor.expect literal = .error stop) : stop.MetFrom cursor := by
  unfold expect at h
  split at h
  · cases h
  · next missing =>
      cases h
      exact .here (not_isPrefix_of_take? missing) rfl

theorem expectWord_error {cause : Cause} (h : cursor.expectWord cause = .error stop) :
    stop = cursor.stop cause ∧ ∀ c ∈ cursor.rest.head?, isNameChar c = false := by
  unfold expectWord at h
  split at h
  · next empty =>
      cases h
      refine ⟨rfl, fun c head => ?_⟩
      obtain ⟨rest, same⟩ := List.head?_eq_some_iff.mp head
      have run : cursor.rest.takeWhile isNameChar = [] := congrArg Prod.fst empty
      rw [same, List.takeWhile_cons] at run
      split at run
      · cases run
      · next outside => simpa using outside
  · cases h

/-- A mark that stands somewhere comes first once all else before it is dropped. -/
theorem isPrefix_dropWhile_of_mem {mark : Char} {text : Text} (h : mark ∈ text) :
    [mark] <+: text.dropWhile (· ≠ mark) := by
  induction text with
  | nil => cases h
  | cons c text ih =>
      by_cases same : c = mark
      · subst same
        simp
      · have later : mark ∈ text := by
          rcases List.mem_cons.mp h with rfl | later
          · exact absurd rfl same
          · exact later
        rw [List.dropWhile_cons_of_pos (by simpa using same)]
        exact ih later

theorem attributeValue_error (h : cursor.attributeValue = .error stop) :
    stop.MetFrom cursor := by
  unfold attributeValue at h
  split at h
  · next noQuote =>
      rw [(expectWord_error h).1]
      exact .here (not_isPrefix_of_take? noQuote) rfl
  next opened opens =>
  simp only at h
  split at h
  · next unclosed =>
      cases h
      have quote : cursor.rest = '"' :: opened.rest := (reads_take? opens).rest
      -- The run of other characters would have ended at a later quote.
      have met : Cause.MetBy .unclosedQuote cursor.rest := ⟨opened.rest, quote, fun later =>
        not_isPrefix_of_take? unclosed (isPrefix_dropWhile_of_mem later)⟩
      exact ⟨.here met, ⟨_, reads_take? opens⟩, rfl⟩
  · cases h

theorem attributeEntry_error (h : cursor.attributeEntry = .error stop) :
    stop.MetFrom cursor := by
  simp only [attributeEntry, bind, Except.bind] at h
  split at h
  · next missing =>
      cases h
      obtain ⟨rfl, met⟩ := expectWord_error missing
      exact .here met rfl
  next found name =>
  obtain ⟨-, named⟩ := reads_expectWord name
  obtain ⟨_, blanks⟩ := reads_skipBlanks found.2
  split at h
  · next missing =>
      cases h
      exact .of_reads (named.trans blanks) (expect_error missing)
  next after equals =>
  obtain ⟨_, moreBlanks⟩ := reads_skipBlanks after
  split at h
  · next missing =>
      cases h
      exact .of_reads (named.trans (blanks.trans ((reads_expect equals).trans moreBlanks)))
        (attributeValue_error missing)
  · cases h

/-! ## Tags -/

theorem tagBody_error {attributes : Attributes} (h : tagBody attributes cursor = .error stop) :
    stop.MetFrom cursor := by
  fun_induction tagBody attributes cursor with
  | case1 => cases h
  | case2 attributes cursor here slash found _ missing =>
      cases h
      obtain ⟨_, blanks⟩ := cursor.reads_skipBlanks
      exact .of_reads (blanks.trans (reads_take? found)) (expect_error missing)
  | case3 => cases h
  | case4 attributes cursor here _ _ _ missing =>
      cases h
      obtain ⟨_, blanks⟩ := cursor.reads_skipBlanks
      exact .of_reads blanks (attributeEntry_error missing)
  | case5 attributes cursor here _ _ name value next read ih =>
      obtain ⟨_, blanks⟩ := cursor.reads_skipBlanks
      obtain ⟨_, _, reads⟩ := reads_attributeEntry read
      exact .of_reads (blanks.trans reads) (ih h)

theorem expect_bracket {rest : Text} (bracket : cursor.rest = '<' :: rest) :
    cursor.expect ['<'] = .ok ⟨rest, cursor.offset + 1⟩ := by
  simp [expect, take?, bracket, Text.after?]

theorem openTag_error {rest : Text} (bracket : cursor.rest = '<' :: rest)
    (h : cursor.openTag = .error stop) : stop.MetFrom ⟨rest, cursor.offset + 1⟩ := by
  simp only [openTag, bind, Except.bind, expect_bracket bracket] at h
  split at h
  · next missing =>
      cases h
      obtain ⟨rfl, met⟩ := expectWord_error missing
      exact .here met rfl
  next name =>
  split at h
  · next missing =>
      cases h
      exact .of_reads (reads_expectWord name).2 (tagBody_error missing)
  · cases h

theorem closeTag_error {rest : Text} (bracket : cursor.rest = '<' :: rest)
    (h : cursor.closeTag = .error stop) : stop.MetFrom ⟨rest, cursor.offset + 1⟩ := by
  simp only [closeTag, bind, Except.bind, expect_bracket bracket] at h
  split at h
  · next missing =>
      cases h
      exact expect_error missing
  next slash =>
  split at h
  · next missing =>
      cases h
      obtain ⟨rfl, met⟩ := expectWord_error missing
      exact .of_reads (reads_expect slash) (.here met rfl)
  next found name =>
  obtain ⟨_, blanks⟩ := reads_skipBlanks found.2
  split at h
  · next missing =>
      cases h
      exact .of_reads ((reads_expect slash).trans ((reads_expectWord name).2.trans blanks))
        (expect_error missing)
  · cases h

/-! ## Tokens -/

theorem nextInInlineCode_error {backticks : Bool}
    (h : nextInInlineCode backticks cursor = .error stop) : stop.fault.MetFrom cursor := by
  have whole := Text.run_append (· = '\n') backticks cursor.rest
  simp only [nextInInlineCode] at h
  split at h
  · next newline =>
      cases h
      exact ⟨_, ⟨_, _⟩, ⟨whole.symm, rfl⟩, rfl, newline⟩
  · cases h

theorem nextAtBracket_error {rest : Text} (bracket : cursor.rest = '<' :: rest)
    (h : cursor.nextAtBracket = .error stop) : stop.fault.MetFrom cursor := by
  have first : cursor.Reads ['<'] ⟨rest, cursor.offset + 1⟩ := ⟨bracket, rfl⟩
  unfold nextAtBracket at h
  split at h
  · cases h
  next c second =>
  split at h
  · next mark =>
      cases h
      subst mark
      obtain ⟨later, rfl⟩ : ∃ later, rest = '!' :: later := by
        rw [bracket, List.tail_cons] at second
        exact List.head?_eq_some_iff.mp second
      exact .here ⟨later, bracket.symm⟩
  split at h
  · exact .of_reads first (closeTag_error bracket (Stop.eq_error_of_map h)).fault
  split at h
  · exact .of_reads first (openTag_error bracket (Stop.eq_error_of_map h)).fault
  · cases h

/-- A fault met in reading a token lies in what was still to be read. -/
theorem next_error {mode : Mode} {backticks : Bool}
    (h : cursor.next mode backticks = .error stop) : stop.fault.MetFrom cursor := by
  unfold next at h
  split at h
  · cases h
  next c rest first =>
  split at h
  · cases h
  split at h
  · cases h
  split at h
  · exact nextInInlineCode_error (Stop.eq_error_of_map h)
  split at h
  · cases h
  split at h
  · cases h
  split at h
  · next bracket => exact nextAtBracket_error (bracket ▸ first) (Stop.eq_error_of_map h)
  · cases h

end Cursor

end PageMarkup
