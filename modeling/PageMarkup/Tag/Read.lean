import PageMarkup.Cursor

/-! Reading tags. A tag is a name, any number of attributes and an end; blanks may stand
before each attribute, around its equals sign and before the end. -/

namespace PageMarkup.Cursor

/-- A value between quotes, or a word. -/
def attributeValue (cursor : Cursor) : Except Stop (Text × Cursor) :=
  match cursor.take? ['"'] with
  | none => cursor.expectWord (.literalExpected ['"'])
  | some opened =>
    let (value, closing) := opened.span (· ≠ '"')
    match closing.take? ['"'] with
    | none => .error ⟨⟨.unclosedQuote, cursor.offset⟩, opened⟩
    | some after => .ok (value, after)

/-- A name, an equals sign and a value. -/
def attributeEntry (cursor : Cursor) : Except Stop ((Text × Text) × Cursor) := do
  let (name, after) ← cursor.expectWord .attributeNameExpected
  let after ← after.skipBlanks.expect ['=']
  let (value, after) ← after.skipBlanks.attributeValue
  return ((name, value), after)

theorem reads_attributeValue {cursor after : Cursor} {value : Text}
    (h : cursor.attributeValue = .ok (value, after)) : ∃ read, cursor.Reads read after := by
  unfold attributeValue at h
  split at h
  · exact ⟨_, (reads_expectWord h).2⟩
  · next opened opens =>
      simp only at h
      split at h
      · cases h
      · next closes =>
          cases h
          exact ⟨_, (reads_take? opens).trans ((reads_span _ _).trans (reads_take? closes))⟩

/-- An attribute is never empty. -/
theorem reads_attributeEntry {cursor after : Cursor} {pair : Text × Text}
    (h : cursor.attributeEntry = .ok (pair, after)) :
    ∃ read, read ≠ [] ∧ cursor.Reads read after := by
  simp only [attributeEntry, bind, Except.bind] at h
  split at h
  · cases h
  next found name =>
  split at h
  · cases h
  next equals =>
  split at h
  · cases h
  next value =>
  cases h
  obtain ⟨nonempty, reads⟩ := reads_expectWord name
  obtain ⟨_, blanks⟩ := reads_skipBlanks found.2
  obtain ⟨_, moreBlanks⟩ := reads_skipBlanks ‹Cursor›
  obtain ⟨_, last⟩ := reads_attributeValue value
  exact ⟨_, by simp [nonempty],
    reads.trans (blanks.trans ((reads_expect equals).trans (moreBlanks.trans last)))⟩

/-- The attributes of a tag up to its end, added to those already read, and whether the tag
closes itself. -/
def tagBody (attributes : Attributes) (cursor : Cursor) :
    Except Stop ((Attributes × Bool) × Cursor) :=
  let here := cursor.skipBlanks
  match here.take? ['/'] with
  | some slash =>
    match slash.expect ['>'] with
    | .ok after => .ok ((attributes, true), after)
    | .error stop => .error stop
  | none =>
    match here.take? ['>'] with
    | some after => .ok ((attributes, false), after)
    | none =>
      match _found : here.attributeEntry with
      | .error stop => .error stop
      | .ok ((name, value), after) => tagBody (attributes.put name value) after
termination_by cursor.rest.length
decreasing_by
  obtain ⟨_, blanks⟩ := cursor.reads_skipBlanks
  obtain ⟨_, nonempty, reads⟩ := reads_attributeEntry _found
  exact (blanks.trans reads).shorter (by simp [nonempty])

/-- A tag that opens an element; the cursor stands before its angle bracket. -/
def openTag (cursor : Cursor) : Except Stop (Token.Form × Cursor) := do
  let after ← cursor.expect ['<']
  let (name, after) ← after.expectWord .tagNameExpected
  let ((attributes, closesItself), after) ← after.tagBody .empty
  let tag : Tag := ⟨name, attributes, cursor.offset⟩
  return (if closesItself then .selfCloseTag tag else .openTag tag, after)

/-- A closing tag; the cursor stands before its angle bracket. -/
def closeTag (cursor : Cursor) : Except Stop (Token.Form × Cursor) := do
  let after ← cursor.expect ['<']
  let after ← after.expect ['/']
  let (name, after) ← after.expectWord .tagNameExpected
  let after ← after.skipBlanks.expect ['>']
  return (.closeTag name, after)

theorem reads_tagBody {attributes : Attributes} {cursor after : Cursor} {result : Attributes × Bool}
    (h : tagBody attributes cursor = .ok (result, after)) : ∃ read, cursor.Reads read after := by
  fun_induction tagBody attributes cursor with
  | case1 attributes cursor here slash found last closes =>
      cases h
      obtain ⟨_, blanks⟩ := cursor.reads_skipBlanks
      exact ⟨_, blanks.trans ((reads_take? found).trans (reads_expect closes))⟩
  | case2 => cases h
  | case3 attributes cursor here _ last closes =>
      cases h
      obtain ⟨_, blanks⟩ := cursor.reads_skipBlanks
      exact ⟨_, blanks.trans (reads_take? closes)⟩
  | case4 => cases h
  | case5 attributes cursor here _ _ name value next read ih =>
      obtain ⟨_, blanks⟩ := cursor.reads_skipBlanks
      obtain ⟨_, _, reads⟩ := reads_attributeEntry read
      obtain ⟨_, last⟩ := ih h
      exact ⟨_, blanks.trans (reads.trans last)⟩

theorem reads_openTag {cursor after : Cursor} {form : Token.Form}
    (h : cursor.openTag = .ok (form, after)) : ∃ read, read ≠ [] ∧ cursor.Reads read after := by
  simp only [openTag, bind, Except.bind] at h
  split at h
  · cases h
  next bracket =>
  split at h
  · cases h
  next name =>
  split at h
  · cases h
  next body =>
  cases h
  obtain ⟨_, last⟩ := reads_tagBody body
  exact ⟨_, by simp, (reads_expect bracket).trans ((reads_expectWord name).2.trans last)⟩

theorem reads_closeTag {cursor after : Cursor} {form : Token.Form}
    (h : cursor.closeTag = .ok (form, after)) : ∃ read, read ≠ [] ∧ cursor.Reads read after := by
  simp only [closeTag, bind, Except.bind] at h
  split at h
  · cases h
  next bracket =>
  split at h
  · cases h
  next slash =>
  split at h
  · cases h
  next found name =>
  split at h
  · cases h
  next closes =>
  cases h
  obtain ⟨_, blanks⟩ := reads_skipBlanks found.2
  exact ⟨_, by simp, (reads_expect bracket).trans ((reads_expect slash).trans
    ((reads_expectWord name).2.trans (blanks.trans (reads_expect closes))))⟩

end PageMarkup.Cursor
