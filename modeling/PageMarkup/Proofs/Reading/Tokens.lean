import PageMarkup.Token.Read

/-! # Tokens and the source

A token tells something of the mode in which it was read and of the text at its place. -/

namespace PageMarkup

/-- The forms of the tokens that are read in a mode. -/
def Mode.Brings : Mode → Token.Form → Prop
  | .code, form => (∃ text, form = .text text) ∨ form = .closeTag "code".toList
  | .inlineCode, form => (∃ text, form = .text text) ∨ form = .backtick
  | _, _ => True

/-- Opening tags are read in the modes that read tags. -/
theorem Token.Form.not_brought_of_openTag {form : Token.Form} (kind : form.kind = .openTag) :
    ¬ Mode.code.Brings form ∧ ¬ Mode.inlineCode.Brings form := by
  cases form with
  | openTag tag => simp [Mode.Brings]
  | text | newline | pipe | closeTag | selfCloseTag | backtick => cases kind

/-- So are closing tags, but for that of a listing. -/
theorem Token.Form.not_brought_of_closeTag {name : Text} (other : name ≠ "code".toList) :
    ¬ Mode.code.Brings (.closeTag name) ∧ ¬ Mode.inlineCode.Brings (.closeTag name) := by
  constructor
  · rintro (⟨text, form⟩ | form)
    · cases form
    · exact other (Token.Form.closeTag.inj form)
  · simp [Mode.Brings]

theorem Token.eq_of_closeTag {token : Token} (kind : token.form.kind = .closeTag) :
    ∃ name, token = ⟨.closeTag name, token.offset⟩ := by
  obtain ⟨form, offset⟩ := token
  cases form with
  | closeTag name => exact ⟨name, rfl⟩
  | text | newline | pipe | openTag | selfCloseTag | backtick => cases kind

/-- The tag begins at the cursor: with an angle bracket and its name, which starts with a letter. -/
structure Tag.WrittenAt (tag : Tag) (cursor : Cursor) : Prop where
  offset : tag.offset = cursor.offset
  bracket : '<' :: tag.name <+: cursor.rest
  letter : ∃ c ∈ tag.name.head?, Cursor.isTagStart c = true

/-- What stands at the place of a tag token. -/
def Token.Form.ReadAt : Token.Form → Cursor → Prop
  | .openTag tag, cursor | .selfCloseTag tag, cursor => tag.WrittenAt cursor
  | .closeTag _, cursor => "</".toList <+: cursor.rest
  | _, _ => True

namespace Cursor

variable {mode : Mode} {backticks : Bool} {cursor after : Cursor} {token : Token}

theorem brings_of_next
    (h : cursor.next mode backticks = .ok (some (token, after))) :
    mode.Brings token.form := by
  unfold next at h
  split at h
  · cases h
  cases mode with
  | normal => trivial
  | image => trivial
  | code =>
      simp only [if_true, Except.ok.injEq, Option.some.injEq, nextInListing] at h
      split at h
      · cases h
        exact .inr rfl
      · cases h
        exact .inl ⟨_, rfl⟩
  | inlineCode =>
      simp only [reduceCtorEq, if_false, if_true] at h
      split at h
      · cases h
        exact .inr rfl
      · obtain ⟨_, inside, same⟩ := Stop.eq_ok_of_map h
        cases same
        simp only [nextInInlineCode] at inside
        split at inside
        · cases inside
        · cases inside
          exact .inl ⟨_, rfl⟩

theorem openTag_eq_ok {form : Token.Form} (h : cursor.openTag = .ok (form, after)) :
    ∃ tag, (form = .openTag tag ∨ form = .selfCloseTag tag) ∧ tag.offset = cursor.offset ∧
      tag.name ≠ [] ∧ '<' :: tag.name <+: cursor.rest := by
  simp only [openTag, bind, Except.bind] at h
  split at h
  · cases h
  next bracket =>
  split at h
  · cases h
  next found name =>
  split at h
  · cases h
  next body bodyRead =>
  cases h
  obtain ⟨nonempty, reads⟩ := reads_expectWord name
  refine ⟨⟨found.1, body.1.1, cursor.offset⟩, ?_, rfl, nonempty, found.2.rest, ?_⟩
  · cases body.1.2 <;> simp
  · rw [(reads_expect bracket).rest, reads.rest]
    rfl

theorem openTag_readAt {form : Token.Form} (h : cursor.openTag = .ok (form, after))
    (letter : ∃ c ∈ cursor.rest.tail.head?, isTagStart c = true) : form.ReadAt cursor := by
  obtain ⟨tag, form, offset, nonempty, bracket⟩ := openTag_eq_ok h
  obtain ⟨c, first, starts⟩ := letter
  have written : tag.WrittenAt cursor := by
    refine ⟨offset, bracket, c, ?_, starts⟩
    obtain ⟨d, letters, same⟩ := List.exists_cons_of_ne_nil nonempty
    obtain ⟨rest, whole⟩ := bracket
    rw [← whole, same] at first
    rw [same]
    exact first
  rcases form with rfl | rfl
  · exact written
  · exact written

theorem closeTag_eq_ok {form : Token.Form} (h : cursor.closeTag = .ok (form, after)) :
    (∃ name, form = .closeTag name) ∧ "</".toList <+: cursor.rest := by
  simp only [closeTag, bind, Except.bind] at h
  split at h
  · cases h
  next opened bracket =>
  split at h
  · cases h
  next slashed slash =>
  split at h
  · cases h
  split at h
  · cases h
  cases h
  exact ⟨⟨_, rfl⟩, slashed.rest, ((reads_expect bracket).trans (reads_expect slash)).rest.symm⟩

theorem nextAtBracket_readAt (h : cursor.nextAtBracket = .ok (token, after)) :
    token.offset = cursor.offset ∧ token.form.ReadAt cursor := by
  unfold nextAtBracket at h
  split at h
  · cases h
    exact ⟨rfl, trivial⟩
  next c second =>
  split at h
  · cases h
  split at h
  · obtain ⟨⟨form, last⟩, closes, same⟩ := Stop.eq_ok_of_map h
    cases same
    obtain ⟨⟨name, rfl⟩, bracket⟩ := closeTag_eq_ok closes
    exact ⟨rfl, bracket⟩
  split at h
  · next letter =>
      obtain ⟨⟨form, last⟩, opens, same⟩ := Stop.eq_ok_of_map h
      cases same
      exact ⟨rfl, openTag_readAt opens ⟨c, second, letter⟩⟩
  · cases h
    exact ⟨rfl, trivial⟩

/-- Text at an angle bracket is the bracket itself, as an entity. -/
theorem nextAtBracket_text {value : Text} (h : cursor.nextAtBracket = .ok (token, after))
    (text : token.form = .text value) :
    cursor.single (.text "&lt;".toList) = (token, after) := by
  unfold nextAtBracket at h
  split at h
  · exact Except.ok.inj h
  split at h
  · cases h
  split at h
  · obtain ⟨⟨form, last⟩, closes, same⟩ := Stop.eq_ok_of_map h
    cases same
    obtain ⟨⟨name, rfl⟩, -⟩ := closeTag_eq_ok closes
    cases text
  split at h
  · obtain ⟨⟨form, last⟩, opens, same⟩ := Stop.eq_ok_of_map h
    cases same
    obtain ⟨tag, rfl | rfl, -⟩ := openTag_eq_ok opens
    · cases text
    · cases text
  · exact Except.ok.inj h

theorem nextInListing_readAt (cursor : Cursor) :
    cursor.nextInListing.1.offset = cursor.offset ∧
      cursor.nextInListing.1.form.ReadAt cursor := by
  unfold nextInListing
  split
  · next after found =>
      refine ⟨rfl, "code>".toList ++ after.rest, ?_⟩
      rw [(reads_take? found).rest]
      rfl
  · exact ⟨rfl, trivial⟩

/-- A token lies where the cursor stood, and what it tells of a tag stands there. -/
theorem next_readAt (h : cursor.next mode backticks = .ok (some (token, after))) :
    token.offset = cursor.offset ∧ token.form.ReadAt cursor := by
  unfold next at h
  split at h
  · cases h
  split at h
  · simp only [Except.ok.injEq, Option.some.injEq] at h
    have read := nextInListing_readAt cursor
    rwa [h] at read
  split at h
  · cases h
    exact ⟨rfl, trivial⟩
  split at h
  · obtain ⟨_, inside, same⟩ := Stop.eq_ok_of_map h
    cases same
    simp only [nextInInlineCode] at inside
    split at inside
    · cases inside
    · cases inside
      exact ⟨rfl, trivial⟩
  split at h
  · cases h
    exact ⟨rfl, trivial⟩
  split at h
  · cases h
    exact ⟨rfl, trivial⟩
  split at h
  · obtain ⟨_, bracket, same⟩ := Stop.eq_ok_of_map h
    cases same
    exact nextAtBracket_readAt bracket
  · cases h
    exact ⟨rfl, trivial⟩

end Cursor

end PageMarkup
