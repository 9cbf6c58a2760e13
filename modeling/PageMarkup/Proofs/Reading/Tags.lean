import PageMarkup.Proofs.Reading.Grammar
import PageMarkup.Proofs.Reading.Tokens
import Mathlib.Data.List.Induction

/-! # Tags as tokens

Where a letter follows an angle bracket, a token is read exactly if a tag stands there, and the
token is this tag. The values of its attributes are those written last, in the order in which their
names are written first. A tag that is written with blanks between its parts is read as it is. -/

namespace PageMarkup

/-! ## Names written again -/

namespace Pairs

variable {κ α : Type} [DecidableEq κ] {name : κ} {value : α} {pairs : List (κ × α)}

/-- An old name keeps its place. -/
theorem map_fst_put :
    (put name value pairs).map Prod.fst =
      if name ∈ pairs.map Prod.fst then pairs.map Prod.fst else pairs.map Prod.fst ++ [name] := by
  induction pairs with
  | nil => rfl
  | cons pair pairs ih =>
      by_cases same : pair.1 = name
      · simp [put, same]
      · rw [put, if_neg same, List.map_cons, ih, List.map_cons]
        by_cases old : name ∈ pairs.map Prod.fst <;> simp [old, Ne.symm same]

end Pairs

namespace Attributes

theorem ofList_snoc (pairs : List (Text × Text)) (pair : Text × Text) :
    ofList (pairs ++ [pair]) = (ofList pairs).put pair.1 pair.2 := by
  rw [ofList, List.foldl_append]
  rfl

/-- Names stand in the order in which they are written first. -/
theorem names_ofList (pairs : List (Text × Text)) :
    (ofList pairs).entries.map Prod.fst = (pairs.map Prod.fst).eraseDups := by
  induction pairs using List.reverseRecOn with
  | nil => rfl
  | append_singleton pairs pair ih =>
      rw [ofList_snoc, List.map_append, List.eraseDups_append, ← ih]
      refine Pairs.map_fst_put.trans ?_
      by_cases old : pair.1 ∈ pairs.map Prod.fst
      · have kept : pair.1 ∈ (ofList pairs).entries.map Prod.fst := by
          rwa [ih, List.mem_eraseDups]
        rw [if_pos kept]
        simp [List.removeAll, old]
      · have new : pair.1 ∉ (ofList pairs).entries.map Prod.fst := by
          rwa [ih, List.mem_eraseDups]
        rw [if_neg new]
        simp [List.removeAll, old, List.eraseDups_cons]

/-- Of the values written for a name, the last one counts. -/
theorem get?_ofList (pairs : List (Text × Text)) (name : Text) :
    (ofList pairs).get? name = pairs.reverse.lookup name := by
  induction pairs using List.reverseRecOn with
  | nil => rfl
  | append_singleton pairs pair ih =>
      rw [ofList_snoc, List.reverse_append, List.reverse_singleton, List.singleton_append,
        List.lookup_cons]
      by_cases same : name = pair.1
      · rw [same, get?_put_self, beq_self_eq_true]
      · rw [get?_put_of_ne _ _ same, ih, beq_false_of_ne same]

/-- Attributes that are written in their order are read as they are. -/
theorem ofList_entries (attributes : Attributes) : ofList attributes.entries = attributes :=
  eq_of_entries (entries_ofList attributes.distinct)

end Attributes

namespace Cursor

/-! ## Blanks in tags -/

/-- The blanks that set an attribute apart from what stands before it, and those on the left and on
the right of its equals sign. -/
structure Spacing where
  apart : Text
  left : Text
  right : Text
  apart_blanks : IsBlanks apart
  apart_ne_nil : apart ≠ []
  left_blanks : IsBlanks left
  right_blanks : IsBlanks right

/-- An attribute as it is written with some spacing. -/
def Spacing.entry (spacing : Spacing) (pair : Text × Text) : Text :=
  spacing.apart ++ (pair.1 ++ (spacing.left ++ '=' :: (spacing.right ++ quoted pair.2)))

/-- A tag as it is written with spaced attributes and `blanks` before its end. -/
def spacedTag (name : Text) (entries : List (Spacing × (Text × Text))) (blanks : Text)
    (closes : Bool) : Text :=
  '<' :: (name ++ (entries.flatMap (fun entry => entry.1.entry entry.2) ++
    (blanks ++ tagEnd closes)))

variable {mode : Mode} {c : Char} {written name blanks rest : Text} {pairs : List (Text × Text)}
  {entries : List (Spacing × (Text × Text))} {closes : Bool}

theorem entryText_spaced (spacing : Spacing) {pair : Text × Text} (writable : Writable pair)
    (rest : Text) :
    EntryText (pair.1 ++ (spacing.left ++ '=' :: (spacing.right ++ quoted pair.2))) pair rest :=
  .entry writable.1 spacing.left_blanks spacing.right_blanks (.quoted writable.2)

theorem bodyText_spaced (writable : ∀ entry ∈ entries, Writable entry.2)
    (isBlanks : IsBlanks blanks) (closes : Bool) :
    BodyText (entries.flatMap (fun entry => entry.1.entry entry.2) ++ (blanks ++ tagEnd closes))
      (entries.map Prod.snd) closes := by
  induction entries with
  | nil => exact .ended isBlanks closes
  | cons entry entries ih =>
      obtain ⟨first, others⟩ := List.forall_mem_cons.mp writable
      have whole :=
        BodyText.entry entry.1.apart_blanks (entryText_spaced entry.1 first _) (ih others)
      simpa only [List.flatMap_cons, List.map_cons, Spacing.entry, List.append_assoc,
        List.cons_append] using whole

theorem tagText_spaced (named : IsWord name) (writable : ∀ entry ∈ entries, Writable entry.2)
    (isBlanks : IsBlanks blanks) (closes : Bool) :
    TagText (spacedTag name entries blanks closes) name (entries.map Prod.snd) closes := by
  refine .tag named ?_ (bodyText_spaced writable isBlanks closes)
  cases entries with
  | nil => cases closes <;> exact head_blanks isBlanks (by decide) _
  | cons entry entries =>
      have blank := entry.1.apart_blanks
      obtain ⟨c, apart, shape⟩ := List.exists_cons_of_ne_nil entry.1.apart_ne_nil
      intro d head
      obtain rfl : c = d := by simpa [Spacing.entry, shape] using head
      apply Bool.eq_false_iff.mpr
      intro name
      have other := not_isTagBlank_of_isNameChar name
      rw [blank c (shape ▸ List.mem_cons_self)] at other
      cases other

/-! ## Tokens -/

/-- In modes that read tags, what is read at an angle bracket before a letter is an opening tag. -/
theorem next_at_letter (tags : mode = .normal ∨ mode = .image) (backticks : Bool)
    (letter : isTagStart c = true) (more : Text) (offset : Nat) :
    (⟨'<' :: c :: more, offset⟩ : Cursor).next mode backticks =
      (openTag ⟨'<' :: c :: more, offset⟩).map fun (form, after) =>
        some (⟨form, offset⟩, after) := by
  obtain ⟨code, inline⟩ := ne_of_tags tags
  have noMark : c ≠ '!' ∧ c ≠ '/' := by
    constructor <;> rintro rfl <;> simp [isTagStart] at letter
  rw [next_at_bracket code inline]
  simp only [nextAtBracket, List.tail_cons, List.head?_cons, noMark, letter, if_true, if_false]
  cases openTag ⟨'<' :: c :: more, offset⟩ <;> rfl

/-- The token of a tag that opens an element or closes itself. -/
def tagToken (tag : Tag) (closes : Bool) : Token :=
  ⟨if closes then .selfCloseTag tag else .openTag tag, tag.offset⟩

theorem next_of_tagText (tags : mode = .normal ∨ mode = .image) (backticks : Bool)
    (letter : isTagStart c = true) {more : Text} (offset : Nat)
    (shape : TagText written name pairs closes) (stands : '<' :: c :: more = written ++ rest) :
    (⟨'<' :: c :: more, offset⟩ : Cursor).next mode backticks =
      .ok (some (tagToken ⟨name, .ofList pairs, offset⟩ closes,
        ⟨rest, offset + written.length⟩)) := by
  have reads : (⟨'<' :: c :: more, offset⟩ : Cursor).Reads written
      ⟨rest, offset + written.length⟩ := ⟨stands, rfl⟩
  have read := openTag_eq_ok_iff.mpr ⟨written, name, pairs, closes, reads, shape, rfl⟩
  rw [next_at_letter tags backticks letter, read]
  rfl

/-- A tag begins with a bracket and its name. -/
theorem TagText.begins (shape : TagText written name pairs closes) :
    IsWord name ∧ ∃ body, written = '<' :: (name ++ body) := by
  cases shape with
  | tag named => exact ⟨named, _, rfl⟩

/-- A tag whose name begins with a letter is read wherever tags are. -/
theorem next_of_written (tags : mode = .normal ∨ mode = .image) (backticks : Bool)
    (letter : ∃ c ∈ name.head?, isTagStart c = true)
    (shape : TagText written name pairs closes) (rest : Text) (offset : Nat) :
    (⟨written ++ rest, offset⟩ : Cursor).next mode backticks =
      .ok (some (tagToken ⟨name, .ofList pairs, offset⟩ closes,
        ⟨rest, offset + written.length⟩)) := by
  obtain ⟨c, first, starts⟩ := letter
  obtain ⟨letters, same⟩ := List.head?_eq_some_iff.mp first
  obtain ⟨-, body, begins⟩ := shape.begins
  have stands : '<' :: c :: (letters ++ (body ++ rest)) = written ++ rest := by
    rw [begins, same]
    simp
  rw [← stands]
  exact next_of_tagText tags backticks starts offset shape stands

/-- A token that is a tag is read where the tag is written. -/
theorem exists_tagText_of_tag {cursor after : Cursor} {backticks : Bool} {token : Token} {tag : Tag}
    (tags : mode = .normal ∨ mode = .image)
    (h : cursor.next mode backticks = .ok (some (token, after)))
    (tagged : token.form = .openTag tag ∨ token.form = .selfCloseTag tag) :
    ∃ written pairs closes, (∃ c ∈ tag.name.head?, isTagStart c = true) ∧
      cursor.Reads written after ∧ TagText written tag.name pairs closes ∧
      token = tagToken tag closes ∧ tag = ⟨tag.name, .ofList pairs, cursor.offset⟩ := by
  obtain ⟨rest, offset⟩ := cursor
  obtain ⟨place, readAt⟩ := next_readAt h
  have written : tag.WrittenAt ⟨rest, offset⟩ := by
    rcases tagged with form | form <;> rwa [form] at readAt
  obtain ⟨c, first, letter⟩ := written.letter
  obtain ⟨letters, name⟩ := List.head?_eq_some_iff.mp first
  obtain ⟨later, whole⟩ := written.bracket
  have stands : '<' :: c :: (letters ++ later) = rest := by
    rw [name] at whole
    exact whole
  subst stands
  rw [next_at_letter tags backticks letter] at h
  obtain ⟨⟨form, last⟩, opens, same⟩ := Stop.eq_ok_of_map h
  simp only [Option.some.injEq, Prod.mk.injEq] at same
  obtain ⟨rfl, rfl⟩ := same
  obtain ⟨text, name', pairs, closes, reads, shape, rfl⟩ := openTag_eq_ok_iff.mp opens
  obtain rfl : (⟨name', .ofList pairs, offset⟩ : Tag) = tag := by
    cases closes <;> simpa using tagged
  exact ⟨text, pairs, closes, ⟨c, first, letter⟩, reads, shape, rfl, rfl⟩

theorem exists_tagText_of_next (tags : mode = .normal ∨ mode = .image) {backticks : Bool}
    (letter : isTagStart c = true) {more : Text} {offset : Nat} {read : Option (Token × Cursor)}
    (h : (⟨'<' :: c :: more, offset⟩ : Cursor).next mode backticks = .ok read) :
    ∃ written name pairs closes, TagText written name pairs closes ∧
      written <+: '<' :: c :: more := by
  rw [next_at_letter tags backticks letter] at h
  obtain ⟨⟨form, after⟩, opens, -⟩ := Stop.eq_ok_of_map h
  obtain ⟨written, name, pairs, closes, reads, shape, -⟩ := openTag_eq_ok_iff.mp opens
  exact ⟨written, name, pairs, closes, shape, after.rest, reads.rest.symm⟩

end Cursor

open Cursor

/-- Where a letter follows an angle bracket in a mode that reads tags: A token can be read exactly
if a tag stands there. Then exactly the tag is read, and the token is a tag that opens or one that
closes itself, with the name, the place and the attributes that are written; of several values for
one name the last one counts, at the place of the first. In particular a tag that is written with
blanks between its parts and its values in quotes is read as it is. -/
theorem tags_are_read_by_their_grammar {mode : Mode} (tags : mode = .normal ∨ mode = .image)
    (backticks : Bool) {c : Char} (letter : isTagStart c = true) (more : Text) (offset : Nat) :
    ((∃ read, (⟨'<' :: c :: more, offset⟩ : Cursor).next mode backticks = .ok read) ↔
      ∃ written name pairs closes, TagText written name pairs closes ∧
        written <+: '<' :: c :: more) ∧
    (∀ written name pairs closes rest, TagText written name pairs closes →
      '<' :: c :: more = written ++ rest →
      (⟨'<' :: c :: more, offset⟩ : Cursor).next mode backticks =
        .ok (some (tagToken ⟨name, .ofList pairs, offset⟩ closes,
          ⟨rest, offset + written.length⟩)) ∧
      (Attributes.ofList pairs).entries.map Prod.fst = (pairs.map Prod.fst).eraseDups ∧
      ∀ name, (Attributes.ofList pairs).get? name = pairs.reverse.lookup name) ∧
    ∀ (tag : Tag) (spacings : List Spacing) (blanks rest : Text) (closes : Bool),
      tag.offset = offset → IsWord tag.name →
      (∀ pair ∈ tag.attributes.entries, Writable pair) →
      spacings.length = tag.attributes.entries.length → IsBlanks blanks →
      '<' :: c :: more =
        spacedTag tag.name (spacings.zip tag.attributes.entries) blanks closes ++ rest →
      (⟨'<' :: c :: more, offset⟩ : Cursor).next mode backticks =
        .ok (some (tagToken tag closes, ⟨rest, offset +
          (spacedTag tag.name (spacings.zip tag.attributes.entries) blanks closes).length⟩)) := by
  refine ⟨⟨?_, ?_⟩, ?_, ?_⟩
  · rintro ⟨read, h⟩
    exact exists_tagText_of_next tags letter h
  · rintro ⟨written, name, pairs, closes, shape, rest, stands⟩
    exact ⟨_, next_of_tagText tags backticks letter offset shape stands.symm⟩
  · intro written name pairs closes rest shape stands
    exact ⟨next_of_tagText tags backticks letter offset shape stands,
      Attributes.names_ofList pairs, Attributes.get?_ofList pairs⟩
  · intro tag spacings blanks rest closes place word writable length isBlanks stands
    obtain ⟨name, attributes, _⟩ := tag
    subst place
    have written : (spacings.zip attributes.entries).map Prod.snd = attributes.entries :=
      List.map_snd_zip (Nat.le_of_eq length.symm)
    have writable' : ∀ entry ∈ spacings.zip attributes.entries, Writable entry.2 := by
      intro entry mem
      exact writable _ (written ▸ List.mem_map_of_mem mem)
    have shape := tagText_spaced word writable' isBlanks closes
    rw [next_of_tagText tags backticks letter offset shape stands, written,
      Attributes.ofList_entries]

/-- A quote needs no blank behind it, and a name that is written again keeps its place. -/
theorem later_value_takes_first_place :
    (⟨"<a x=1 y = \"2\"x=3 />b".toList, 7⟩ : Cursor).next .image true =
        .ok (some (tagToken ⟨['a'], .ofList [(['x'], ['1']), (['y'], ['2']), (['x'], ['3'])], 7⟩
          true, ⟨['b'], 27⟩)) ∧
      (Attributes.ofList [(['x'], ['1']), (['y'], ['2']), (['x'], ['3'])]).entries =
        [(['x'], ['3']), (['y'], ['2'])] := by
  have blank : IsBlanks [' '] := by simp [IsBlanks, isTagBlank]
  have none : IsBlanks [] := by simp [IsBlanks]
  have third := BodyText.entry none (EntryText.entry (show IsWord ['x'] by decide) none none
    (.word (show IsWord ['3'] by decide) (by simp [isNameChar]))) (.ended blank true)
  have second := BodyText.entry blank (EntryText.entry (show IsWord ['y'] by decide) blank blank
    (.quoted (show '"' ∉ ['2'] by decide))) third
  have first := BodyText.entry blank (EntryText.entry (show IsWord ['x'] by decide) none none
    (.word (show IsWord ['1'] by decide) (by simp [isNameChar]))) second
  have shape := TagText.tag (show IsWord ['a'] by decide) (by simp [isNameChar]) first
  exact ⟨((tags_are_read_by_their_grammar (.inr rfl) true (show isTagStart 'a' = true by decide)
    " x=1 y = \"2\"x=3 />b".toList 7).2.1 _ _ _ _ ['b'] shape rfl).1, rfl⟩

end PageMarkup
