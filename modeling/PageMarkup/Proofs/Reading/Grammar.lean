import PageMarkup.Proofs.Reading.Faults
import PageMarkup.Proofs.Reading.Written

/-! # The grammar of tags

How tags can be written, without a reader. The readers accept these texts and no others, and they
give what the texts say. -/

namespace PageMarkup

theorem Text.head?_append_of_ne_nil {text more : Text} (left : text ≠ []) :
    (text ++ more).head? = text.head? := by
  obtain ⟨c, rest, rfl⟩ := List.exists_cons_of_ne_nil left
  rfl

namespace Cursor

/-! ## Pieces -/

theorem Reads.split {a c : Cursor} {x y : Text} (h : a.Reads (x ++ y) c) :
    ∃ b, a.Reads x b ∧ b.Reads y c := by
  refine ⟨⟨y ++ c.rest, a.offset + x.length⟩, ⟨?_, rfl⟩, ⟨rfl, ?_⟩⟩
  · rw [h.rest, List.append_assoc]
  · rw [h.offset, List.length_append, Nat.add_assoc]

/-- Where something is read, it stands before the rest. -/
theorem Reads.exists_eq {cursor after : Cursor} {read : Text} (h : cursor.Reads read after) :
    ∃ rest offset, cursor = ⟨read ++ rest, offset⟩ ∧ after = ⟨rest, offset + read.length⟩ := by
  obtain ⟨before, start⟩ := cursor
  obtain ⟨rest, place⟩ := after
  obtain ⟨whole, length⟩ := h
  simp only at whole length
  exact ⟨rest, start, by rw [whole], by rw [length]⟩

section Pieces

variable {cursor after : Cursor} {literal word run : Text}

theorem take?_eq_some_iff : cursor.take? literal = some after ↔ cursor.Reads literal after := by
  constructor
  · exact reads_take?
  · intro reads
    obtain ⟨rest, offset, rfl, rfl⟩ := reads.exists_eq
    exact take?_append literal rest offset

theorem take?_eq_none_iff : cursor.take? literal = none ↔ ¬ literal <+: cursor.rest := by
  constructor
  · exact not_isPrefix_of_take?
  · intro other
    cases found : cursor.take? literal with
    | none => rfl
    | some after => exact absurd ⟨after.rest, (reads_take? found).rest.symm⟩ other

theorem expect_eq_ok_iff : cursor.expect literal = .ok after ↔ cursor.Reads literal after := by
  constructor
  · exact reads_expect
  · intro reads
    simp only [expect, take?_eq_some_iff.mpr reads]

theorem span_eq_iff {p : Char → Bool} :
    cursor.span p = (run, after) ↔
      cursor.Reads run after ∧ (∀ c ∈ run, p c = true) ∧ ∀ c ∈ after.rest.head?, p c = false := by
  constructor
  · intro same
    have reads := cursor.reads_span p
    have belong : ∀ c ∈ (cursor.span p).1, p c = true := List.all_eq_true.mp List.all_takeWhile
    have ends : ∀ c ∈ (cursor.span p).2.rest.head?, p c = false := by
      intro c head
      have stops := List.head?_dropWhile_not p cursor.rest
      rw [show (cursor.rest.dropWhile p).head? = some c from head] at stops
      simpa using stops
    rw [same] at reads belong ends
    exact ⟨reads, belong, ends⟩
  · rintro ⟨reads, belong, ends⟩
    obtain ⟨rest, offset, rfl, rfl⟩ := reads.exists_eq
    exact span_append p run rest offset belong ends

/-- Blanks, or nothing. -/
def IsBlanks (text : Text) : Prop := ∀ c ∈ text, isTagBlank c = true

theorem reads_blanks (cursor : Cursor) :
    ∃ blanks, IsBlanks blanks ∧ cursor.Reads blanks cursor.skipBlanks ∧
      ∀ c ∈ cursor.skipBlanks.rest.head?, isTagBlank c = false := by
  obtain ⟨reads, belong, ends⟩ := span_eq_iff.mp (show cursor.span isTagBlank = (_, _) from rfl)
  exact ⟨_, belong, reads, ends⟩

theorem skipBlanks_of_reads {blanks : Text} (isBlanks : IsBlanks blanks)
    (reads : cursor.Reads blanks after) (ends : ∀ c ∈ after.rest.head?, isTagBlank c = false) :
    cursor.skipBlanks = after := by
  rw [skipBlanks, span_eq_iff.mpr ⟨reads, isBlanks, ends⟩]

theorem expectWord_eq_ok_iff {cause : Cause} :
    cursor.expectWord cause = .ok (word, after) ↔
      IsWord word ∧ cursor.Reads word after ∧ ∀ c ∈ after.rest.head?, isNameChar c = false := by
  constructor
  · intro h
    unfold expectWord at h
    split at h
    · cases h
    next c letters last found =>
    cases h
    obtain ⟨reads, belong, ends⟩ := span_eq_iff.mp found
    exact ⟨⟨by simp, belong⟩, reads, ends⟩
  · rintro ⟨⟨nonempty, belong⟩, reads, ends⟩
    obtain ⟨c, letters, rfl⟩ := List.exists_cons_of_ne_nil nonempty
    simp only [expectWord, Cursor.word, span_eq_iff.mpr ⟨reads, belong, ends⟩]

end Pieces

/-! ## Attributes -/

/-- A value as it can be written: any text between quotes that has none itself, or a word as long
as it can be before the rest. -/
inductive ValueText : (written value rest : Text) → Prop
  | quoted {value rest} (plain : '"' ∉ value) : ValueText (quoted value) value rest
  | word {word rest} (isWord : IsWord word) (ends : ∀ c ∈ rest.head?, isNameChar c = false) :
      ValueText word word rest

/-- An attribute as it can be written. -/
inductive EntryText : (written : Text) → (pair : Text × Text) → (rest : Text) → Prop
  | entry {name before behind written value rest} (named : IsWord name) (left : IsBlanks before)
      (right : IsBlanks behind) (valued : ValueText written value rest) :
      EntryText (name ++ (before ++ '=' :: (behind ++ written))) (name, value) rest

/-- What can be written in a tag behind its name: attributes, and an end that leaves the tag open
or closes it. -/
inductive BodyText : (written : Text) → (pairs : List (Text × Text)) → (closes : Bool) → Prop
  | ended {blanks} (isBlanks : IsBlanks blanks) (closes : Bool) :
      BodyText (blanks ++ tagEnd closes) [] closes
  | entry {blanks written pair rest pairs closes} (isBlanks : IsBlanks blanks)
      (first : EntryText written pair rest) (later : BodyText rest pairs closes) :
      BodyText (blanks ++ (written ++ rest)) (pair :: pairs) closes

variable {cursor after : Cursor} {written value rest : Text} {pair : Text × Text}
  {pairs : List (Text × Text)} {closes : Bool}

theorem attributeValue_eq_ok_iff :
    cursor.attributeValue = .ok (value, after) ↔
      ∃ written, cursor.Reads written after ∧ ValueText written value after.rest := by
  constructor
  · intro h
    unfold attributeValue at h
    split at h
    · obtain ⟨isWord, reads, ends⟩ := expectWord_eq_ok_iff.mp h
      exact ⟨value, reads, .word isWord ends⟩
    next opened opens =>
    simp only at h
    split at h
    · cases h
    next last closes =>
    cases h
    have inside := span_eq_iff.mp (show opened.span (· ≠ '"') = (_, _) from rfl)
    have reads := (reads_take? opens).trans (inside.1.trans (reads_take? closes))
    refine ⟨_, reads, .quoted fun quote => ?_⟩
    simpa using inside.2.1 _ quote
  · rintro ⟨written, reads, shape⟩
    cases shape with
    | quoted plain =>
        obtain ⟨rest, offset, rfl, rfl⟩ := reads.exists_eq
        exact attributeValue_quoted plain rest offset
    | word isWord ends =>
        have noQuote : cursor.take? ['"'] = none := by
          refine take?_eq_none_of_head ?_
          rw [reads.rest]
          exact isWord.forall_head (fun c name => ne_of_isNameChar name (by decide)) after.rest
        simp only [attributeValue, noQuote]
        exact expectWord_eq_ok_iff.mpr ⟨isWord, reads, ends⟩

/-- A value begins with no blank. -/
theorem ValueText.head (shape : ValueText written value rest) (more : Text) :
    ∀ c ∈ (written ++ more).head?, isTagBlank c = false := by
  cases shape with
  | quoted => simp [Cursor.quoted, isTagBlank]
  | word isWord => exact isWord.forall_head (fun _ => not_isTagBlank_of_isNameChar) more

/-- A name ends before blanks and a mark that belongs to no name. -/
theorem head_blanks {blanks : Text} {mark : Char} (isBlanks : IsBlanks blanks)
    (other : isNameChar mark = false) (more : Text) :
    ∀ c ∈ (blanks ++ mark :: more).head?, isNameChar c = false := by
  cases blanks with
  | nil => simpa using other
  | cons c blanks =>
      intro d head
      obtain rfl : c = d := by simpa using head
      apply Bool.eq_false_iff.mpr
      intro name
      have blank := isBlanks c List.mem_cons_self
      rw [not_isTagBlank_of_isNameChar name] at blank
      cases blank

/-- Of what follows a value, the first character matters. -/
theorem ValueText.congr {other : Text} (shape : ValueText written value rest)
    (head : other.head? = rest.head?) : ValueText written value other := by
  cases shape with
  | quoted plain => exact .quoted plain
  | word isWord ends => exact .word isWord (head ▸ ends)

theorem EntryText.congr {other : Text} (shape : EntryText written pair rest)
    (head : other.head? = rest.head?) : EntryText written pair other := by
  cases shape with
  | entry named left right valued => exact .entry named left right (valued.congr head)

theorem attributeEntry_eq_ok_iff :
    cursor.attributeEntry = .ok (pair, after) ↔
      ∃ written, cursor.Reads written after ∧ EntryText written pair after.rest := by
  constructor
  · intro h
    simp only [attributeEntry, bind, Except.bind] at h
    split at h
    · cases h
    next found name =>
    split at h
    · cases h
    next equalled equals =>
    split at h
    · cases h
    next given value =>
    cases h
    obtain ⟨isWord, named, -⟩ := expectWord_eq_ok_iff.mp name
    obtain ⟨before, left, blanks, -⟩ := reads_blanks found.2
    obtain ⟨behind, right, moreBlanks, -⟩ := reads_blanks equalled
    obtain ⟨written, valued, shape⟩ := attributeValue_eq_ok_iff.mp value
    have reads := named.trans (blanks.trans ((reads_expect equals).trans
      (moreBlanks.trans valued)))
    exact ⟨found.1 ++ (before ++ '=' :: (behind ++ written)), reads,
      .entry isWord left right shape⟩
  · rintro ⟨written, reads, shape⟩
    cases shape with
    | @entry name before behind written value _ isWord left right shape =>
        obtain ⟨named, name', reads⟩ := reads.split
        obtain ⟨blank, before', reads⟩ := reads.split
        rw [← List.singleton_append] at reads
        obtain ⟨equalled, equals, reads⟩ := reads.split
        obtain ⟨valued, behind', value'⟩ := reads.split
        have nameEnds : ∀ c ∈ named.rest.head?, isNameChar c = false := by
          rw [before'.rest, equals.rest]
          exact head_blanks left (by decide) _
        have noBlank : ∀ c ∈ blank.rest.head?, isTagBlank c = false := by
          rw [equals.rest]
          simp [isTagBlank]
        have valueStarts : ∀ c ∈ valued.rest.head?, isTagBlank c = false := by
          rw [value'.rest]
          exact shape.head _
        simp only [attributeEntry, expectWord_eq_ok_iff.mpr ⟨isWord, name', nameEnds⟩,
          skipBlanks_of_reads left before' noBlank, expect_eq_ok_iff.mpr equals,
          skipBlanks_of_reads right behind' valueStarts,
          attributeValue_eq_ok_iff.mpr ⟨written, value', shape⟩, bind, Except.bind, pure,
          Except.pure]

/-! ## Tags -/

/-- An attribute begins with its name. -/
theorem EntryText.head (shape : EntryText written pair rest) {q : Char → Prop}
    (each : ∀ c, isNameChar c = true → q c) (more : Text) : ∀ c ∈ (written ++ more).head?, q c := by
  cases shape with
  | entry named =>
      rw [List.append_assoc]
      exact named.forall_head each _

theorem BodyText.ne_nil (shape : BodyText written pairs closes) : written ≠ [] := by
  cases shape with
  | ended => cases closes <;> simp [tagEnd]
  | entry _ first _ =>
      cases first with
      | entry named => simp [named.1]

theorem tagBody_eq_ok {attributes last : Attributes}
    (h : tagBody attributes cursor = .ok ((last, closes), after)) :
    ∃ written pairs, cursor.Reads written after ∧ BodyText written pairs closes ∧
      last = pairs.foldl (fun attributes pair => attributes.put pair.1 pair.2) attributes := by
  fun_induction tagBody attributes cursor with
  | case1 attributes cursor here slash found ended closing =>
      cases h
      obtain ⟨blanks, isBlanks, reads, -⟩ := reads_blanks cursor
      have whole := reads.trans ((reads_take? found).trans (reads_expect closing))
      exact ⟨blanks ++ tagEnd true, [], whole, .ended isBlanks true, rfl⟩
  | case2 => cases h
  | case3 attributes cursor here _ ended closing =>
      cases h
      obtain ⟨blanks, isBlanks, reads, -⟩ := reads_blanks cursor
      have whole := reads.trans (reads_take? closing)
      exact ⟨blanks ++ tagEnd false, [], whole, .ended isBlanks false, rfl⟩
  | case4 => cases h
  | case5 attributes cursor here _ _ name value next read ih =>
      obtain ⟨blanks, isBlanks, reads, -⟩ := reads_blanks cursor
      obtain ⟨written, entry, first⟩ := attributeEntry_eq_ok_iff.mp read
      obtain ⟨rest, pairs, further, later, same⟩ := ih h
      have head : rest.head? = next.rest.head? := by
        rw [further.rest, Text.head?_append_of_ne_nil later.ne_nil]
      exact ⟨blanks ++ (written ++ rest), (name, value) :: pairs,
        reads.trans (entry.trans further), .entry isBlanks (first.congr head) later, same⟩

theorem tagBody_of_bodyText {attributes : Attributes} (shape : BodyText written pairs closes)
    (reads : cursor.Reads written after) :
    tagBody attributes cursor =
      .ok ((pairs.foldl (fun attributes pair => attributes.put pair.1 pair.2) attributes, closes),
        after) := by
  induction shape generalizing attributes cursor with
  | @ended blanks isBlanks closes =>
      obtain ⟨middle, blank, reads⟩ := reads.split
      have skipped : cursor.skipBlanks = middle := by
        refine skipBlanks_of_reads isBlanks blank ?_
        rw [reads.rest]
        cases closes <;> simp [tagEnd, isTagBlank]
      cases closes with
      | false =>
          refine tagBody_of_end ?_ ?_
          · rw [skipped, take?_eq_none_iff, reads.rest]
            simp [tagEnd]
          · rw [skipped]
            exact take?_eq_some_iff.mpr reads
      | true =>
          have both : middle.Reads (['/'] ++ ['>']) after := reads
          obtain ⟨slashed, slash, last⟩ := both.split
          refine tagBody_of_slash ?_ (expect_eq_ok_iff.mpr last)
          rw [skipped]
          exact take?_eq_some_iff.mpr slash
  | @entry blanks written pair rest pairs closes isBlanks first later ih =>
      obtain ⟨middle, blank, reads⟩ := reads.split
      obtain ⟨next, entry, further⟩ := reads.split
      have head {q : Char → Prop} (each : ∀ c, isNameChar c = true → q c) :
          ∀ c ∈ middle.rest.head?, q c := by
        rw [entry.rest]
        exact first.head each _
      have skipped : cursor.skipBlanks = middle :=
        skipBlanks_of_reads isBlanks blank (head fun _ => not_isTagBlank_of_isNameChar)
      have same : next.rest.head? = rest.head? := by
        rw [further.rest, Text.head?_append_of_ne_nil later.ne_nil]
      have read : cursor.skipBlanks.attributeEntry = .ok (pair, next) := by
        rw [skipped]
        exact attributeEntry_eq_ok_iff.mpr ⟨written, entry, first.congr same⟩
      rw [tagBody_of_entry ?_ ?_ read]
      · exact ih further
      · rw [skipped]
        exact take?_eq_none_of_head (head fun _ name => ne_of_isNameChar name (by decide))
      · rw [skipped]
        exact take?_eq_none_of_head (head fun _ name => ne_of_isNameChar name (by decide))

/-- An opening tag as it can be written. Its name is as long as it can be. -/
inductive TagText : (written name : Text) → (pairs : List (Text × Text)) → (closes : Bool) → Prop
  | tag {name body pairs closes} (named : IsWord name)
      (ends : ∀ c ∈ body.head?, isNameChar c = false) (inside : BodyText body pairs closes) :
      TagText ('<' :: (name ++ body)) name pairs closes

/-- A closing tag as it can be written. -/
inductive CloseText : (written name : Text) → Prop
  | tag {name blanks} (named : IsWord name) (isBlanks : IsBlanks blanks) :
      CloseText ('<' :: '/' :: (name ++ (blanks ++ ['>']))) name

/-- What is read as an opening tag is one, and gives what it says. -/
theorem openTag_eq_ok_iff {form : Token.Form} :
    cursor.openTag = .ok (form, after) ↔
      ∃ written name pairs closes, cursor.Reads written after ∧
        TagText written name pairs closes ∧
        form = if closes then .selfCloseTag ⟨name, .ofList pairs, cursor.offset⟩
          else .openTag ⟨name, .ofList pairs, cursor.offset⟩ := by
  constructor
  · intro h
    simp only [openTag, bind, Except.bind] at h
    split at h
    · cases h
    next bracket =>
    split at h
    · cases h
    next found name =>
    split at h
    · cases h
    next last body =>
    cases h
    obtain ⟨isWord, named, ends⟩ := expectWord_eq_ok_iff.mp name
    obtain ⟨written, pairs, reads, inside, same⟩ := tagBody_eq_ok body
    rw [reads.rest, Text.head?_append_of_ne_nil inside.ne_nil] at ends
    refine ⟨'<' :: (found.1 ++ written), found.1, pairs, last.1.2,
      (reads_expect bracket).trans (named.trans reads), .tag isWord ends inside, ?_⟩
    rw [same]
    rfl
  · rintro ⟨_, name, pairs, closes, reads, ⟨isWord, ends, inside⟩, rfl⟩
    rw [← List.singleton_append] at reads
    obtain ⟨opened, bracket, reads⟩ := reads.split
    obtain ⟨named, name', reads⟩ := reads.split
    have ends' : ∀ c ∈ named.rest.head?, isNameChar c = false := by
      rwa [reads.rest, Text.head?_append_of_ne_nil inside.ne_nil]
    simp only [openTag, expect_eq_ok_iff.mpr bracket,
      expectWord_eq_ok_iff.mpr ⟨isWord, name', ends'⟩, tagBody_of_bodyText inside reads, bind,
      Except.bind, pure, Except.pure, Attributes.ofList]

/-- What is read as a closing tag is one. -/
theorem closeTag_eq_ok_iff {form : Token.Form} :
    cursor.closeTag = .ok (form, after) ↔
      ∃ written name, cursor.Reads written after ∧ CloseText written name ∧
        form = .closeTag name := by
  constructor
  · intro h
    simp only [closeTag, bind, Except.bind] at h
    split at h
    · cases h
    next bracket =>
    split at h
    · cases h
    next slash =>
    split at h
    · cases h
    next found name =>
    split at h
    · cases h
    next closes =>
    cases h
    obtain ⟨isWord, named, -⟩ := expectWord_eq_ok_iff.mp name
    obtain ⟨blanks, isBlanks, reads, -⟩ := reads_blanks found.2
    exact ⟨'<' :: '/' :: (found.1 ++ (blanks ++ ['>'])), found.1,
      (reads_expect bracket).trans ((reads_expect slash).trans
        (named.trans (reads.trans (reads_expect closes)))), .tag isWord isBlanks, rfl⟩
  · rintro ⟨_, name, reads, ⟨isWord, isBlanks⟩, rfl⟩
    have spelled : cursor.Reads (['<'] ++ (['/'] ++ (name ++ (_ ++ ['>'])))) after := reads
    obtain ⟨opened, bracket, reads⟩ := spelled.split
    obtain ⟨slashed, slash, reads⟩ := reads.split
    obtain ⟨named, name', reads⟩ := reads.split
    obtain ⟨skipped, blank, reads⟩ := reads.split
    have nameEnds : ∀ c ∈ named.rest.head?, isNameChar c = false := by
      rw [blank.rest, reads.rest]
      exact head_blanks isBlanks (by decide) _
    have noBlank : ∀ c ∈ skipped.rest.head?, isTagBlank c = false := by
      rw [reads.rest]
      simp [isTagBlank]
    simp only [closeTag, expect_eq_ok_iff.mpr bracket, expect_eq_ok_iff.mpr slash,
      expectWord_eq_ok_iff.mpr ⟨isWord, name', nameEnds⟩,
      skipBlanks_of_reads isBlanks blank noBlank, expect_eq_ok_iff.mpr reads, bind, Except.bind,
      pure, Except.pure]

end Cursor

end PageMarkup
