import PageMarkup.Token.Read

/-! # Reading what is written

Tags in the form in which the page shows them, `name="value"` pairs after one blank each, are read
back as the tags that they are. -/

namespace PageMarkup.Cursor

/-! ## Words and values -/

/-- A name, or a value that needs no quotes. -/
def IsWord (word : Text) : Prop := word ≠ [] ∧ ∀ c ∈ word, isNameChar c = true

instance (word : Text) : Decidable (IsWord word) :=
  decidable_of_iff (word ≠ [] ∧ word.all isNameChar = true) (by rw [IsWord, List.all_eq_true])

theorem span_append (p : Char → Bool) (run rest : Text) (offset : Nat)
    (belong : ∀ c ∈ run, p c = true) (ends : ∀ c ∈ rest.head?, p c = false) :
    (⟨run ++ rest, offset⟩ : Cursor).span p = (run, ⟨rest, offset + run.length⟩) := by
  obtain ⟨taken, left⟩ := Text.takeWhile_append_of_ends belong ends
  simp only [span, taken, left]

section Pieces

variable {word value rest : Text} {offset : Nat}

theorem skipBlanks_of_head (ends : ∀ c ∈ rest.head?, isTagBlank c = false) :
    (⟨rest, offset⟩ : Cursor).skipBlanks = ⟨rest, offset⟩ := by
  have h := span_append isTagBlank [] rest offset (by simp) ends
  exact congrArg Prod.snd h

theorem skipBlanks_space (ends : ∀ c ∈ rest.head?, isTagBlank c = false) :
    (⟨' ' :: rest, offset⟩ : Cursor).skipBlanks = ⟨rest, offset + 1⟩ := by
  have h := span_append isTagBlank [' '] rest offset (by simp [isTagBlank]) ends
  exact congrArg Prod.snd h

theorem expectWord_append (h : IsWord word) (rest : Text) (offset : Nat) (cause : Cause)
    (ends : ∀ c ∈ rest.head?, isNameChar c = false) :
    (⟨word ++ rest, offset⟩ : Cursor).expectWord cause =
      .ok (word, ⟨rest, offset + word.length⟩) := by
  obtain ⟨nonempty, chars⟩ := h
  obtain ⟨c, word, rfl⟩ := List.exists_cons_of_ne_nil nonempty
  simp only [expectWord, Cursor.word, span_append isNameChar _ rest offset chars ends]

theorem take?_append (literal rest : Text) (offset : Nat) :
    (⟨literal ++ rest, offset⟩ : Cursor).take? literal = some ⟨rest, offset + literal.length⟩ := by
  simp only [take?, Text.after?_eq_some_iff.mpr rfl, Option.map_some]

theorem take?_eq_none_of_head {mark : Char} (h : ∀ c ∈ rest.head?, c ≠ mark) :
    (⟨rest, offset⟩ : Cursor).take? [mark] = none := by
  cases rest with
  | nil => rfl
  | cons c rest =>
      have differs := h c rfl
      simp [take?, Text.after?, Ne.symm differs]

theorem expect_append (literal rest : Text) (offset : Nat) :
    (⟨literal ++ rest, offset⟩ : Cursor).expect literal =
      .ok ⟨rest, offset + literal.length⟩ := by
  simp only [expect, take?_append]

/-- A value in quotes. -/
def quoted (value : Text) : Text := '"' :: value ++ ['"']

theorem attributeValue_quoted (h : '"' ∉ value) (rest : Text) (offset : Nat) :
    (⟨quoted value ++ rest, offset⟩ : Cursor).attributeValue =
      .ok (value, ⟨rest, offset + (quoted value).length⟩) := by
  have opens := take?_append ['"'] (value ++ '"' :: rest) offset
  have closes := take?_append ['"'] rest (offset + 1 + value.length)
  have inside : (⟨value ++ '"' :: rest, offset + 1⟩ : Cursor).span (· ≠ '"') =
      (value, ⟨'"' :: rest, offset + 1 + value.length⟩) := by
    refine span_append _ _ _ _ (fun c mem => ?_) (by simp)
    have differs : c ≠ '"' := fun same => h (same ▸ mem)
    simpa using differs
  have shape : quoted value ++ rest = '"' :: (value ++ '"' :: rest) := by simp [quoted]
  have length : offset + (quoted value).length = offset + 1 + value.length + 1 := by
    simp only [quoted, List.length_cons, List.length_append, List.length_nil]
    omega
  simp only [List.cons_append, List.nil_append, List.length_cons, List.length_nil,
    Nat.zero_add] at opens closes
  simp only [attributeValue, shape, length, opens, inside, closes]

end Pieces

/-! ## Characters of names -/

theorem not_isTagBlank_of_isNameChar {c : Char} (h : isNameChar c = true) :
    isTagBlank c = false := by
  apply Bool.eq_false_iff.mpr
  intro blank
  simp only [isTagBlank, Bool.or_eq_true, decide_eq_true_eq] at blank
  rcases blank with ((rfl | rfl) | rfl) | rfl <;> simp [isNameChar] at h

theorem ne_of_isNameChar {c mark : Char} (h : isNameChar c = true)
    (other : isNameChar mark = false) : c ≠ mark := by
  rintro rfl
  simp [h] at other

/-- What is true of all characters of a name is true of the first character of a word. -/
theorem IsWord.forall_head {word : Text} (h : IsWord word) {q : Char → Prop}
    (each : ∀ c, isNameChar c = true → q c) (rest : Text) : ∀ c ∈ (word ++ rest).head?, q c := by
  obtain ⟨nonempty, chars⟩ := h
  obtain ⟨c, word, rfl⟩ := List.exists_cons_of_ne_nil nonempty
  intro d head
  obtain rfl : c = d := by simpa using head
  exact each c (chars c List.mem_cons_self)

/-! ## Tags -/

/-- A pair of a name and a value that can be written between quotes. -/
def Writable (pair : Text × Text) : Prop := IsWord pair.1 ∧ '"' ∉ pair.2

instance (pair : Text × Text) : Decidable (Writable pair) := inferInstanceAs (Decidable (_ ∧ _))

theorem attributeEntry_written {pair : Text × Text} (h : Writable pair) (rest : Text)
    (offset : Nat) :
    (⟨pair.1 ++ '=' :: (quoted pair.2 ++ rest), offset⟩ : Cursor).attributeEntry =
      .ok (pair, ⟨rest, offset + pair.1.length + 1 + (quoted pair.2).length⟩) := by
  obtain ⟨name, value⟩ := pair
  obtain ⟨word, noQuote⟩ := h
  have named := expectWord_append word ('=' :: (quoted value ++ rest)) offset
    .attributeNameExpected (by simp [isNameChar])
  have equals : (⟨'=' :: (quoted value ++ rest), offset + name.length⟩ : Cursor).expect ['='] =
      .ok ⟨quoted value ++ rest, offset + name.length + 1⟩ := expect_append ['='] _ _
  have valued := attributeValue_quoted noQuote rest (offset + name.length + 1)
  have noBlank : (⟨'=' :: (quoted value ++ rest), offset + name.length⟩ : Cursor).skipBlanks =
      ⟨'=' :: (quoted value ++ rest), offset + name.length⟩ :=
    skipBlanks_of_head (by simp [isTagBlank])
  have noBlank' : (⟨quoted value ++ rest, offset + name.length + 1⟩ : Cursor).skipBlanks =
      ⟨quoted value ++ rest, offset + name.length + 1⟩ :=
    skipBlanks_of_head (by simp [quoted, isTagBlank])
  simp only [attributeEntry, named, noBlank, equals, noBlank', valued, bind, Except.bind, pure,
    Except.pure]

/-! The three ways in which the body of a tag can go on behind its blanks. -/

theorem tagBody_of_slash {attributes : Attributes} {cursor slash after : Cursor}
    (first : cursor.skipBlanks.take? ['/'] = some slash) (last : slash.expect ['>'] = .ok after) :
    tagBody attributes cursor = .ok ((attributes, true), after) := by
  rw [tagBody]
  simp only [first, last]

theorem tagBody_of_end {attributes : Attributes} {cursor after : Cursor}
    (noSlash : cursor.skipBlanks.take? ['/'] = none)
    (last : cursor.skipBlanks.take? ['>'] = some after) :
    tagBody attributes cursor = .ok ((attributes, false), after) := by
  rw [tagBody]
  simp only [noSlash, last]

theorem tagBody_of_entry {attributes : Attributes} {cursor after : Cursor} {pair : Text × Text}
    (noSlash : cursor.skipBlanks.take? ['/'] = none) (noEnd : cursor.skipBlanks.take? ['>'] = none)
    (read : cursor.skipBlanks.attributeEntry = .ok (pair, after)) :
    tagBody attributes cursor = tagBody (attributes.put pair.1 pair.2) after := by
  rw [tagBody]
  simp only [noSlash, noEnd]
  split
  · next failed =>
      rw [read] at failed
      cases failed
  · next found =>
      rw [read] at found
      cases found
      rfl

/-- The end of a tag that stays open, or of one that closes itself. -/
def tagEnd (closes : Bool) : Text := if closes then "/>".toList else ['>']

theorem tagBody_tagEnd (closes : Bool) (attributes : Attributes) (rest : Text) (offset : Nat) :
    tagBody attributes ⟨tagEnd closes ++ rest, offset⟩ =
      .ok ((attributes, closes), ⟨rest, offset + (tagEnd closes).length⟩) := by
  cases closes with
  | false =>
      have noBlank : (⟨'>' :: rest, offset⟩ : Cursor).skipBlanks = ⟨'>' :: rest, offset⟩ :=
        skipBlanks_of_head (by simp [isTagBlank])
      have noSlash : (⟨'>' :: rest, offset⟩ : Cursor).take? ['/'] = none :=
        take?_eq_none_of_head (by simp)
      exact tagBody_of_end (noBlank ▸ noSlash) (noBlank ▸ take?_append ['>'] rest offset)
  | true =>
      have noBlank : (⟨'/' :: '>' :: rest, offset⟩ : Cursor).skipBlanks =
          ⟨'/' :: '>' :: rest, offset⟩ := skipBlanks_of_head (by simp [isTagBlank])
      have slash := take?_append ['/'] ('>' :: rest) offset
      exact tagBody_of_slash (noBlank ▸ slash) (expect_append ['>'] rest (offset + 1))

theorem tagBody_renderEntry {pair : Text × Text} (h : Writable pair) (attributes : Attributes)
    (rest : Text) (offset : Nat) :
    tagBody attributes ⟨Attributes.renderEntry pair ++ rest, offset⟩ =
      tagBody (attributes.put pair.1 pair.2)
        ⟨rest, offset + (Attributes.renderEntry pair).length⟩ := by
  generalize entryEq : pair.1 ++ '=' :: (quoted pair.2 ++ rest) = entry
  have head {q : Char → Prop} (each : ∀ c, isNameChar c = true → q c) : ∀ c ∈ entry.head?, q c :=
    entryEq ▸ h.1.forall_head each _
  have shape : Attributes.renderEntry pair ++ rest = ' ' :: entry := by
    simp [← entryEq, Attributes.renderEntry, quoted]
  have length : offset + (Attributes.renderEntry pair).length =
      offset + 1 + pair.1.length + 1 + (quoted pair.2).length := by
    simp [Attributes.renderEntry, quoted]
    omega
  have blank : (⟨' ' :: entry, offset⟩ : Cursor).skipBlanks = ⟨entry, offset + 1⟩ :=
    skipBlanks_space (head fun _ => not_isTagBlank_of_isNameChar)
  have read := attributeEntry_written h rest (offset + 1)
  rw [shape, length]
  refine tagBody_of_entry ?_ ?_ ?_
  · exact blank ▸ take?_eq_none_of_head (head fun _ name => ne_of_isNameChar name (by decide))
  · exact blank ▸ take?_eq_none_of_head (head fun _ name => ne_of_isNameChar name (by decide))
  · rw [blank, ← read, entryEq]

/-- Pairs that are written in a tag are its attributes. -/
theorem tagBody_written (closes : Bool) (rest : Text) (pairs : List (Text × Text))
    (h : ∀ pair ∈ pairs, Writable pair) (attributes : Attributes) (offset : Nat) :
    tagBody attributes
        ⟨pairs.flatMap Attributes.renderEntry ++ (tagEnd closes ++ rest), offset⟩ =
      .ok ((pairs.foldl (fun attributes pair => attributes.put pair.1 pair.2) attributes, closes),
        ⟨rest, offset + (pairs.flatMap Attributes.renderEntry ++ tagEnd closes).length⟩) := by
  induction pairs generalizing attributes offset with
  | nil => exact tagBody_tagEnd closes attributes rest offset
  | cons pair pairs ih =>
      rw [List.flatMap_cons, List.append_assoc, tagBody_renderEntry (h pair List.mem_cons_self),
        ih fun later mem => h later (List.mem_cons_of_mem pair mem)]
      simp only [List.foldl_cons, List.append_assoc, List.length_append, Nat.add_assoc]

/-- A tag as it is written. -/
def writtenTag (name : Text) (pairs : List (Text × Text)) (closes : Bool) : Text :=
  '<' :: name ++ pairs.flatMap Attributes.renderEntry ++ tagEnd closes

/-- A closing tag as it is written. -/
def writtenClose (name : Text) : Text := "</".toList ++ name ++ ['>']

/-- The first character behind a name in a tag belongs to no name. -/
theorem head_not_isNameChar (pairs : List (Text × Text)) (closes : Bool) (rest : Text) :
    ∀ c ∈ (pairs.flatMap Attributes.renderEntry ++ (tagEnd closes ++ rest)).head?,
      isNameChar c = false := by
  cases pairs with
  | nil => cases closes <;> simp [tagEnd, isNameChar]
  | cons pair pairs => simp [Attributes.renderEntry, isNameChar]

/-- A written tag is read as the tag that it is. -/
theorem openTag_written {name : Text} {pairs : List (Text × Text)} (word : IsWord name)
    (writable : ∀ pair ∈ pairs, Writable pair) (closes : Bool) (rest : Text) (offset : Nat) :
    (⟨writtenTag name pairs closes ++ rest, offset⟩ : Cursor).openTag =
      .ok (if closes then .selfCloseTag ⟨name, .ofList pairs, offset⟩
          else .openTag ⟨name, .ofList pairs, offset⟩,
        ⟨rest, offset + (writtenTag name pairs closes).length⟩) := by
  have shape : writtenTag name pairs closes ++ rest = '<' ::
      (name ++ (pairs.flatMap Attributes.renderEntry ++ (tagEnd closes ++ rest))) := by
    simp [writtenTag]
  have bracket := expect_append ['<']
    (name ++ (pairs.flatMap Attributes.renderEntry ++ (tagEnd closes ++ rest))) offset
  have named := expectWord_append word _ (offset + 1) .tagNameExpected
    (head_not_isNameChar pairs closes rest)
  have body := tagBody_written closes rest pairs writable .empty (offset + 1 + name.length)
  have length : offset + (writtenTag name pairs closes).length = offset + 1 + name.length +
      (pairs.flatMap Attributes.renderEntry ++ tagEnd closes).length := by
    simp only [writtenTag, List.length_append, List.length_cons]
    omega
  simp only [List.cons_append, List.nil_append, List.length_cons, List.length_nil,
    Nat.zero_add] at bracket
  simp only [openTag, shape, length, bracket, named, body, bind, Except.bind, pure, Except.pure,
    Attributes.ofList]

theorem closeTag_written {name : Text} (word : IsWord name) (rest : Text) (offset : Nat) :
    (⟨writtenClose name ++ rest, offset⟩ : Cursor).closeTag =
      .ok (.closeTag name, ⟨rest, offset + (writtenClose name).length⟩) := by
  have shape : writtenClose name ++ rest = '<' :: '/' :: (name ++ '>' :: rest) := by
    simp [writtenClose]
  have bracket : (⟨'<' :: '/' :: (name ++ '>' :: rest), offset⟩ : Cursor).expect ['<'] =
      .ok ⟨'/' :: (name ++ '>' :: rest), offset + 1⟩ := expect_append ['<'] _ offset
  have slash : (⟨'/' :: (name ++ '>' :: rest), offset + 1⟩ : Cursor).expect ['/'] =
      .ok ⟨name ++ '>' :: rest, offset + 2⟩ := expect_append ['/'] _ (offset + 1)
  have named := expectWord_append word ('>' :: rest) (offset + 2) .tagNameExpected
    (by simp [isNameChar])
  have noBlank : (⟨'>' :: rest, offset + 2 + name.length⟩ : Cursor).skipBlanks =
      ⟨'>' :: rest, offset + 2 + name.length⟩ := skipBlanks_of_head (by simp [isTagBlank])
  have ends : (⟨'>' :: rest, offset + 2 + name.length⟩ : Cursor).expect ['>'] =
      .ok ⟨rest, offset + 2 + name.length + 1⟩ := expect_append ['>'] rest _
  have length : offset + (writtenClose name).length = offset + 2 + name.length + 1 := by
    simp [writtenClose]
    omega
  simp only [closeTag, shape, length, bracket, slash, named, noBlank, ends, bind, Except.bind,
    pure, Except.pure]

/-! ## Tokens -/

/-- The name of a tag that is read wherever it stands: a word that begins with a letter. -/
def IsTagName (name : Text) : Prop := IsWord name ∧ ∀ c ∈ name.head?, isTagStart c = true

instance (name : Text) : Decidable (IsTagName name) :=
  decidable_of_iff (IsWord name ∧ name.head?.all isTagStart = true)
    (by rw [IsTagName, Option.all_eq_true]; rfl)

/-- The modes that read tags are those outside listings and inline code. -/
theorem ne_of_tags {mode : Mode} (tags : mode = .normal ∨ mode = .image) :
    mode ≠ .code ∧ mode ≠ .inlineCode := by
  rcases tags with rfl | rfl <;> decide

/-- Outside listings and inline code, an angle bracket is not read as text. -/
theorem next_at_bracket {mode : Mode} (code : mode ≠ .code) (inline : mode ≠ .inlineCode)
    (backticks : Bool) (rest : Text) (offset : Nat) :
    (⟨'<' :: rest, offset⟩ : Cursor).next mode backticks =
      (nextAtBracket ⟨'<' :: rest, offset⟩).map some := by
  simp [next, code, inline]

theorem next_writtenTag {mode : Mode} (code : mode ≠ .code) (inline : mode ≠ .inlineCode)
    (backticks : Bool) {name : Text} {pairs : List (Text × Text)} (named : IsTagName name)
    (writable : ∀ pair ∈ pairs, Writable pair) (closes : Bool) (rest : Text) (offset : Nat) :
    (⟨writtenTag name pairs closes ++ rest, offset⟩ : Cursor).next mode backticks =
      .ok (some (⟨if closes then .selfCloseTag ⟨name, .ofList pairs, offset⟩
          else .openTag ⟨name, .ofList pairs, offset⟩, offset⟩,
        ⟨rest, offset + (writtenTag name pairs closes).length⟩)) := by
  obtain ⟨word, starts⟩ := named
  have read := openTag_written word writable closes rest offset
  obtain ⟨c, letters, rfl⟩ := List.exists_cons_of_ne_nil word.1
  have letter : isTagStart c = true := starts c rfl
  have noMark : c ≠ '!' ∧ c ≠ '/' := by
    constructor <;> rintro rfl <;> simp [isTagStart] at letter
  have shape : writtenTag (c :: letters) pairs closes ++ rest = '<' :: c ::
      (letters ++ (pairs.flatMap Attributes.renderEntry ++ (tagEnd closes ++ rest))) := by
    simp [writtenTag]
  rw [shape] at read ⊢
  rw [next_at_bracket code inline]
  simp [nextAtBracket, noMark, letter, read, Except.map]

theorem next_writtenClose {mode : Mode} (code : mode ≠ .code) (inline : mode ≠ .inlineCode)
    (backticks : Bool) {name : Text} (word : IsWord name) (rest : Text) (offset : Nat) :
    (⟨writtenClose name ++ rest, offset⟩ : Cursor).next mode backticks =
      .ok (some (⟨.closeTag name, offset⟩,
        ⟨rest, offset + (writtenClose name).length⟩)) := by
  have read := closeTag_written word rest offset
  have shape : writtenClose name ++ rest = '<' :: '/' :: (name ++ '>' :: rest) := by
    simp [writtenClose]
  rw [shape] at read ⊢
  rw [next_at_bracket code inline]
  simp [nextAtBracket, read, Except.map]

/-- One character of text, with a bracket or the end of the source behind it. -/
theorem next_writtenChar {mode : Mode} (code : mode ≠ .code) (inline : mode ≠ .inlineCode)
    {c : Char} (plain : endsText c = false) {rest : Text}
    (behind : rest.head?.all (· = '<') = true) (offset : Nat) :
    (⟨c :: rest, offset⟩ : Cursor).next mode false =
      .ok (some (⟨.text [c], offset⟩, ⟨rest, offset + 1⟩)) := by
  have read : Text.run endsText false (c :: rest) = ([c], rest) := by
    rw [Text.run_of_plain plain (Bool.and_false _)]
    cases rest with
    | nil => rfl
    | cons d rest =>
        obtain rfl : d = '<' := by simpa using behind
        rw [Text.run_of_stops (by decide)]
  simp only [endsText, Bool.or_eq_false_iff, decide_eq_false_iff_not] at plain
  simp [next, nextText, read, runValue, code, inline, plain]

end PageMarkup.Cursor
