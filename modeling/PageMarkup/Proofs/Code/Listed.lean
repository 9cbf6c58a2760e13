import PageMarkup.Code.Listing

/-! # Listed code

The body of a listing is read back from left to right. Its reader knows spans, line breaks, fixed
spaces and entities; any other character stands for itself, but an angle bracket or an ampersand
cannot stand alone. What is read is the tidied code. -/

namespace PageMarkup.Listing

/-- What a reader of a listing meets. -/
inductive Mark
  /-- The beginning of a span, with what tells its class. -/
  | spanStart (label : Text)
  | spanEnd
  | lineBreak
  | fixedSpace
  /-- A character, written as itself or as an entity. -/
  | char (c : Char)
deriving DecidableEq

namespace Mark

/-- What a mark stands for in the code. -/
def meaning : Mark → Text
  | .spanStart _ | .spanEnd => []
  | .lineBreak => ['\n']
  | .fixedSpace => [' ']
  | .char c => [c]

/-- The mark begins or ends a span. -/
def isSpan : Mark → Bool
  | .spanStart _ | .spanEnd => true
  | _ => false

/-- The mark is a tag, in angle brackets. -/
def isTag : Mark → Bool
  | .spanStart _ | .spanEnd | .lineBreak => true
  | _ => false

/-! ## Reading -/

/-- What stands before the class of a span. -/
def spanLead : Text := "<span class=\"bhsh_".toList

/-- What stands after the class of a span. -/
def spanTail : Text := "\">".toList

/-- The end of a span. -/
def spanClose : Text := "</span>".toList

/-- The marks that are always written alike. -/
def fixed : List (Text × Mark) :=
  [(spanClose, .spanEnd), ("<br/>\n".toList, .lineBreak), ("&nbsp;".toList, .fixedSpace),
    ("&amp;".toList, .char '&'), ("&lt;".toList, .char '<'), ("&gt;".toList, .char '>'),
    ("&quot;".toList, .char '"'), ("&#x27;".toList, .char '\'')]

/-- The beginning of a span, whose class goes on to the next quotation mark. -/
def spanStart? (text : Text) : Option (Mark × Text) :=
  (Text.after? spanLead text).bind fun named =>
    (Text.after? spanTail (named.dropWhile (· ≠ '"'))).map fun rest =>
      (.spanStart (named.takeWhile (· ≠ '"')), rest)

/-- The first mark of a text, and the rest. -/
def next? : Text → Option (Mark × Text)
  | [] => none
  | c :: text =>
    if c = '<' || c = '&' then
      (fixed.findSome? fun entry => (Text.after? entry.1 (c :: text)).map (entry.2, ·)).or
        (spanStart? (c :: text))
    else some (.char c, text)

theorem eq_append_of_spanStart? {text rest : Text} {mark : Mark}
    (h : spanStart? text = some (mark, rest)) : ∃ read, read ≠ [] ∧ text = read ++ rest := by
  obtain ⟨named, begins, h⟩ := Option.bind_eq_some_iff.mp h
  obtain ⟨after, ends, same⟩ := Option.map_eq_some_iff.mp h
  obtain rfl : after = rest := congrArg Prod.snd same
  have nonempty : spanLead ≠ [] := by decide
  refine ⟨spanLead ++ named.takeWhile (· ≠ '"') ++ spanTail, by simp [nonempty], ?_⟩
  rw [Text.after?_eq_some_iff] at begins ends
  rw [begins, List.append_assoc, List.append_assoc, ← ends, List.takeWhile_append_dropWhile]

/-- No mark is written as nothing. -/
theorem eq_append_of_next? {text rest : Text} {mark : Mark} (h : next? text = some (mark, rest)) :
    ∃ read, read ≠ [] ∧ text = read ++ rest := by
  unfold next? at h
  split at h
  · cases h
  next c text =>
  split at h
  · rcases Option.or_eq_some_iff.mp h with found | ⟨-, found⟩
    · obtain ⟨⟨written, meant⟩, listed, found⟩ := List.exists_of_findSome?_eq_some found
      obtain ⟨after, begins, same⟩ := Option.map_eq_some_iff.mp found
      obtain rfl : after = rest := congrArg Prod.snd same
      have nonempty : ∀ entry ∈ fixed, entry.1 ≠ [] := by decide
      exact ⟨written, nonempty _ listed, Text.after?_eq_some_iff.mp begins⟩
    · exact eq_append_of_spanStart? found
  · cases h
    exact ⟨[c], by simp, rfl⟩

theorem length_next? {text rest : Text} {mark : Mark} (h : next? text = some (mark, rest)) :
    rest.length < text.length := by
  obtain ⟨read, nonempty, rfl⟩ := eq_append_of_next? h
  have := List.length_pos_iff.mpr nonempty
  rw [List.length_append]
  omega

/-- All marks of a text, if it can be read to its end. -/
def read? (text : Text) : Option (List Mark) :=
  match text with
  | [] => some []
  | c :: text =>
    match _found : next? (c :: text) with
    | none => none
    | some (mark, rest) => (read? rest).map (mark :: ·)
termination_by text.length
decreasing_by exact length_next? _found

/-- Spans do not nest, and each of them is closed. -/
inductive Flat : List Mark → Prop
  | nil : Flat []
  | glyph {mark marks} (glyph : mark.isSpan = false) (later : Flat marks) : Flat (mark :: marks)
  | span {label inside marks} (glyphs : ∀ mark ∈ inside, mark.isSpan = false)
      (later : Flat marks) : Flat (.spanStart label :: (inside ++ .spanEnd :: marks))

/-! ## Writing -/

/-- How a mark is written. -/
def write : Mark → Text
  | .spanStart label => spanLead ++ label ++ spanTail
  | .spanEnd => spanClose
  | .lineBreak => Listing.lineBreak
  | .fixedSpace => Listing.fixedSpace
  | .char c => Text.escapeChar c

/-- The mark is read as it is written. -/
def Legible : Mark → Prop
  | .spanStart label => '"' ∉ label ∧ '<' ∉ label
  | _ => True

theorem spanStart?_write {label : Text} (legible : '"' ∉ label) (rest : Text) :
    spanStart? ((spanStart label).write ++ rest) = some (.spanStart label, rest) := by
  have begins : Text.after? spanLead ((spanStart label).write ++ rest) =
      some (label ++ '"' :: '>' :: rest) := by
    rw [Text.after?_eq_some_iff, write, List.append_assoc, List.append_assoc]
    rfl
  have belong : ∀ c ∈ label, decide (c ≠ '"') = true := by
    intro c mem
    have other : c ≠ '"' := fun same => legible (same ▸ mem)
    simpa using other
  have ends : Text.after? spanTail ('"' :: '>' :: rest) = some rest :=
    Text.after?_eq_some_iff.mpr rfl
  rw [spanStart?, begins, Option.bind_some, List.dropWhile_append_of_pos belong,
    List.takeWhile_append_of_pos belong, List.dropWhile_cons_of_neg (by simp), ends,
    List.takeWhile_cons_of_neg (by simp), List.append_nil]
  rfl

/-- Every character is an entity or written as itself. -/
theorem escapeChar_cases (c : Char) :
    (c = '&' ∨ c = '<' ∨ c = '>' ∨ c = '"' ∨ c = '\'') ∨
      Text.escapeChar c = [c] ∧ c ≠ '&' ∧ c ≠ '<' := by
  unfold Text.escapeChar
  split
  · simp
  · simp
  · simp
  · simp
  · simp
  · next amp less _ _ _ => exact .inr ⟨rfl, amp, less⟩

theorem next?_write {mark : Mark} (legible : mark.Legible) (rest : Text) :
    next? (mark.write ++ rest) = some (mark, rest) := by
  cases mark with
  | spanStart label =>
      have unfixed : next? ((spanStart label).write ++ rest) =
        spanStart? ((spanStart label).write ++ rest) := rfl
      rw [unfixed, spanStart?_write legible.1]
  | spanEnd => rfl
  | lineBreak => rfl
  | fixedSpace => rfl
  | char c =>
      rcases escapeChar_cases c with (rfl | rfl | rfl | rfl | rfl) | ⟨same, amp, less⟩
      · rfl
      · rfl
      · rfl
      · rfl
      · rfl
      · rw [write, same, List.singleton_append, next?, if_neg (by simp [amp, less])]

theorem read?_of_next? {text rest : Text} {mark : Mark} (h : next? text = some (mark, rest)) :
    read? text = (read? rest).map (mark :: ·) := by
  cases text with
  | nil => cases h
  | cons c text =>
      rw [read?]
      split
      · next none => simp [h] at none
      · next found =>
          rw [h] at found
          cases found
          rfl

theorem read?_write {marks : List Mark} (legible : ∀ mark ∈ marks, mark.Legible) :
    read? (marks.flatMap write) = some marks := by
  induction marks with
  | nil => rw [List.flatMap_nil, read?]
  | cons mark marks ih =>
      rw [List.forall_mem_cons] at legible
      rw [List.flatMap_cons, read?_of_next? (next?_write legible.1 _), ih legible.2]
      rfl

/-- Each tag has one angle bracket to begin with, and nothing else has any. -/
theorem count_write {mark : Mark} (legible : mark.Legible) :
    mark.write.count '<' = if mark.isTag then 1 else 0 := by
  cases mark with
  | spanStart label =>
      rw [write, List.count_append, List.count_append, List.count_eq_zero.mpr legible.2]
      rfl
  | spanEnd => rfl
  | lineBreak => rfl
  | fixedSpace => rfl
  | char c =>
      rcases escapeChar_cases c with (rfl | rfl | rfl | rfl | rfl) | ⟨same, -, less⟩
      · rfl
      · rfl
      · rfl
      · rfl
      · rfl
      · rw [write, same, List.count_singleton, if_neg (by simpa using less)]
        rfl

theorem count_flatMap_write {marks : List Mark} (legible : ∀ mark ∈ marks, mark.Legible) :
    (marks.flatMap write).count '<' = marks.countP isTag := by
  induction marks with
  | nil => rfl
  | cons mark marks ih =>
      rw [List.forall_mem_cons] at legible
      rw [List.flatMap_cons, List.count_append, count_write legible.1, ih legible.2,
        List.countP_cons, Nat.add_comm]

namespace Flat

variable {marks more : List Mark}

theorem of_glyphs (glyphs : ∀ mark ∈ marks, mark.isSpan = false) : Flat marks := by
  induction marks with
  | nil => exact .nil
  | cons mark marks ih =>
      rw [List.forall_mem_cons] at glyphs
      exact .glyph glyphs.1 (ih glyphs.2)

theorem append (first : Flat marks) (later : Flat more) : Flat (marks ++ more) := by
  induction first with
  | nil => exact later
  | glyph glyph _ ih => exact .glyph glyph ih
  | @span label inside _ glyphs _ ih =>
      rw [List.cons_append, List.append_assoc, List.cons_append]
      exact .span glyphs ih

end Flat

end Mark

/-! ## Lexemes on the page -/

open Mark

/-- Marks that are flat and legible stand for a code. -/
structure Stands (marks : List Mark) (code : Text) : Prop where
  flat : Flat marks
  legible : ∀ mark ∈ marks, mark.Legible
  meaning : marks.flatMap Mark.meaning = code

theorem Stands.append {marks more : List Mark} {code rest : Text} (first : Stands marks code)
    (later : Stands more rest) : Stands (marks ++ more) (code ++ rest) where
  flat := first.flat.append later.flat
  legible := List.forall_mem_append.mpr ⟨first.legible, later.legible⟩
  meaning := by rw [List.flatMap_append, first.meaning, later.meaning]

/-- A way to write each character by one mark that belongs to no span. -/
def Spells (glyph : Char → Mark) : Prop :=
  ∀ c, (glyph c).isSpan = false ∧ (glyph c).Legible ∧ (glyph c).meaning = [c]

/-- A character in a string or a comment, where blanks are kept. -/
def keptChar (c : Char) : Mark :=
  if c = ' ' then .fixedSpace else if c = '\n' then .lineBreak else .char c

theorem spells_char : Spells .char := fun _ => ⟨rfl, trivial, rfl⟩

theorem spells_keptChar : Spells keptChar := by
  intro c
  rw [keptChar]
  split
  · next space => exact ⟨rfl, trivial, by rw [space]; rfl⟩
  split
  · next newline => exact ⟨rfl, trivial, by rw [newline]; rfl⟩
  · exact ⟨rfl, trivial, rfl⟩

theorem Spells.stands {glyph : Char → Mark} (spells : Spells glyph) (text : Text) :
    Stands (text.map glyph) text where
  flat := .of_glyphs (List.forall_mem_map.mpr fun c _ => (spells c).1)
  legible := List.forall_mem_map.mpr fun c _ => (spells c).2.1
  meaning := by simp [List.flatMap_map, (spells _).2.2]

theorem legible_label (colour : Colour) : (spanStart colour.label).Legible := by
  cases colour <;> exact ⟨by decide, by decide⟩

theorem Spells.stands_span {glyph : Char → Mark} (spells : Spells glyph) (colour : Colour)
    (text : Text) : Stands (.spanStart colour.label :: (text.map glyph ++ [.spanEnd])) text where
  flat := .span (List.forall_mem_map.mpr fun c _ => (spells c).1) .nil
  legible := List.forall_mem_cons.mpr ⟨legible_label colour, List.forall_mem_append.mpr
    ⟨(spells.stands text).legible, List.forall_mem_singleton.mpr trivial⟩⟩
  meaning := by simp [Mark.meaning, (spells.stands text).meaning]

theorem escape_eq (text : Text) : Text.escape text = (text.map Mark.char).flatMap write := by
  rw [Text.escape, List.flatMap_map]
  rfl

theorem keepBlanks_escape (text : Text) :
    keepBlanks (Text.escape text) = (text.map keptChar).flatMap write := by
  rw [keepBlanks, Text.escape, List.flatMap_assoc, List.flatMap_map]
  refine congrArg (text.flatMap ·) (funext fun c => ?_)
  rcases escapeChar_cases c with (rfl | rfl | rfl | rfl | rfl) | ⟨same, -, -⟩
  · rfl
  · rfl
  · rfl
  · rfl
  · rfl
  · rw [same, List.flatMap_singleton, keptChar]
    split
    · rfl
    split
    · rfl
    · exact same.symm

theorem span_eq (colour : Colour) (marks : List Mark) :
    span colour (marks.flatMap write) =
      (.spanStart colour.label :: (marks ++ [.spanEnd])).flatMap write := by
  rw [List.flatMap_cons, List.flatMap_append, List.flatMap_singleton, ← List.append_assoc]
  rfl

/-- How a text is shown in a colour or without one: its characters in order, in one span that has
the class of the colour, or in none. -/
inductive Coloured : Option Colour → Text → List Mark → Prop
  | plain {glyph} (spells : Spells glyph) (text : Text) : Coloured none text (text.map glyph)
  | span {glyph} (spells : Spells glyph) (colour : Colour) (text : Text) :
      Coloured (some colour) text (.spanStart colour.label :: (text.map glyph ++ [.spanEnd]))

theorem Coloured.stands {colour : Option Colour} {text : Text} {marks : List Mark}
    (coloured : Coloured colour text marks) : Stands marks text := by
  cases coloured with
  | plain spells => exact spells.stands text
  | span spells colour => exact spells.stands_span colour text

/-- Each lexeme is shown in its colour. -/
theorem exists_marks_renderLexeme (listing : Listing) (lexeme : Text) :
    ∃ marks, listing.renderLexeme lexeme = marks.flatMap write ∧
      Coloured (listing.language.colour? listing.classes lexeme) lexeme marks := by
  have spanned {glyph : Char → Mark} (spells : Spells glyph) (colour : Colour) :
      ∃ marks, span colour ((lexeme.map glyph).flatMap write) = marks.flatMap write ∧
        Coloured (some colour) lexeme marks :=
    ⟨_, span_eq colour _, .span spells colour lexeme⟩
  unfold renderLexeme
  split
  · next colour =>
      rw [keepBlanks_escape, colour]
      exact spanned spells_keptChar _
  · next colour =>
      rw [keepBlanks_escape, colour]
      exact spanned spells_keptChar _
  · next colour =>
      rw [escape_eq, colour]
      exact spanned spells_char _
  · next colour =>
      rw [colour]
      split
      · next blank =>
          have bare : Text.escape lexeme = lexeme := by
            simp only [Bool.or_eq_true, decide_eq_true_eq] at blank
            rcases blank with rfl | rfl <;> rfl
          refine ⟨lexeme.map keptChar, ?_, .plain spells_keptChar lexeme⟩
          rw [← keepBlanks_escape, bare]
      · exact ⟨lexeme.map .char, escape_eq lexeme, .plain spells_char lexeme⟩

/-- The body of a listing is made of its lexemes, each in its colour. -/
theorem exists_shown_body (listing : Listing) (code : Text) : ∃ shown : Lexeme → List Mark,
    listing.body code = ((Lexeme.lexemes listing.language.lexicon
        (Code.tidy listing.tabSize code)).flatMap shown).flatMap write ∧
      ∀ lexeme, Coloured (listing.language.colour? listing.classes lexeme.text) lexeme.text
        (shown lexeme) := by
  obtain ⟨shown, shows⟩ := Classical.axiomOfChoice fun lexeme : Lexeme =>
    listing.exists_marks_renderLexeme lexeme.text
  refine ⟨shown, ?_, fun lexeme => (shows lexeme).2⟩
  rw [body, List.flatMap_assoc, funext fun lexeme => (shows lexeme).1]

theorem stands_flatMap {shown : Lexeme → List Mark}
    (each : ∀ lexeme, Stands (shown lexeme) lexeme.text) (found : List Lexeme) :
    Stands (found.flatMap shown) (found.map Lexeme.text).flatten := by
  induction found with
  | nil => exact ⟨.nil, by simp, rfl⟩
  | cons lexeme found ih =>
      rw [List.flatMap_cons]
      exact (each lexeme).append ih

/-- The body of a listing is made of marks that stand for the tidied code. -/
theorem exists_marks_body (listing : Listing) (code : Text) :
    ∃ marks, listing.body code = marks.flatMap write ∧
      Stands marks (Code.tidy listing.tabSize code) := by
  obtain ⟨shown, body, coloured⟩ := listing.exists_shown_body code
  have stands := stands_flatMap (fun lexeme => (coloured lexeme).stands)
    (Lexeme.lexemes listing.language.lexicon (Code.tidy listing.tabSize code))
  rw [Lexeme.lexemes_flatten] at stands
  exact ⟨_, body, stands⟩

/-- Unless the tabs of a listing are too wide, its body is read back, in one way, as marks that
stand for the tidied code: spans are flat, and each angle bracket belongs to a tag that is read. -/
theorem listing_reads_back (listing : Listing) (code : Text) :
    (Text.isLength listing.tabSize = true → ∃ body marks text,
      listing.lay code =
        .ok ("<div class=\"bhsh_code\">\n".toList ++ body ++ "\n</div>\n".toList) ∧
      listing.tidied code = .ok text ∧
      Mark.read? body = some marks ∧ Flat marks ∧ marks.flatMap Mark.meaning = text ∧
      body.count '<' = marks.countP isTag) ∧
    (Text.isLength listing.tabSize = false →
      listing.lay code = .error (.tabTooWide listing.tabSize)) := by
  constructor
  · intro fits
    obtain ⟨marks, shown, stands⟩ := listing.exists_marks_body code
    refine ⟨listing.body code, marks, Code.tidy listing.tabSize code, ?_, ?_, ?_, stands.flat,
      stands.meaning, ?_⟩
    · rw [lay, if_pos fits]
      rfl
    · rw [tidied, if_pos fits]
    · rw [shown, read?_write stands.legible]
    · rw [shown, count_flatMap_write stands.legible]
  · intro wide
    rw [lay, if_neg (by simp [wide])]

/-- A tab is read back as the spaces that it stands for, and a keyword and a bracket as they are. -/
theorem tabs_keyword_and_bracket_are_read_back :
    ∃ listing body marks,
      Listing.of? "python".toList (some 2) [] = some listing ∧
      listing.lay "\tif a < b \n".toList =
        .ok ("<div class=\"bhsh_code\">\n".toList ++ body ++ "\n</div>\n".toList) ∧
      Mark.read? body = some marks ∧ Flat marks ∧
      marks.flatMap Mark.meaning = "  if a < b".toList := by
  have named : Listing.of? "python".toList (some 2) [] = some ⟨.python, 2, []⟩ := rfl
  have tidied : (⟨.python, 2, []⟩ : Listing).tidied "\tif a < b \n".toList =
      .ok "  if a < b".toList := rfl
  obtain ⟨body, marks, text, laid, same, read, flat, meaning, -⟩ :=
    (listing_reads_back ⟨.python, 2, []⟩ "\tif a < b \n".toList).1 rfl
  obtain rfl : "  if a < b".toList = text := Except.ok.inj (tidied.symm.trans same)
  exact ⟨_, body, marks, named, laid, read, flat, meaning⟩

end PageMarkup.Listing
