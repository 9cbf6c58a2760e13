import PageMarkup.Proofs.Code.Lexemes
import PageMarkup.Proofs.Code.Listed

/-! # Colours of code

The lexer forgets by which rule it cut a lexeme, and a listing finds the colour again from the text
alone. Both tell the same of every lexeme that the lexer can cut, provided that the texts with which
strings, comments and words of the language begin are apart. -/

namespace PageMarkup

/-- The colour of what was cut by one rule. -/
def Lexeme.Kind.colour? : Lexeme.Kind → Option Colour
  | .lineComment | .blockComment => some .comment
  | .string => some .string
  | .number => some .number
  | .blank | .word | .symbol => none

/-- No rule gives a colour that words of a language have. -/
theorem Lexeme.Kind.colour?_notMem {kind : Lexeme.Kind} {colour : Colour}
    (coloured : kind.colour? = some colour) : colour ∉ [.keyword, .constant, .builtinClass] := by
  cases kind with
  | blank | word | symbol => cases coloured
  | number | string | lineComment | blockComment =>
      cases coloured
      decide

/-- Every marker begins comments, and strings begin with characters with which nothing else does
except comments. -/
structure Lexicon.Apart (lexicon : Lexicon) : Prop where
  markers : ∀ marker ∈ lexicon.markers, marker ∈ Lexeme.commentStarts
  delimiters : ∀ c, [c] ∈ lexicon.delimiters →
    Lexeme.isWordChar c = false ∧ c ∉ [' ', '\n', '.']

namespace Language

/-- The words that have a colour in the language. -/
def words (language : Language) : List Text :=
  language.classes ++ language.constants ++ language.keywords

/-- Literals are coloured and can be told by their first characters, and words of the language begin
as words do. -/
structure Apart (language : Language) : Prop where
  literals : language.literals = true
  lexicon : language.lexicon.Apart
  words : ∀ word ∈ language.words, word.head?.any Lexeme.isWordStart = true

theorem apart_python : python.Apart where
  literals := rfl
  lexicon := by
    refine ⟨by decide, fun c listed => ?_⟩
    have listed : [c] ∈ [['"'], ['\'']] := listed
    have listed : c = '"' ∨ c = '\'' := by simpa using listed
    rcases listed with rfl | rfl <;> decide
  words := by decide

section

open Lexeme

variable {language : Language} {lexeme : Lexeme} {c : Char} {run rest word : Text}

/-! ## Literals -/

theorem literalColour?_of_marker {marker : Text} (listed : marker ∈ language.lexicon.markers)
    (begins : marker <+: c :: run) : language.literalColour? (c :: run) = some .comment := by
  have found : language.lexicon.markers.any (Text.beginsWith · (c :: run)) = true :=
    List.any_eq_true.mpr ⟨marker, listed, Text.beginsWith_iff.mpr begins⟩
  rw [literalColour?, if_pos found]

theorem literalColour?_of_not_marker
    (other : ∀ marker ∈ language.lexicon.markers, ¬ marker <+: c :: run) :
    language.literalColour? (c :: run) =
      if [c] ∈ language.lexicon.delimiters then some .string
      else if c.isDigit || c = '.' && !run.isEmpty then some .number else none := by
  have none : ¬ language.lexicon.markers.any (Text.beginsWith · (c :: run)) = true := by
    intro found
    obtain ⟨marker, listed, begins⟩ := List.any_eq_true.mp found
    exact other marker listed (Text.beginsWith_iff.mp begins)
  rw [literalColour?, if_neg none]
  simp only [List.contains_iff_mem]

theorem literalColour?_of_unclaimed (apart : language.lexicon.Apart)
    (free : Unclaimed language.lexicon c run) : language.literalColour? (c :: run) =
      if [c] ∈ language.lexicon.delimiters then some .string
      else if c.isDigit || c = '.' && !run.isEmpty then some .number else none :=
  literalColour?_of_not_marker fun marker listed =>
    free.comment marker listed (apart.markers marker listed)

/-- Neither a comment nor a string begins with a character of a word, a blank or a period. -/
theorem literalColour?_of_plain (apart : language.lexicon.Apart)
    (plain : isWordChar c = true ∨ c ∈ [' ', '\n', '.']) : language.literalColour? (c :: run) =
      if c.isDigit || c = '.' && !run.isEmpty then some .number else none := by
  have unmarked : c ≠ '#' ∧ c ≠ '/' := by
    constructor
    · rintro rfl
      exact absurd plain (by decide)
    · rintro rfl
      exact absurd plain (by decide)
  rw [literalColour?_of_not_marker, if_neg]
  · intro delimits
    obtain ⟨outside, other⟩ := apart.delimiters c delimits
    rcases plain with inside | plain
    · simp [outside] at inside
    · exact other plain
  · intro marker listed begins
    have known := apart.markers marker listed
    simp only [commentStarts, List.mem_cons, List.not_mem_nil, or_false] at known
    rcases known with rfl | rfl | rfl
    · exact unmarked.1 (List.cons_prefix_cons.mp begins).1.symm
    · exact unmarked.2 (List.cons_prefix_cons.mp begins).1.symm
    · exact unmarked.2 (List.cons_prefix_cons.mp begins).1.symm

theorem isWordChar_of_isWordStart (starts : isWordStart c = true) : isWordChar c = true := by
  simp only [isWordStart, isWordChar, Char.isAlphanum, Bool.or_eq_true] at starts ⊢
  exact starts.imp_left .inl

/-- The first characters of a lexeme tell by which rule it was cut. -/
theorem literalColour?_eq (apart : language.lexicon.Apart)
    (rule : Rule language.lexicon lexeme rest) :
    language.literalColour? lexeme.text = lexeme.kind.colour? := by
  cases rule.alone with
  | blank blank =>
      rw [literalColour?_of_plain apart (.inr (by rcases blank with rfl | rfl <;> decide))]
      rcases blank with rfl | rfl <;> rfl
  | @word c run _ starts =>
      have noDigit : ¬ c.isDigit = true := fun digit => by
        simp [not_isWordStart_of_isDigit digit] at starts
      have noPeriod : c ≠ '.' := by
        rintro rfl
        exact absurd starts (by decide)
      rw [literalColour?_of_plain apart (.inl (isWordChar_of_isWordStart starts)),
        if_neg (by simp [noDigit, noPeriod])]
      rfl
  | @number c run _ starts =>
      rcases starts with digit | ⟨rfl, d, head, -⟩
      · rw [literalColour?_of_plain apart (.inl (by simp [isWordChar, Char.isAlphanum, digit])),
          if_pos (by simp [digit])]
        rfl
      · obtain ⟨more, rfl⟩ := List.head?_eq_some_iff.mp head
        rw [literalColour?_of_plain apart (.inr (by decide)), if_pos (by simp)]
        rfl
  | @lineComment marker run _ listed known =>
      rcases known with rfl | rfl
      · exact literalColour?_of_marker listed (List.prefix_append _ run)
      · exact literalColour?_of_marker listed (List.prefix_append _ run)
  | blockComment listed => exact literalColour?_of_marker listed (List.prefix_append _ _)
  | openBlockComment listed => exact literalColour?_of_marker listed (List.prefix_append _ _)
  | string listed free =>
      rw [literalColour?_of_unclaimed apart free, if_pos listed]
      rfl
  | openString listed free =>
      rw [literalColour?_of_unclaimed apart free, if_pos listed]
      rfl
  | openEscape listed free =>
      rw [literalColour?_of_unclaimed apart free, if_pos listed]
      rfl
  | @symbol c _ free unlisted =>
      have noDigit : ¬ c.isDigit = true := fun digit => free.number (.inl digit)
      rw [literalColour?_of_unclaimed apart free, if_neg unlisted, if_neg (by simpa using noDigit)]
      rfl

/-! ## Words -/

/-- Nothing but a word begins as a word does. -/
theorem kind_of_isWordStart {lexicon : Lexicon} (rule : Rule lexicon lexeme rest)
    (head : c ∈ lexeme.text.head?) (starts : isWordStart c = true) : lexeme.kind = .word := by
  have other {d : Char} (same : some d = some c) (not : isWordStart d = false) : False := by
    obtain rfl := Option.some.inj same
    simp [not] at starts
  cases rule with
  | word => rfl
  | blank blank => exact (other head (by rcases blank with rfl | rfl <;> decide)).elim
  | number number =>
      rcases number with digit | ⟨rfl, -⟩
      · exact (other head (not_isWordStart_of_isDigit digit)).elim
      · exact (other head (by decide)).elim
  | lineComment listed known =>
      rcases known with rfl | rfl
      · exact (other head (by decide)).elim
      · exact (other head (by decide)).elim
  | blockComment => exact (other (d := '/') head (by decide)).elim
  | openBlockComment => exact (other (d := '/') head (by decide)).elim
  | string listed free => exact (other head free.word).elim
  | openString listed free => exact (other head free.word).elim
  | openEscape listed free => exact (other head free.word).elim
  | symbol free => exact (other head free.word).elim

theorem wordColour?_eq_none_iff : language.wordColour? word = none ↔ word ∉ language.words := by
  simp only [wordColour?, words, List.contains_iff_mem, List.mem_append]
  split
  · simp [*]
  split
  · simp [*]
  split
  · simp [*]
  · simp [*]

/-! ## Lexemes -/

/-- A lexeme that is no word of the language and has not been named has the colour of its rule. -/
theorem colour?_of_not_word (apart : language.Apart) {named : List Text}
    (rule : Rule language.lexicon lexeme rest)
    (other : lexeme.text ∉ language.words ++ named) :
    language.colour? named lexeme.text = lexeme.kind.colour? := by
  rw [List.mem_append, not_or] at other
  have unnamed : ¬ (!lexeme.text.isEmpty && named.contains lexeme.text) = true := by
    simp [other.2]
  rw [colour?, wordColour?_eq_none_iff.mpr other.1, if_neg unnamed, if_pos apart.literals,
    literalColour?_eq apart.lexicon rule]

/-- Only words have the colours of the words of the language. -/
theorem kind_of_wordColour (apart : language.Apart) {named : List Text} {colour : Colour}
    (rule : Rule language.lexicon lexeme rest)
    (coloured : language.colour? named lexeme.text = some colour)
    (belongs : colour ∈ [.keyword, .constant, .builtinClass]) : lexeme.kind = .word := by
  by_cases listed : lexeme.text ∈ language.words
  · obtain ⟨c, head, starts⟩ := (Option.any_eq_true ..).mp (apart.words lexeme.text listed)
    exact kind_of_isWordStart rule head starts
  · exfalso
    rw [colour?, wordColour?_eq_none_iff.mpr listed, if_pos apart.literals,
      literalColour?_eq apart.lexicon rule] at coloured
    dsimp only at coloured
    split at coloured
    · cases coloured
      exact absurd belongs (by decide)
    · exact Kind.colour?_notMem coloured belongs

end

end Language

/-! ## Listings -/

namespace Listing

open Lexeme (lexemes)

/-- Code in Python is shown lexeme by lexeme. A lexeme that is neither a word of the language nor a
class named by the author is in a span for comments, strings or numbers if the lexer cut it as such,
and otherwise in none, and only words are in spans for keywords, constants and classes of the
language. -/
theorem colours_agree_with_lexer (tabSize : Int) (classes : List Text) (code : Text)
    (fits : Text.isLength tabSize = true) : ∃ body text, ∃ shown : Lexeme → List Mark,
      Listing.lay ⟨.python, tabSize, classes⟩ code =
        .ok ("<div class=\"bhsh_code\">\n".toList ++ body ++ "\n</div>\n".toList) ∧
      Listing.tidied ⟨.python, tabSize, classes⟩ code = .ok text ∧
      Mark.read? body = some ((lexemes Language.python.lexicon text).flatMap shown) ∧
      ∀ lexeme ∈ lexemes Language.python.lexicon text, ∃ colour,
        Coloured colour lexeme.text (shown lexeme) ∧
        (lexeme.text ∉ Language.python.words ++ classes → colour = lexeme.kind.colour?) ∧
        (∀ found ∈ colour, found ∈ [.keyword, .constant, .builtinClass] →
          lexeme.kind = .word) := by
  obtain ⟨shown, body, coloured⟩ := exists_shown_body ⟨.python, tabSize, classes⟩ code
  have legible :
      ∀ mark ∈ (lexemes Language.python.lexicon (Code.tidy tabSize code)).flatMap shown,
        mark.Legible := (stands_flatMap (fun lexeme => (coloured lexeme).stands) _).legible
  refine ⟨_, Code.tidy tabSize code, shown, if_pos fits, if_pos fits, ?_, ?_⟩
  · rw [body, Mark.read?_write legible]
  · intro lexeme mem
    obtain ⟨front, back, split⟩ := List.append_of_mem mem
    have rule := (split ▸ Lexeme.tiles_lexemes _ _).rule
    refine ⟨_, coloured lexeme, Language.colour?_of_not_word Language.apart_python rule, ?_⟩
    exact fun found => Language.kind_of_wordColour Language.apart_python rule

/-- A keyword in an open string has the colour of the string, and so has the rest of the string. -/
theorem keyword_in_open_string_has_colour_of_string : ∃ body inside marks,
    Listing.lay ⟨.python, 2, []⟩ "if 'if".toList =
      .ok ("<div class=\"bhsh_code\">\n".toList ++ body ++ "\n</div>\n".toList) ∧
    Mark.read? body = some (inside ++ marks) ∧ Coloured (some .string) "'if".toList marks := by
  obtain ⟨body, text, shown, laid, tidied, read, each⟩ :=
    colours_agree_with_lexer 2 [] "if 'if".toList (by decide)
  obtain rfl : "if 'if".toList = text := Except.ok.inj tidied
  have cut : lexemes Language.python.lexicon "if 'if".toList =
      [⟨.word, "if".toList⟩, ⟨.blank, [' ']⟩, ⟨.string, "'if".toList⟩] := by
    have lexicon : Language.python.lexicon = ⟨[['"'], ['\'']], [['#']]⟩ := rfl
    simp [lexicon, lexemes, Lexeme.cut, Lexeme.isWordStart, Lexeme.isWordChar, Lexeme.cutWhile,
      Lexeme.cutString]
  rw [cut] at read each
  obtain ⟨colour, coloured, same, -⟩ := each ⟨.string, "'if".toList⟩ (by simp)
  rw [same (by decide)] at coloured
  refine ⟨body, [⟨.word, "if".toList⟩, ⟨.blank, [' ']⟩].flatMap shown, _, laid, ?_,
    coloured⟩
  rw [read, ← List.flatMap_singleton shown, ← List.flatMap_append]
  rfl

end Listing

end PageMarkup
