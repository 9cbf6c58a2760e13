import PageMarkup.Text.Basic

/-! Lexemes: the pieces into which code is cut before it is coloured. No character is lost or
moved: `lexemes_flatten` says that the lexemes put together are the code. -/

namespace PageMarkup

/-- What a language counts as strings and comments. -/
structure Lexicon where
  /-- Strings run from one of these to the same one; only single characters can match. -/
  delimiters : List Text := []
  /-- Beginnings of comments; a number sign, two slashes and slash-star can match. -/
  markers : List Text := []
deriving DecidableEq

/-- The rule by which a lexeme was cut. -/
inductive Lexeme.Kind
  | blank
  | word
  | number
  | lineComment
  | blockComment
  | string
  | symbol
deriving DecidableEq, Repr

/-- A piece of code and the rule by which it was cut. -/
structure Lexeme where
  kind : Lexeme.Kind
  text : Text
deriving DecidableEq

namespace Lexeme

/-- Letters, digits and the underscore. -/
def isWordChar (c : Char) : Bool := c.isAlphanum || c = '_'

/-- Words begin with a letter or an underscore. -/
def isWordStart (c : Char) : Bool := c.isAlpha || c = '_'

/-- The first two characters of a block comment. -/
def blockStart : Text := "/*".toList

/-- The last two characters of a block comment. -/
def blockEnd : Text := "*/".toList

/-- The longest run of characters with a property, and the rest. -/
def cutWhile (p : Char → Bool) (code : Text) : Text × Text := (code.takeWhile p, code.dropWhile p)

/-- The longest run of word characters with at most one period among them, or with none if
`period` says that one has been seen already. -/
def cutNumber : (period : Bool) → Text → Text × Text
  | _, [] => ([], [])
  | period, c :: code =>
    if isWordChar c then (c :: (cutNumber period code).1, (cutNumber period code).2)
    else if c = '.' && !period then (c :: (cutNumber true code).1, (cutNumber true code).2)
    else ([], c :: code)

/-- The rest of a string through its delimiter or to the end of the code; after a backslash any
character counts as ordinary. -/
def cutString (delimiter : Char) : Text → Text × Text
  | [] => ([], [])
  | c :: code =>
    if c = delimiter then ([c], code)
    else if c = '\\' then
      match code with
      | [] => ([c], [])
      | d :: code => (c :: d :: (cutString delimiter code).1, (cutString delimiter code).2)
    else (c :: (cutString delimiter code).1, (cutString delimiter code).2)

/-- The text through the first end of a block comment, or all of it. -/
def cutBlock (code : Text) : Text × Text :=
  let (inside, rest) := Text.breakOn blockEnd code
  (inside ++ rest.take blockEnd.length, rest.drop blockEnd.length)

/-- The first lexeme of the code `c :: code`, and the code after it. -/
def cut (lexicon : Lexicon) (c : Char) (code : Text) : Lexeme × Text :=
  if c = ' ' || c = '\n' then (⟨.blank, [c]⟩, code)
  else if isWordStart c then
    (⟨.word, c :: (cutWhile isWordChar code).1⟩, (cutWhile isWordChar code).2)
  else if c.isDigit then (⟨.number, c :: (cutNumber false code).1⟩, (cutNumber false code).2)
  else if c = '.' && code.head?.any Char.isDigit then
    (⟨.number, c :: (cutNumber true code).1⟩, (cutNumber true code).2)
  else if c = '#' && lexicon.markers.contains ['#'] ||
      c = '/' && code.head? = some '/' && lexicon.markers.contains ['/', '/'] then
    (⟨.lineComment, c :: (cutWhile (· ≠ '\n') code).1⟩, (cutWhile (· ≠ '\n') code).2)
  else if c = '/' && code.head? = some '*' && lexicon.markers.contains blockStart then
    (⟨.blockComment, blockStart ++ (cutBlock (code.drop 1)).1⟩, (cutBlock (code.drop 1)).2)
  else if lexicon.delimiters.contains [c] then
    (⟨.string, c :: (cutString c code).1⟩, (cutString c code).2)
  else (⟨.symbol, [c]⟩, code)

theorem cutWhile_append (p : Char → Bool) (code : Text) :
    (cutWhile p code).1 ++ (cutWhile p code).2 = code := List.takeWhile_append_dropWhile

theorem cutNumber_append (period : Bool) (code : Text) :
    (cutNumber period code).1 ++ (cutNumber period code).2 = code := by
  fun_induction cutNumber period code <;> simp_all

theorem cutString_append (delimiter : Char) (code : Text) :
    (cutString delimiter code).1 ++ (cutString delimiter code).2 = code := by
  fun_induction cutString delimiter code <;> simp_all

theorem cutBlock_append (code : Text) : (cutBlock code).1 ++ (cutBlock code).2 = code := by
  simp [cutBlock, Text.breakOn_append]

/-- Cutting loses nothing. -/
theorem cut_append (lexicon : Lexicon) (c : Char) (code : Text) :
    (cut lexicon c code).1.text ++ (cut lexicon c code).2 = c :: code := by
  unfold cut
  repeat' split
  · simp
  · simp [cutWhile_append]
  · simp [cutNumber_append]
  · simp [cutNumber_append]
  · simp [cutWhile_append]
  · next block =>
      simp only [Bool.and_eq_true, decide_eq_true_eq] at block
      obtain ⟨⟨rfl, star⟩, -⟩ := block
      cases code with
      | nil => simp at star
      | cons d code =>
          cases (by simpa using star : d = '*')
          simp [blockStart, cutBlock_append]
  · simp [cutString_append]
  · simp

/-- No lexeme is empty. -/
theorem cut_ne_nil (lexicon : Lexicon) (c : Char) (code : Text) :
    (cut lexicon c code).1.text ≠ [] := by
  unfold cut
  repeat' split
  all_goals simp [blockStart]

theorem length_cut (lexicon : Lexicon) (c : Char) (code : Text) :
    (cut lexicon c code).2.length < (c :: code).length := by
  have whole := congrArg List.length (cut_append lexicon c code)
  have nonempty := List.length_pos_iff.mpr (cut_ne_nil lexicon c code)
  rw [List.length_append] at whole
  omega

/-- All lexemes of the code, in order. -/
def lexemes (lexicon : Lexicon) : Text → List Lexeme
  | [] => []
  | c :: code => (cut lexicon c code).1 :: lexemes lexicon (cut lexicon c code).2
termination_by code => code.length
decreasing_by exact length_cut lexicon c code

/-- The lexemes put together are the code. -/
theorem lexemes_flatten (lexicon : Lexicon) (code : Text) :
    ((lexemes lexicon code).map text).flatten = code := by
  fun_induction lexemes lexicon code with
  | case1 => rfl
  | case2 c code ih => rw [List.map_cons, List.flatten_cons, ih, cut_append]

end Lexeme

end PageMarkup
