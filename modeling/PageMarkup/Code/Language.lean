import PageMarkup.Code.Lexeme
import PageMarkup.Text.Blank

/-! The languages whose code can be coloured. -/

namespace PageMarkup

/-- The colour of a lexeme: the name of its class on the page. -/
inductive Colour
  | keyword
  | constant
  /-- A class that belongs to the language. -/
  | builtinClass
  /-- A class that the author of the page has named. -/
  | namedClass
  | string
  | comment
  | number
deriving DecidableEq, Repr

/-- What is known of a language. -/
structure Language where
  name : Text
  /-- How many spaces a tab stands for. -/
  tabSize : Int := 4
  lexicon : Lexicon := {}
  keywords : List Text := []
  constants : List Text := []
  classes : List Text := []
  /-- Strings, comments and numbers have colours. -/
  literals : Bool := true
deriving DecidableEq

namespace Language

/-- Code without a language: nothing is coloured on its own account. -/
def plain : Language := { name := "none".toList, literals := false }

/-- The Python language. -/
def python : Language where
  name := "python".toList
  tabSize := 2
  lexicon := { delimiters := [['"'], ['\'']], markers := [['#']] }
  keywords := ["as", "class", "def", "elif", "else", "except", "finally", "for", "from", "if",
    "import", "in", "lambda", "print", "raise", "return", "try", "while", "with"].map String.toList
  constants := ["False", "None", "self", "super", "True"].map String.toList
  classes := ["Exception".toList]

/-- Every language, by name in alphabetical order. -/
def all : List Language := [plain, python]

/-- Names are compared without the blanks around them and without regard to capitals. No letter
outside ASCII has a letter of these names as its small form. -/
def named? (name : Text) : Option Language :=
  let sought := Text.toLower (Text.trim name)
  all.find? fun language => language.name = sought

/-- The colour of a word of the language; a constant stays one even if it is a keyword too, and
a class of the language before both. -/
def wordColour? (language : Language) (word : Text) : Option Colour :=
  if language.classes.contains word then some .builtinClass
  else if language.constants.contains word then some .constant
  else if language.keywords.contains word then some .keyword
  else none

/-- The colour of a literal, told from its first characters. -/
def literalColour? (language : Language) : Text → Option Colour
  | [] => none
  | c :: lexeme =>
    if language.lexicon.markers.any (Text.beginsWith · (c :: lexeme)) then some .comment
    else if language.lexicon.delimiters.contains [c] then some .string
    else if c.isDigit || c = '.' && !lexeme.isEmpty then some .number
    else none

/-- The colour of a lexeme: that of a word of the language, else of a class named by the author,
else of a literal. -/
def colour? (language : Language) (named : List Text) (lexeme : Text) : Option Colour :=
  match language.wordColour? lexeme with
  | some colour => some colour
  | none =>
    if !lexeme.isEmpty && named.contains lexeme then some .namedClass
    else if language.literals then language.literalColour? lexeme
    else none

end Language

end PageMarkup
