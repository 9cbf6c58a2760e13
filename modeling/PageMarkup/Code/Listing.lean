import PageMarkup.Code.Language
import PageMarkup.Fault
import PageMarkup.Text.Escape

/-! Listings: code with its white space tidied and each coloured lexeme in a span. -/

namespace PageMarkup

namespace Code

/-- The lines without those before the first and after the last that is not empty. -/
def trimLines (lines : List Text) : List Text :=
  ((lines.dropWhile List.isEmpty).reverse.dropWhile List.isEmpty).reverse

/-- The code with `tabSize` spaces for each tab, none if the number is not positive. -/
def expandTabs (tabSize : Int) (code : Text) : Text :=
  code.flatMap fun c => if c = '\t' then List.replicate tabSize.toNat ' ' else [c]

/-- Code as it is listed: line ends unified, no blanks at the end of a line, no empty lines at
either end, and spaces for tabs. -/
def tidy (tabSize : Int) (code : Text) : Text :=
  let lines := (Text.splitOn '\n' (Text.unifyLineEnds code)).map Text.trimEnd
  expandTabs tabSize (Text.join ['\n'] (trimLines lines))

end Code

/-- The name of the class that gives a colour, without its prefix. -/
def Colour.label : Colour → Text
  | .keyword => "keyword".toList
  | .constant => "constant".toList
  | .builtinClass => "classname".toList
  | .namedClass => "class".toList
  | .string => "string".toList
  | .comment => "comment".toList
  | .number => "number".toList

/-- Code of a language with the widths and names that decide how it is listed. -/
structure Listing where
  language : Language
  /-- How many spaces a tab stands for. -/
  tabSize : Int
  /-- Classes named by the author. -/
  classes : List Text := []

namespace Listing

/-- A listing in the language called `name`, if there is one, with its own tabs unless others
are given. -/
def of? (name : Text) (tabSize? : Option Int) (classes : List Text) : Option Listing :=
  (Language.named? name).map fun language =>
    { language, tabSize := tabSize?.getD language.tabSize, classes }

/-- A space that keeps its width. -/
def fixedSpace : Text := "&nbsp;".toList

/-- The end of a line. -/
def lineBreak : Text := "<br/>\n".toList

/-- Spaces keep their width and lines end where they end in the code. -/
def keepBlanks (text : Text) : Text :=
  text.flatMap fun c => if c = ' ' then fixedSpace else if c = '\n' then lineBreak else [c]

/-- A span of one colour. -/
def span (colour : Colour) (body : Text) : Text :=
  "<span class=\"bhsh_".toList ++ colour.label ++ "\">".toList ++ body ++ "</span>".toList

/-- One lexeme on the page. Blanks are kept in strings and comments, and where a blank is a
lexeme of its own without a colour. -/
def renderLexeme (listing : Listing) (lexeme : Text) : Text :=
  match listing.language.colour? listing.classes lexeme with
  | some .string => span .string (keepBlanks (Text.escape lexeme))
  | some .comment => span .comment (keepBlanks (Text.escape lexeme))
  | some colour => span colour (Text.escape lexeme)
  | none =>
    if lexeme = [' '] || lexeme = ['\n'] then keepBlanks lexeme else Text.escape lexeme

/-- The lexemes of tidied code on the page. -/
def body (listing : Listing) (code : Text) : Text :=
  (Lexeme.lexemes listing.language.lexicon (Code.tidy listing.tabSize code)).flatMap
    fun lexeme => listing.renderLexeme lexeme.text

/-- The whole listing on the page. -/
def render (listing : Listing) (code : Text) : Text :=
  "<div class=\"bhsh_code\">\n".toList ++ listing.body code ++ "\n</div>\n".toList

/-- The whole listing on the page, unless the width of its tabs is no length. -/
def lay (listing : Listing) (code : Text) : Except Cause Text :=
  if Text.isLength listing.tabSize then .ok (listing.render code)
  else .error (.tabTooWide listing.tabSize)

/-- Code as it is listed, unless the width of the tabs is no length. The width is looked at whether
there is a tab or not. -/
def tidied (listing : Listing) (code : Text) : Except Cause Text :=
  if Text.isLength listing.tabSize then .ok (Code.tidy listing.tabSize code)
  else .error (.tabTooWide listing.tabSize)

end Listing

end PageMarkup
