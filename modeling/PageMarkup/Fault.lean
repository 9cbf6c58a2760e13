import PageMarkup.Text.Excerpt
import PageMarkup.Token

/-! What can be wrong with a page. A fault is a cause with the offset at which it shows; a
report joins a cause with as much as is known about its place. -/

namespace PageMarkup

/-- Why a page cannot be compiled. -/
inductive Cause
  /-- No listing can be coloured in this language. -/
  | unsupportedLanguage (language : Text)
  /-- A closing tag does not belong to the innermost open tag; `expected` is empty if none is. -/
  | mismatchedClose (expected found : Text)
  /-- The table of contents is asked for twice. -/
  | repeatedContents
  /-- A comment in the manner of HTML. -/
  | rawComment
  /-- A closing tag without a name. -/
  | tagNameExpected
  /-- Something else than an attribute inside a tag. -/
  | attributeNameExpected
  /-- A quoted value without its closing quote. -/
  | unclosedQuote
  /-- Something else than the one text that may follow. -/
  | literalExpected (literal : Text)
  /-- Inline code that goes on over the end of a line. -/
  | newlineInInlineCode
  /-- Captured text outside all tags. -/
  | noOpenTag
  /-- A tag still open at the end. -/
  | unclosedTag (name : Text)
  /-- A token of a kind that has no meaning. -/
  | unexpectedToken (kind : Token.Kind)
  /-- Anything else, in words. -/
  | other (words : Text)
  /-- A tab stands for a number of spaces that is too large to be the length of a text. -/
  | tabTooWide (width : Int)
  /-- There is no mode in which a token could be read or handled. -/
  | noMode
  /-- There is no mode to go back from. -/
  | noModeToLeave
deriving DecidableEq

/-- The source is to blame, so that a report can point at the place. The other causes lie in the
settings or in how a document was put together by hand. -/
def Cause.inSource : Cause → Bool
  | .tabTooWide _ | .noMode | .noModeToLeave => false
  | _ => true

/-- The name of a kind of token in messages. -/
def Token.Kind.label : Token.Kind → Text
  | .text => "TEXT".toList
  | .newline => "NEWLINE".toList
  | .pipe => "PIPE".toList
  | .openTag => "OPEN_TAG".toList
  | .closeTag => "CLOSE_TAG".toList
  | .selfCloseTag => "SELF_CLOSE_TAG".toList
  | .backtick => "BACKTICK".toList

/-- The wording of a cause. -/
def Cause.message : Cause → Text
  | .unsupportedLanguage language =>
    language ++ " is not currently supported by the syntax highlighter.".toList
  | .mismatchedClose _ found =>
    "</".toList ++ found ++ "> occurred without a corresponding open tag.".toList
  | .repeatedContents => "Cannot have <tableofcontents> tag multiple times.".toList
  | .rawComment =>
    "HTML++ does not support <!-- comments. Just use <comment>...</comment> or ".toList ++
      "<tag comment=\"...\"> instead.".toList
  | .tagNameExpected => "Expected tag name.".toList
  | .attributeNameExpected => "Expected attribute name.".toList
  | .unclosedQuote => "Unclosed string in attribute value.".toList
  | .literalExpected literal => "Expected: '".toList ++ literal ++ ['\'']
  | .newlineInInlineCode => "Cannot have newline in inline code.".toList
  | .noOpenTag => "No open tag to receive content.".toList
  | .unclosedTag name => '<' :: name ++ "> was never closed.".toList
  | .unexpectedToken kind => "Unknown token type: 'TokenKind.".toList ++ kind.label ++ ['\'']
  | .other words => words
  | .tabTooWide _ => "cannot fit 'int' into an index-sized integer".toList
  | .noMode => "list index out of range".toList
  | .noModeToLeave => "pop from empty list".toList

/-- A cause and the offset in the source at which it shows. -/
structure Fault where
  cause : Cause
  offset : Int
deriving DecidableEq

/-- A cause with what is known about its place. -/
structure Report where
  cause : Cause
  source? : Option Text := none
  offset? : Option Int := none
deriving DecidableEq

/-- The report of a fault met in compiling `source`. A cause that lies elsewhere has no place
there. -/
def Fault.report (fault : Fault) (source : Text) : Report :=
  if fault.cause.inSource then
    { cause := fault.cause, source? := some source, offset? := some fault.offset }
  else { cause := fault.cause }

namespace Report

/-- How many characters a report shows on each side of the place unless told otherwise. -/
def defaultRadius : Int := 30

/-- The excerpt around the place, when source and offset are known. -/
def excerpt? (report : Report) (radius : Int) : Option Text :=
  match report.source?, report.offset? with
  | some source, some offset => some (Text.excerpt source offset radius)
  | _, _ => none

/-- The message, followed by an excerpt when there is one. -/
def format (report : Report) (radius : Int) : Text :=
  report.cause.message ++ match report.excerpt? radius with
    | none => []
    | some excerpt => "\nThe problem occurred somewhere around: '".toList ++ excerpt ++ ['\'']

end Report

end PageMarkup
