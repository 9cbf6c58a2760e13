import PageMarkup.Tag

/-! Tokens: the pieces in which a source is read. Which pieces there are depends on the mode,
and the mode on the tags that are open. -/

namespace PageMarkup

/-- How the text at hand is read. -/
inductive Mode
  /-- Tags, pipes, line ends and text. -/
  | normal
  /-- Everything up to the closing tag of the listing is code. -/
  | code
  /-- Text is part of the address of an image. -/
  | image
  /-- Everything up to a backtick is inline code. -/
  | inlineCode
deriving DecidableEq, Repr

/-- The kind of a token, without what it carries. -/
inductive Token.Kind
  | text
  | newline
  | pipe
  | openTag
  | closeTag
  | selfCloseTag
  | backtick
deriving DecidableEq, Repr

/-- What a token is, with the text, tag or name that it carries. -/
inductive Token.Form
  | text (value : Text)
  | newline
  | pipe
  | openTag (tag : Tag)
  | closeTag (name : Text)
  | selfCloseTag (tag : Tag)
  | backtick
deriving DecidableEq

/-- The kind of a form. -/
def Token.Form.kind : Token.Form → Token.Kind
  | .text _ => .text
  | .newline => .newline
  | .pipe => .pipe
  | .openTag _ => .openTag
  | .closeTag _ => .closeTag
  | .selfCloseTag _ => .selfCloseTag
  | .backtick => .backtick

/-- A piece of the source and the offset at which it starts. -/
structure Token where
  form : Token.Form
  offset : Int
deriving DecidableEq

end PageMarkup
