import PageMarkup.Bookmark
import PageMarkup.Code.Listing
import PageMarkup.Fault
import PageMarkup.Notice
import PageMarkup.Settings
import PageMarkup.Sink

/-! A document in the making: the open elements, the modes they bring and the page so far.
`Document.handle` says what each token does to it. A token that cannot be handled leaves the
document as far as it came, and a `Halt` carries that document along with the fault. -/

namespace PageMarkup

/-- What a compilation is told beforehand. -/
structure Setup where
  settings : Settings := {}
  /-- The id of each bookmark, by the number of bookmarks before it. -/
  newId : Nat → Text := Text.ofNat

/-- A tag that is open. -/
structure OpenElement where
  /-- The tag under its proper name. -/
  tag : Tag
  /-- The code or the address read so far. -/
  content : Text := []
  /-- The id of the bookmark that it opened. -/
  bookmark? : Option Text := none
deriving DecidableEq

/-- Everything that the tokens so far have left. -/
structure Document where
  page : Sink := {}
  /-- The modes, innermost first. -/
  modes : List Mode := [.normal]
  /-- The open elements, innermost first. -/
  elements : List OpenElement := []
  /-- All bookmarks, in the order in which they were opened. -/
  bookmarks : List Bookmark := []
  /-- For each open bookmark the text since it was opened, by its id. -/
  captures : List (Text × Text) := []
  /-- The number that the next bookmark without a name takes. -/
  nextNumber : Nat := 1
  /-- A table of contents has been asked for. -/
  hasContents : Bool := false
  /-- Backticks delimit inline code. -/
  backticks : Bool := false
  /-- What there is to tell, in order. -/
  notices : List Notice := []
deriving DecidableEq

/-- A fault, and the document that it left. -/
structure Halt where
  fault : Fault
  document : Document
deriving DecidableEq

namespace OpenElement

/-- The role of the tag. -/
def role (element : OpenElement) : Role := element.tag.role

end OpenElement

namespace Document

/-- The document before the first token. -/
def start (settings : Settings) : Document := { backticks := settings.backticks }

/-- The mode in which the next token is read. Only in a document put together by hand can there
be none. -/
def mode? (document : Document) : Option Mode := document.modes.head?

/-- Adds markup to the page. -/
def emit (document : Document) (fragment : Text) : Document :=
  { document with page := document.page.emit fragment }

@[simp] theorem emit_nil (document : Document) : document.emit [] = document := by
  rw [emit, Sink.emit_nil]

theorem emit_emit (document : Document) (first second : Text) :
    (document.emit first).emit second = document.emit (first ++ second) := by
  simp only [emit, Sink.emit_emit]

/-- Adds text to the page and to the label of every open bookmark, seen or not. -/
def emitText (document : Document) (text : Text) : Document :=
  { document.emit text with
    captures := document.captures.map fun capture => (capture.1, capture.2 ++ text) }

/-- Gives a notice. -/
def tell (document : Document) (notice : Notice) : Document :=
  { document with notices := document.notices ++ [notice] }

/-- Goes into or out of comments. -/
def deepen (document : Document) (levels : Int) : Document :=
  { document with page := document.page.deepen levels }

/-- Makes an element the innermost one. -/
def enter (document : Document) (tag : Tag) (bookmark? : Option Text) : Document :=
  { document with elements := { tag, bookmark? } :: document.elements }

/-- Adds to the content of the innermost element. -/
def capture (document : Document) (text : Text) : Option Document :=
  match document.elements with
  | [] => none
  | element :: outer =>
    some { document with elements := { element with content := element.content ++ text } :: outer }

/-- Goes into a mode. -/
def enterMode (document : Document) (mode : Mode) : Document :=
  { document with modes := mode :: document.modes }

/-- Goes back to the mode before. -/
def leaveMode (offset : Int) (document : Document) : Except Halt Document :=
  match document.modes with
  | [] => .error ⟨⟨.noModeToLeave, offset⟩, document⟩
  | _ :: outer => .ok { document with modes := outer }

/-! ### Markup -/

/-- The name that a bookmark is given, trimmed, or `h` and a number. -/
def bookmarkName (tag : Tag) (number : Nat) : Text :=
  match tag.attributes.get? "name".toList with
  | some given => Text.trim given
  | none => 'h' :: Text.ofNat number

/-- The opening tag of an element. -/
def elementStart (tag : Tag) : Text := '<' :: tag.name ++ tag.attributes.render [] ++ ['>']

/-- The closing tag of an element. -/
def elementEnd (tag : Tag) : Text := "</".toList ++ tag.name ++ ['>']

/-- The opening tag of a box, whose class is named after the tag. -/
def boxStart (tag : Tag) : Text := "<div class=\"".toList ++ tag.name ++ "_box\">".toList

/-- The closing tag of a box. -/
def boxEnd : Text := "</div>".toList

/-- Inline code on the page. -/
def inlineCodeStart : Text := "<span class=\"inline_code\">".toList

/-- The end of inline code on the page. -/
def inlineCodeEnd : Text := "</span>".toList

/-- The text that stands for an image: the one given, or the last part of its address. -/
def imageText (tag : Tag) (address : Text) : Text :=
  let given := Text.trim ((tag.attributes.get? "alt".toList).getD [])
  if given.isEmpty then Text.escape (Text.afterLast '/' address) else given

/-- The attributes of an image besides its address and text: what shows under the pointer is its
title. -/
def imageAttributes (tag : Tag) : Attributes :=
  let others := tag.attributes.erase "alt".toList
  match others.get? "mouseover".toList with
  | none => others
  | some words => (others.erase "mouseover".toList).put "title".toList words

/-- An image on the page. -/
def image (tag : Tag) (content : Text) : Text :=
  let address := Text.trim content
  "<img src=\"".toList ++ address ++ "\" alt=\"".toList ++ imageText tag address ++ ['"'] ++
    (imageAttributes tag).render [] ++ "/>".toList

/-- The classes named in the tag of a listing, between commas or spaces. -/
def namedClasses (tag : Tag) : List Text :=
  let written := (tag.attributes.get? "classes".toList).getD []
  ((Text.splitOn ',' (Text.replace ' ' [','] written)).map Text.trim).filter fun name => name ≠ []

/-- The language of a listing: the one that its tag names, or the one of the settings. -/
def languageName (settings : Settings) (tag : Tag) : Text :=
  (tag.attributes.get? "language".toList).getD settings.language

/-- The opening tag of the box around a listing. -/
def listingStart (tag : Tag) : Text :=
  "<div".toList ++ tag.attributes.render ["language".toList, "classes".toList] ++ ['>']

/-! ### Opening and closing -/

/-- Opens a bookmark: it gets its name and id, its anchor goes to the page, and the text that
follows is captured. -/
def openBookmark (setup : Setup) (tag : Tag) (document : Document) : Document :=
  let id := setup.newId document.bookmarks.length
  let bookmark : Bookmark := { name := bookmarkName tag document.nextNumber, id }
  let number := if (tag.attributes.get? "name".toList).isSome then document.nextNumber
    else document.nextNumber + 1
  ((({ document with
      nextNumber := number
      bookmarks := document.bookmarks ++ [bookmark]
      captures := Pairs.put id [] document.captures }).tell (.bookmark bookmark.name)).emit
    bookmark.anchor).enter tag (some id)

/-- Closes a bookmark: the text captured since it was opened is its label. -/
def closeBookmark (id : Text) (document : Document) : Document :=
  { document with
    captures := Pairs.erase id document.captures
    bookmarks := Bookmark.labelLast id ((document.captures.lookup id).getD []) document.bookmarks }

/-- Opens a tag. Only a second table of contents on the page is refused. -/
def push (setup : Setup) (written : Tag) (document : Document) : Except Halt Document :=
  let tag := written.proper
  match tag.role with
  | .comment => .ok ((document.deepen 1).enter tag none)
  | .bookmark => .ok (document.openBookmark setup tag)
  | .contents =>
    if !document.page.shows then .ok (document.enter tag none)
    else if document.hasContents then .error ⟨⟨.repeatedContents, tag.offset⟩, document⟩
    else
      .ok (({ document with hasContents := true, page := document.page.markHere }).enter tag none)
  | .note | .warning => .ok ((document.emit (boxStart tag)).enter tag none)
  | .element => .ok ((document.emit (elementStart tag)).enter tag none)
  | .backticksOn | .backticksOff | .image | .code => .ok (document.enter tag none)

/-- What closing an element does once it is no longer open. Only a listing is refused, in an unknown
language or with tabs that are too wide. -/
def close (setup : Setup) (element : OpenElement) (document : Document) : Except Halt Document :=
  match element.role with
  | .comment => .ok (document.deepen (-1))
  | .bookmark =>
    match element.bookmark? with
    | some id => .ok (document.closeBookmark id)
    | none => .ok document
  | .contents => .ok document
  | .backticksOn => .ok { document with backticks := true }
  | .backticksOff => .ok { document with backticks := false }
  | .note | .warning => .ok (document.emit boxEnd)
  | .image => .ok (document.emit (image element.tag element.content))
  | .code =>
    let language := languageName setup.settings element.tag
    match Listing.of? language setup.settings.tabSize? (namedClasses element.tag) with
    | none => .error ⟨⟨.unsupportedLanguage language, element.tag.offset⟩, document⟩
    | some listing =>
      let told := document.tell (.listing listing.language.name listing.tabSize)
      match listing.lay element.content with
      | .error cause => .error ⟨⟨cause, element.tag.offset⟩, told⟩
      | .ok listed => .ok (((told.emit (listingStart element.tag)).emit listed).emit boxEnd)
  | .element => .ok (document.emit (elementEnd element.tag))

/-- Closes the innermost element, which has to go by the name given. It is no longer open even
if its name differs. -/
def pop (setup : Setup) (name : Text) (offset : Int) (document : Document) :
    Except Halt (OpenElement × Document) :=
  let found := Tag.properName name
  match document.elements with
  | [] => .error ⟨⟨.mismatchedClose [] found, offset⟩, document⟩
  | element :: outer =>
    let inside := { document with elements := outer }
    if element.tag.name = found then
      (close setup element inside).map fun after => (element, after)
    else .error ⟨⟨.mismatchedClose element.tag.name found, offset⟩, inside⟩

/-! ### Tokens -/

/-- Text: the content of a listing or an image, inline code, or text of the page. -/
def handleText (text : Text) (offset : Int) (document : Document) : Except Halt Document :=
  match document.mode? with
  | none => .error ⟨⟨.noMode, offset⟩, document⟩
  | some .code | some .image =>
    match document.capture text with
    | some after => .ok after
    | none => .error ⟨⟨.noOpenTag, offset⟩, document⟩
  | some .inlineCode =>
    .ok (((document.emit inlineCodeStart).emitText (Text.escape text)).emit inlineCodeEnd)
  | some .normal => .ok (document.emitText text)

/-- A tag that opens an element also brings the mode of its content. -/
def handleOpen (setup : Setup) (tag : Tag) (document : Document) : Except Halt Document :=
  (document.push setup tag).map fun after =>
    match tag.proper.role with
    | .code => after.enterMode .code
    | .image => after.enterMode .image
    | _ => after

/-- A closing tag ends the mode of the content. -/
def handleClose (setup : Setup) (name : Text) (offset : Int) (document : Document) :
    Except Halt Document :=
  match document.pop setup name offset with
  | .error halt => .error halt
  | .ok (element, after) =>
    match element.role with
    | .code | .image => after.leaveMode offset
    | _ => .ok after

/-- A tag that closes itself has no content and brings no mode. -/
def handleSelfClose (setup : Setup) (tag : Tag) (offset : Int) (document : Document) :
    Except Halt Document := do
  let inside ← document.push setup tag
  let (_, after) ← inside.pop setup tag.name offset
  return after

/-- A backtick begins or ends inline code, or stands for itself. -/
def handleBacktick (offset : Int) (document : Document) : Except Halt Document :=
  if document.backticks then
    match document.mode? with
    | none => .error ⟨⟨.noMode, offset⟩, document⟩
    | some .normal => .ok (document.enterMode .inlineCode)
    | some .inlineCode => document.leaveMode offset
    | some .code | some .image => .ok (document.emit ['`'])
  else .ok (document.emit ['`'])

/-- What a token does to the document. -/
def handle (setup : Setup) (token : Token) (document : Document) : Except Halt Document :=
  match token.form with
  | .text text => document.handleText text token.offset
  | .newline => .ok (document.emit ['\n'])
  | .pipe => .ok (document.emit ['|'])
  | .openTag tag => document.handleOpen setup tag
  | .closeTag name => document.handleClose setup name token.offset
  | .selfCloseTag tag => document.handleSelfClose setup tag token.offset
  | .backtick => document.handleBacktick token.offset

/-- The page, with the table of contents in its place if one was asked for. -/
def render (document : Document) : Text :=
  document.page.render (if document.hasContents then Bookmark.contents document.bookmarks else [])

end Document

end PageMarkup
