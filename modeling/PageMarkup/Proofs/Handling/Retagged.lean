import PageMarkup.Document

/-! Changes to tags that do not show. A document whose open tags are changed so is handled as the
document itself, and what comes of it is changed in the same way. -/

namespace PageMarkup

/-- A change to tags that does not show: `place` tells what becomes of their places, and what a page
is made of stays. -/
structure Tag.Unseen (place : Int → Int) (change : Tag → Tag) : Prop where
  offset (tag : Tag) : (change tag).offset = place tag.offset
  name (tag : Tag) : (change tag).name = tag.name
  proper (tag : Tag) : (change tag).proper = change tag.proper
  value {tag : Tag} {name : Text} (shown : name ≠ Attributes.authorNote) :
    (change tag).attributes.get? name = tag.attributes.get? name
  rendered (tag : Tag) (excluded : List Text) :
    (change tag).attributes.render excluded = tag.attributes.render excluded
  imageRendered (tag : Tag) :
    (Document.imageAttributes (change tag)).render [] = (Document.imageAttributes tag).render []

/-! ## Changing what has tags -/

def OpenElement.retagged (change : Tag → Tag) (element : OpenElement) : OpenElement :=
  { element with tag := change element.tag }

def Token.Form.retagged (change : Tag → Tag) : Token.Form → Token.Form
  | .openTag tag => .openTag (change tag)
  | .selfCloseTag tag => .selfCloseTag (change tag)
  | form => form

def Token.retagged (place : Int → Int) (change : Tag → Tag) (token : Token) : Token :=
  ⟨token.form.retagged change, place token.offset⟩

/-- The document with its open tags changed, and notices before its own. -/
def Document.retagged (change : Tag → Tag) (told : List Notice) (document : Document) : Document :=
  { document with
    elements := document.elements.map (OpenElement.retagged change)
    notices := told ++ document.notices }

def Halt.retagged (place : Int → Int) (change : Tag → Tag) (told : List Notice) (halt : Halt) :
    Halt :=
  ⟨⟨halt.fault.cause, place halt.fault.offset⟩, halt.document.retagged change told⟩

/-- What comes of a change to a document with other tags. -/
def Halt.outcomeRetagged {α : Type} (place : Int → Int) (change : Tag → Tag) (told : List Notice)
    (move : α → α) : Except Halt α → Except Halt α
  | .ok given => .ok (move given)
  | .error halt => .error (halt.retagged place change told)

/-! ## What tags are made into -/

namespace Tag.Unseen

open Document

variable {place : Int → Int} {change : Tag → Tag} (unseen : Tag.Unseen place change)
include unseen

theorem role (tag : Tag) : (change tag).role = tag.role := congrArg Role.ofName (unseen.name tag)

theorem bookmarkName (tag : Tag) (number : Nat) :
    Document.bookmarkName (change tag) number = Document.bookmarkName tag number := by
  rw [Document.bookmarkName, unseen.value (by decide), Document.bookmarkName]

theorem elementStart (tag : Tag) :
    Document.elementStart (change tag) = Document.elementStart tag := by
  simp only [Document.elementStart, unseen.name, unseen.rendered]

theorem elementEnd (tag : Tag) : Document.elementEnd (change tag) = Document.elementEnd tag := by
  simp only [Document.elementEnd, unseen.name]

theorem boxStart (tag : Tag) : Document.boxStart (change tag) = Document.boxStart tag := by
  unfold Document.boxStart
  rw [unseen.name]

theorem image (tag : Tag) (content : Text) :
    Document.image (change tag) content = Document.image tag content := by
  have text (address : Text) : imageText (change tag) address = imageText tag address := by
    rw [imageText, unseen.value (by decide), imageText]
  unfold Document.image
  simp only [text, unseen.imageRendered]

theorem languageName (settings : Settings) (tag : Tag) :
    Document.languageName settings (change tag) = Document.languageName settings tag := by
  rw [Document.languageName, unseen.value (by decide), Document.languageName]

theorem namedClasses (tag : Tag) :
    Document.namedClasses (change tag) = Document.namedClasses tag := by
  have classes : (change tag).attributes.get? "classes".toList =
      tag.attributes.get? "classes".toList := unseen.value (by decide)
  simp only [Document.namedClasses, classes]

theorem listingStart (tag : Tag) :
    Document.listingStart (change tag) = Document.listingStart tag := by
  simp only [Document.listingStart, unseen.rendered]

end Tag.Unseen

/-! ## Handling -/

namespace Document

variable {place : Int → Int} {change : Tag → Tag} (unseen : Tag.Unseen place change)
  (told : List Notice) (document : Document)

theorem tell_retagged (notice : Notice) :
    (document.retagged change told).tell notice = (document.tell notice).retagged change told := by
  simp only [tell, retagged, List.append_assoc]

theorem capture_retagged (text : Text) :
    (document.retagged change told).capture text =
      (document.capture text).map (retagged change told) := by
  unfold capture retagged
  cases document.elements <;> rfl

theorem leaveMode_retagged (offset : Int) :
    (document.retagged change told).leaveMode (place offset) =
      Halt.outcomeRetagged place change told (retagged change told)
        (document.leaveMode offset) := by
  have modes : (document.retagged change told).modes = document.modes := rfl
  unfold leaveMode
  rw [modes]
  cases document.modes <;> rfl

theorem handleText_retagged (text : Text) (offset : Int) :
    (document.retagged change told).handleText text (place offset) =
      Halt.outcomeRetagged place change told (retagged change told)
        (document.handleText text offset) := by
  unfold handleText
  have mode : (document.retagged change told).mode? = document.mode? := rfl
  rw [mode]
  rcases document.mode? with _ | _ | _ | _ | _
  · rfl
  · rfl
  · rw [capture_retagged]
    cases document.capture text <;> rfl
  · rw [capture_retagged]
    cases document.capture text <;> rfl
  · rfl

theorem handleBacktick_retagged (offset : Int) :
    (document.retagged change told).handleBacktick (place offset) =
      Halt.outcomeRetagged place change told (retagged change told)
        (document.handleBacktick offset) := by
  unfold handleBacktick
  have enabled : (document.retagged change told).backticks = document.backticks := rfl
  have mode : (document.retagged change told).mode? = document.mode? := rfl
  rw [enabled, mode]
  cases document.backticks with
  | false => rfl
  | true =>
      simp only [if_true]
      rcases document.mode? with _ | _ | _ | _ | _
      · rfl
      · rfl
      · rfl
      · rfl
      · exact leaveMode_retagged told document offset

include unseen

theorem openBookmark_retagged (setup : Setup) (tag : Tag) :
    (document.retagged change told).openBookmark setup (change tag) =
      (document.openBookmark setup tag).retagged change told := by
  have name : (change tag).attributes.get? "name".toList = tag.attributes.get? "name".toList :=
    unseen.value (by decide)
  simp only [openBookmark, unseen.bookmarkName, name, emit, enter, tell, retagged,
    List.append_assoc]
  rfl

theorem push_retagged (setup : Setup) (written : Tag) :
    (document.retagged change told).push setup (change written) =
      Halt.outcomeRetagged place change told (retagged change told)
        (document.push setup written) := by
  simp only [push, unseen.proper, unseen.role, unseen.offset]
  generalize written.proper = tag
  cases tag.role with
  | bookmark => exact congrArg Except.ok (openBookmark_retagged unseen told document setup tag)
  | contents =>
      have page : (document.retagged change told).page = document.page := rfl
      have asked : (document.retagged change told).hasContents = document.hasContents := rfl
      simp only [page, asked]
      split
      · rfl
      split <;> rfl
  | note | warning =>
      simp only [unseen.boxStart]
      rfl
  | element =>
      simp only [unseen.elementStart]
      rfl
  | comment | backticksOn | backticksOff | image | code => rfl

theorem close_retagged (setup : Setup) (element : OpenElement) :
    (document.retagged change told).close setup (element.retagged change) =
      Halt.outcomeRetagged place change told (retagged change told)
        (document.close setup element) := by
  have tag : (element.retagged change).tag = change element.tag := rfl
  have content : (element.retagged change).content = element.content := rfl
  have role : (element.retagged change).role = element.role := unseen.role element.tag
  unfold close
  rw [role]
  cases element.role with
  | bookmark =>
      have opened : (element.retagged change).bookmark? = element.bookmark? := rfl
      simp only [opened]
      cases element.bookmark? <;> rfl
  | image =>
      simp only [tag, content, unseen.image]
      rfl
  | code =>
      simp only [tag, content, unseen.languageName, unseen.namedClasses, unseen.offset,
        unseen.listingStart, tell_retagged]
      split
      · rfl
      split <;> rfl
  | element =>
      simp only [tag, unseen.elementEnd]
      rfl
  | comment | contents | backticksOn | backticksOff | note | warning => rfl

theorem pop_retagged (setup : Setup) (name : Text) (offset : Int) :
    (document.retagged change told).pop setup name (place offset) =
      Halt.outcomeRetagged place change told
        (fun popped => (popped.1.retagged change, popped.2.retagged change told))
        (document.pop setup name offset) := by
  have elements : (document.retagged change told).elements =
      document.elements.map (OpenElement.retagged change) := rfl
  unfold pop
  rw [elements]
  cases document.elements with
  | nil => rfl
  | cons element outer =>
      have named : (element.retagged change).tag.name = element.tag.name := unseen.name element.tag
      have inside : ({ document.retagged change told with
          elements := outer.map (OpenElement.retagged change) } : Document) =
          ({ document with elements := outer } : Document).retagged change told := rfl
      simp only [List.map_cons, named, inside, close_retagged unseen]
      split
      · cases ({ document with elements := outer } : Document).close setup element <;> rfl
      · rfl

theorem handleOpen_retagged (setup : Setup) (tag : Tag) :
    (document.retagged change told).handleOpen setup (change tag) =
      Halt.outcomeRetagged place change told (retagged change told)
        (document.handleOpen setup tag) := by
  unfold handleOpen
  rw [push_retagged unseen, unseen.proper, unseen.role]
  cases document.push setup tag with
  | error halt => rfl
  | ok after => cases tag.proper.role <;> rfl

theorem handleClose_retagged (setup : Setup) (name : Text) (offset : Int) :
    (document.retagged change told).handleClose setup name (place offset) =
      Halt.outcomeRetagged place change told (retagged change told)
        (document.handleClose setup name offset) := by
  unfold handleClose
  rw [pop_retagged unseen]
  rcases document.pop setup name offset with halt | ⟨element, after⟩
  · rfl
  have role : (element.retagged change).role = element.role := unseen.role element.tag
  simp only [Halt.outcomeRetagged, role]
  cases element.role with
  | code => exact leaveMode_retagged told after offset
  | image => exact leaveMode_retagged told after offset
  | _ => rfl

theorem handleSelfClose_retagged (setup : Setup) (tag : Tag) (offset : Int) :
    (document.retagged change told).handleSelfClose setup (change tag) (place offset) =
      Halt.outcomeRetagged place change told (retagged change told)
        (document.handleSelfClose setup tag offset) := by
  simp only [handleSelfClose, push_retagged unseen, bind, Except.bind]
  cases document.push setup tag with
  | error halt => rfl
  | ok inside =>
      simp only [Halt.outcomeRetagged, unseen.name, pop_retagged unseen]
      rcases inside.pop setup tag.name offset with halt | ⟨element, after⟩ <;> rfl

/-- A token does the same where tags are changed, its own and those that are open. -/
theorem handle_retagged (setup : Setup) (token : Token) :
    (document.retagged change told).handle setup (token.retagged place change) =
      Halt.outcomeRetagged place change told (retagged change told)
        (document.handle setup token) := by
  obtain ⟨form, offset⟩ := token
  cases form with
  | text text => exact handleText_retagged told document text offset
  | newline => rfl
  | pipe => rfl
  | openTag tag => exact handleOpen_retagged unseen told document setup tag
  | closeTag name => exact handleClose_retagged unseen told document setup name offset
  | selfCloseTag tag => exact handleSelfClose_retagged unseen told document setup tag offset
  | backtick => exact handleBacktick_retagged told document offset

end Document

end PageMarkup
