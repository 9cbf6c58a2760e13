import PageMarkup.Document

/-! What opening and closing a tag leave of a document, part by part. -/

namespace PageMarkup

/-- The mode in which the content of an element is read, if it brings one. -/
def Role.captureMode? : Role → Option Mode
  | .code => some .code
  | .image => some .image
  | _ => none

/-- How many comments an element of the role opens. -/
def Role.depth : Role → Int
  | .comment => 1
  | _ => 0

/-- Whether backticks delimit inline code after an element of the role is closed. -/
def Role.backticksAfter (before : Bool) : Role → Bool
  | .backticksOn => true
  | .backticksOff => false
  | _ => before

/-- The tag that a token opens. -/
def Token.opens? (token : Token) : Option Tag :=
  match token.form with
  | .openTag tag | .selfCloseTag tag => some tag
  | _ => none

theorem Token.form_of_opens? {token : Token} {tag : Tag} (h : token.opens? = some tag) :
    token.form = .openTag tag ∨ token.form = .selfCloseTag tag := by
  unfold opens? at h
  split at h
  · next form =>
      cases h
      exact .inl form
  · next form =>
      cases h
      exact .inr form
  · cases h

/-- The id of the bookmark for which the text in the element is recorded. -/
def OpenElement.recorded? (element : OpenElement) : Option Text :=
  if element.role = .bookmark then element.bookmark? else none

namespace Document

/-! ### The markup of a tag -/

/-- The markup that opening a tag adds to the page; a bookmark without a name takes `number`. -/
def startMarkup (tag : Tag) (number : Nat) : Text :=
  match tag.role with
  | .bookmark => Bookmark.anchor { name := bookmarkName tag number, id := [] }
  | .note | .warning => boxStart tag
  | .element => elementStart tag
  | _ => []

/-- A listing in its box, if there is a language to list it in. -/
def listingMarkup (setup : Setup) (element : OpenElement) : Text :=
  match Listing.of? (languageName setup.settings element.tag) setup.settings.tabSize?
      (namedClasses element.tag) with
  | some listing => listingStart element.tag ++ listing.render element.content ++ boxEnd
  | none => []

/-- The markup that closing an element adds to the page. -/
def endMarkup (setup : Setup) (element : OpenElement) : Text :=
  match element.role with
  | .note | .warning => boxEnd
  | .image => image element.tag element.content
  | .code => listingMarkup setup element
  | .element => elementEnd element.tag
  | _ => []

/-- The element that opening a tag makes the innermost one. -/
def opened (setup : Setup) (document : Document) (tag : Tag) : OpenElement :=
  { tag
    bookmark? :=
      if tag.role = .bookmark then some (setup.newId document.bookmarks.length) else none }

/-- The element that a token closes, if its name is the right one. -/
def closing? (setup : Setup) (document : Document) (token : Token) : Option OpenElement :=
  match token.form with
  | .closeTag _ => document.elements.head?
  | .selfCloseTag tag => some (document.opened setup tag.proper)
  | _ => none

/-- The tag asks for a table of contents, and the page shows it. -/
def marksContents (document : Document) (tag : Tag) : Bool :=
  tag.role = .contents && document.page.shows

/-- The bookmarks that opening a tag adds. -/
def newBookmarks (setup : Setup) (document : Document) (tag : Tag) : List Bookmark :=
  if tag.role = .bookmark then
    [{ name := bookmarkName tag document.nextNumber, id := setup.newId document.bookmarks.length }]
  else []

/-- The texts recorded for open bookmarks once a tag is opened. -/
def capturesInside (setup : Setup) (document : Document) (tag : Tag) : List (Text × Text) :=
  if tag.role = .bookmark then
    Pairs.put (setup.newId document.bookmarks.length) [] document.captures
  else document.captures

/-- The bookmarks once an element is closed: the one recorded for it has its label. -/
def labelled (document : Document) (element : OpenElement) : List Bookmark :=
  match element.recorded? with
  | some id => Bookmark.labelLast id ((document.captures.lookup id).getD []) document.bookmarks
  | none => document.bookmarks

/-- The texts recorded for open bookmarks once an element is closed. -/
def capturesOutside (document : Document) (element : OpenElement) : List (Text × Text) :=
  match element.recorded? with
  | some id => Pairs.erase id document.captures
  | none => document.captures

/-- The tag opens a bookmark that has to take a number for its name. -/
def takesNumber (tag : Tag) : Bool :=
  tag.role = .bookmark && (tag.attributes.get? "name".toList).isNone

/-! ### Opening and closing, part by part -/

/-- What opening a tag leaves. -/
structure OpenSpec (setup : Setup) (tag : Tag) (before after : Document) : Prop where
  modes : after.modes = before.modes
  backticks : after.backticks = before.backticks
  elements : after.elements = before.opened setup tag :: before.elements
  page : after.page = if before.marksContents tag then before.page.markHere
    else (before.page.emit (startMarkup tag before.nextNumber)).deepen tag.role.depth
  contents : after.hasContents = (before.hasContents || before.marksContents tag)
  bookmarks : after.bookmarks = before.bookmarks ++ before.newBookmarks setup tag
  captures : after.captures = before.capturesInside setup tag
  number : after.nextNumber = before.nextNumber + if takesNumber tag then 1 else 0

/-- What closing an element leaves, the element being open no longer. -/
structure CloseSpec (setup : Setup) (element : OpenElement) (before after : Document) : Prop where
  modes : after.modes = before.modes
  backticks : after.backticks = element.role.backticksAfter before.backticks
  elements : after.elements = before.elements
  page : after.page = (before.page.emit (endMarkup setup element)).deepen (-element.role.depth)
  contents : after.hasContents = before.hasContents
  labels : after.bookmarks = before.labelled element
  captures : after.captures = before.capturesOutside element
  number : after.nextNumber = before.nextNumber

theorem openBookmark_spec (setup : Setup) {tag : Tag} (before : Document)
    (role : tag.role = .bookmark) :
    OpenSpec setup tag before (before.openBookmark setup tag) where
  modes := rfl
  backticks := rfl
  elements := by simp only [openBookmark, enter, emit, tell, opened, role, if_true]
  page := by
    simp only [openBookmark, enter, emit, tell, marksContents, role, startMarkup, Role.depth,
      Sink.deepen_zero]
    rfl
  contents := by simp [openBookmark, enter, emit, tell, marksContents, role]
  bookmarks := by simp only [openBookmark, enter, emit, tell, newBookmarks, role, if_true]
  captures := by simp only [openBookmark, enter, emit, tell, capturesInside, role, if_true]
  number := by
    simp only [openBookmark, enter, emit, tell, takesNumber, role]
    cases tag.attributes.get? "name".toList <;> rfl

theorem push_spec {setup : Setup} {written : Tag} {before after : Document}
    (h : before.push setup written = .ok after) : OpenSpec setup written.proper before after := by
  unfold push at h
  generalize written.proper = tag at h ⊢
  cases role : tag.role <;> simp only [role] at h
  case bookmark =>
    obtain rfl := Except.ok.inj h
    exact openBookmark_spec setup before role
  case contents =>
    split at h
    · next hidden =>
        obtain rfl := Except.ok.inj h
        constructor <;>
          simp_all [enter, opened, marksContents, newBookmarks, capturesInside, takesNumber,
            startMarkup, Role.depth]
    split at h
    · cases h
    · obtain rfl := Except.ok.inj h
      constructor <;>
        simp_all [enter, opened, marksContents, newBookmarks, capturesInside, takesNumber]
  all_goals
    obtain rfl := Except.ok.inj h
    constructor <;>
      simp [role, enter, emit, deepen, opened, marksContents, newBookmarks, capturesInside,
        takesNumber, startMarkup, Role.depth]

theorem close_spec {setup : Setup} {element : OpenElement} {before after : Document}
    (h : before.close setup element = .ok after) : CloseSpec setup element before after := by
  unfold close at h
  cases role : element.role <;> simp only [role] at h
  case bookmark =>
    split at h <;> obtain rfl := Except.ok.inj h <;> constructor <;>
      simp_all [closeBookmark, labelled, capturesOutside, OpenElement.recorded?, endMarkup,
        Role.depth, Role.backticksAfter]
  case code =>
    split at h
    · cases h
    next listing found =>
    unfold Listing.lay at h
    split at h
    · cases h
    next listed fits =>
    split at fits
    · obtain rfl := Except.ok.inj fits
      obtain rfl := Except.ok.inj h
      constructor <;>
        simp [role, emit, tell, labelled, capturesOutside, OpenElement.recorded?, endMarkup,
          listingMarkup, found, Sink.emit_emit, Role.depth, Role.backticksAfter]
    · cases fits
  all_goals
    obtain rfl := Except.ok.inj h
    constructor <;>
      simp [role, emit, deepen, labelled, capturesOutside, OpenElement.recorded?, endMarkup,
        Role.depth, Role.backticksAfter]

/-- Closing an element changes no name. -/
theorem CloseSpec.bookmarks {setup : Setup} {element : OpenElement} {before after : Document}
    (closing : CloseSpec setup element before after) :
    after.bookmarks.map Bookmark.name = before.bookmarks.map Bookmark.name := by
  rw [closing.labels, labelled]
  split
  · exact Bookmark.map_name_labelLast _ _ _
  · rfl

theorem pop_eq_ok {setup : Setup} {name : Text} {offset : Int} {before after : Document}
    {element : OpenElement} (h : before.pop setup name offset = .ok (element, after)) :
    ∃ outer, before.elements = element :: outer ∧ element.tag.name = Tag.properName name ∧
      CloseSpec setup element { before with elements := outer } after := by
  unfold pop at h
  split at h
  · cases h
  next innermost outer elements =>
  simp only at h
  split at h
  · next named =>
      cases closed : close setup innermost { before with elements := outer } with
      | error halt => simp [closed, Except.map] at h
      | ok inside =>
          simp only [closed, Except.map, Except.ok.injEq, Prod.mk.injEq] at h
          obtain ⟨rfl, rfl⟩ := h
          exact ⟨outer, elements, named, close_spec closed⟩
  · cases h

end Document

end PageMarkup
