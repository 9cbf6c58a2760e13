import PageMarkup.Proofs.Bookmarks.Anchors
import PageMarkup.Proofs.Matching

/-! # Texts

What becomes of the text of a source: it is shown where it stands, or captured for the innermost
element, which has it listed or takes it for an address when it is closed. -/

namespace PageMarkup

open Compilation PageMarkup.Bracket

/-! ## Captured text -/

namespace Document

variable {setup : Setup} {document before after : Document} {token : Token}

/-- A listing that is closed has been listed in some language. -/
theorem exists_listing_of_close {element : OpenElement} (h : before.close setup element = .ok after)
    (role : element.role = .code) :
    ∃ listing, Listing.of? (languageName setup.settings element.tag) setup.settings.tabSize?
      (namedClasses element.tag) = some listing := by
  simp only [close, role] at h
  split at h
  · cases h
  · next listing found => exact ⟨listing, found⟩

theorem exists_listing_of_handle {element : OpenElement} {outer : List OpenElement} {name : Text}
    {offset : Int} (h : before.handle setup ⟨.closeTag name, offset⟩ = .ok after)
    (elements : before.elements = element :: outer) (role : element.role = .code) :
    ∃ listing, Listing.of? (languageName setup.settings element.tag) setup.settings.tabSize?
      (namedClasses element.tag) = some listing := by
  simp only [handle, handleClose, pop, elements] at h
  split at h
  · cases h
  next popped =>
  split at popped
  · cases closed : close setup element { before with elements := outer } with
    | error halt => simp [closed, Except.map] at popped
    | ok inside => exact exists_listing_of_close closed role
  · cases popped

/-- While an address is read, an image is open. -/
theorem Coherent.image_mem_roles (coherent : document.Coherent)
    (mode : document.mode? = some .image) : .image ∈ document.roles := by
  obtain ⟨modes, -⟩ := coherent.of_ne (by simp [mode])
  have brought : Mode.image ∈ document.captureModes := by
    rw [mode?, modes] at mode
    cases captured : document.captureModes with
    | nil => simp [captured] at mode
    | cons innermost outer => simp_all
  obtain ⟨role, mem, brings⟩ := mem_captureModes.mp brought
  cases role <;> simp_all [Role.captureMode?]

/-- An element of another role shows the same whatever has been captured for it. -/
theorem endMarkup_of_role {element : OpenElement} (code : element.role ≠ .code)
    (image : element.role ≠ .image) (content : Text) :
    endMarkup setup { element with content } = endMarkup setup element := by
  have same : ({ element with content } : OpenElement).role = element.role := rfl
  unfold endMarkup
  rw [same]
  cases role : element.role <;> first | rfl | contradiction

/-- Text that is captured is text of the innermost element. -/
theorem Handling.captures {value : Text} {offset : Int} {element : OpenElement}
    {outer : List OpenElement} (handling : Handling setup before ⟨.text value, offset⟩ after)
    (mode : before.mode? = some .code ∨ before.mode? = some .image)
    (elements : before.elements = element :: outer) :
    after.elements = { element with content := element.content ++ value } :: outer := by
  cases handling with
  | text normal => simp [normal] at mode
  | inlineCode inline => simp [inline] at mode
  | captured _ found =>
      obtain ⟨rfl, rfl⟩ := List.cons.inj (found.symm.trans elements)
      rfl

end Document

open Document

variable {setup : Setup} {source page value : Text} {steps front back : List Step}
  {last : Compilation} {here : Step}

/-- A text is captured for the innermost element, and a later step closes it. By then the text
stands in its content after what had been captured before, and the elements around it are as they
were. -/
structure Captured (here : Step) (back : List Step) (value : Text) (closes : Step)
    (late : OpenElement) : Prop where
  elements : ∃ element outer, here.document.elements = element :: outer ∧
    closes.document.elements = late :: outer ∧ late.tag = element.tag ∧
    element.content ++ value <+: late.content
  split : ∃ inner rest, back = inner ++ closes :: rest ∧
    Nested Tag.ClosedBy (Step.brackets inner)
  closing : ∃ name, closes.token.form = .closeTag name ∧
    late.tag.ClosedBy (Tag.properName name)

/-- The element shows where it is closed what it shows of the text. -/
theorem Captured.shown {closes : Step} {late : OpenElement}
    (captured : Captured here back value closes late)
    (uncommented : here.document.commented = false) :
    closes.shown setup = endMarkup setup late := by
  obtain ⟨element, outer, before, after, tag, -⟩ := captured.elements
  obtain ⟨name, form, -⟩ := captured.closing
  have role : late.role = element.role := congrArg Tag.role tag
  have same : closes.document.commented = here.document.commented := by
    rw [commented, commented, before, after, List.any_cons, List.any_cons, role]
  rw [Step.shown, same, uncommented]
  simp only [fragment, form, after, List.head?_cons, Option.map_some, Option.getD_some,
    Bool.false_eq_true, if_false]

theorem Compilation.Reaches.captured (h : (opening setup.settings source).Reaches setup steps last)
    (closed : last.document.elements = []) (split : steps = front ++ here :: back)
    (form : here.token.form = .text value)
    (mode : here.document.mode? = some .code ∨ here.document.mode? = some .image) :
    ∃ closes late, Captured here back value closes late := by
  obtain ⟨before, next, earlier, same, handled, behind⟩ := (split ▸ h).at_step
  obtain ⟨document, _, offset⟩ := here
  obtain rfl : _ = Token.Form.text value := form
  obtain rfl : document = before.document := same
  obtain ⟨element, outer, elements⟩ :=
    List.exists_cons_of_ne_nil (earlier.coherent.elements_ne_nil mode)
  have capturing := (handling_of_handled handled).captures mode elements
  obtain ⟨inner, closes, rest, late, found, nested, ⟨name, closing, named⟩, held, grows⟩ :=
    behind.exists_closing capturing closed
  refine ⟨closes, late, ⟨element, outer, elements, held, grows.tag, grows.content⟩,
    ⟨inner, rest, found, nested⟩, name, closing, ?_⟩
  rw [grows.tag]
  exact named

/-! ## What becomes of a text -/

/-- What becomes of a text outside comments. In the normal mode and in inline code the page shows
it. In a listing it is code that is listed. Where an image is read it is part of the address if the
image is the innermost element, and is lost otherwise: it goes to an element that shows nothing of
it. -/
inductive Fate (setup : Setup) (page : Text) (here : Step) (back : List Step) (value : Text) : Prop
  | shown (mode : here.document.mode? = some .normal) (shown : here.shown setup = value)
      (onPage : value <:+: page)
  | inlineCode (mode : here.document.mode? = some .inlineCode)
      (shown : here.shown setup = inlineCodeStart ++ Text.escape value ++ inlineCodeEnd)
      (onPage : inlineCodeStart ++ Text.escape value ++ inlineCodeEnd <:+: page)
  | listed {closes late listing} (mode : here.document.mode? = some .code)
      (captured : Captured here back value closes late) (role : late.role = .code)
      (language : Listing.of? (languageName setup.settings late.tag) setup.settings.tabSize?
        (namedClasses late.tag) = some listing)
      (shown : closes.shown setup =
        listingStart late.tag ++ listing.render late.content ++ boxEnd)
      (onPage : closes.shown setup <:+: page)
  | address {closes late} (mode : here.document.mode? = some .image)
      (captured : Captured here back value closes late) (role : late.role = .image)
      (shown : closes.shown setup = image late.tag late.content)
      (onPage : closes.shown setup <:+: page)
  | lost {closes late} (mode : here.document.mode? = some .image)
      (captured : Captured here back value closes late) (role : late.role ≠ .image)
      (inImage : .image ∈ here.document.roles.tail) (silent : here.shown setup = [])
      (blind : ∀ content, closes.shown setup = endMarkup setup { late with content })

namespace Compilation.Reaches

theorem fate_of_listing (h : (opening setup.settings source).Reaches setup steps last)
    (closed : last.document.elements = []) (split : steps = front ++ here :: back)
    (form : here.token.form = .text value) (uncommented : here.document.commented = false)
    (mode : here.document.mode? = some .code) :
    Fate setup last.document.render here back value := by
  obtain ⟨closes, late, captured⟩ := h.captured closed split form (.inl mode)
  obtain ⟨element, outer, before, after, tag, content⟩ := captured.elements
  obtain ⟨inner, rest, later, nested⟩ := captured.split
  obtain ⟨name, closing, named⟩ := captured.closing
  have role : late.role = .code := by
    obtain ⟨_, _, earlier, same, -, -⟩ := (split ▸ h).at_step
    have innermost := earlier.coherent.head?_roles_eq_code_iff.mpr (same ▸ mode)
    rw [← same, roles, before, List.map_cons, List.head?_cons] at innermost
    exact (congrArg Tag.role tag).trans (Option.some.inj innermost)
  have split' : steps = (front ++ here :: inner) ++ closes :: rest := by
    rw [split, later, List.append_assoc, List.cons_append]
  obtain ⟨_, _, -, same, handled, -⟩ := (split' ▸ h).at_step
  have handled := (advance_eq_handled_iff.mp handled).2
  rw [← same] at handled
  obtain ⟨listing, language⟩ : ∃ listing, Listing.of? (languageName setup.settings late.tag)
      setup.settings.tabSize? (namedClasses late.tag) = some listing := by
    obtain ⟨document, _, offset⟩ := closes
    obtain rfl : _ = Token.Form.closeTag name := closing
    exact exists_listing_of_handle handled after role
  have mem : closes ∈ steps := split' ▸ List.mem_append_right _ List.mem_cons_self
  refine .listed mode captured role language ?_ (h.shown_isInfix_render mem)
  rw [captured.shown uncommented]
  simp only [endMarkup, role, listingMarkup, language]

theorem fate_of_image (h : (opening setup.settings source).Reaches setup steps last)
    (closed : last.document.elements = []) (split : steps = front ++ here :: back)
    (form : here.token.form = .text value) (uncommented : here.document.commented = false)
    (mode : here.document.mode? = some .image) :
    Fate setup last.document.render here back value := by
  obtain ⟨closes, late, captured⟩ := h.captured closed split form (.inr mode)
  obtain ⟨element, outer, before, after, tag, content⟩ := captured.elements
  obtain ⟨inner, rest, later, nested⟩ := captured.split
  have role : late.role = element.role := congrArg Tag.role tag
  have shown : closes.shown setup = endMarkup setup late := captured.shown uncommented
  obtain ⟨_, _, earlier, same, -, -⟩ := (split ▸ h).at_step
  have coherent := same ▸ earlier.coherent
  by_cases image : late.role = .image
  · have mem : closes ∈ steps := by simp [split, later]
    refine .address mode captured image ?_ (h.shown_isInfix_render mem)
    rw [shown]
    simp only [endMarkup, image]
  · have code : late.role ≠ .code := by
      intro listing
      have current := coherent.head?_roles_eq_code_iff.mp
        (by rw [roles, before, List.map_cons, List.head?_cons, ← role, listing])
      rw [mode] at current
      cases current
    refine .lost mode captured image ?_ ?_ fun content => ?_
    · have mem := coherent.image_mem_roles mode
      rw [roles, before, List.map_cons, List.mem_cons, ← role] at mem
      rw [roles, before, List.map_cons, List.tail_cons]
      exact mem.resolve_left (Ne.symm image)
    · simp only [Step.shown, uncommented, fragment, form, mode, Bool.false_eq_true, if_false]
    · exact shown.trans (endMarkup_of_role code image content).symm

/-- With all tags closed, each text outside comments has its fate. -/
theorem fate (h : (opening setup.settings source).Reaches setup steps last)
    (closed : last.document.elements = []) (split : steps = front ++ here :: back)
    (form : here.token.form = .text value) (uncommented : here.document.commented = false) :
    Fate setup last.document.render here back value := by
  obtain ⟨_, _, earlier, same, -, -⟩ := (split ▸ h).at_step
  have mem : here ∈ steps := split ▸ List.mem_append_right _ List.mem_cons_self
  have onPage := h.shown_isInfix_render mem
  cases mode : here.document.mode? with
  | none => exact absurd (same ▸ mode) earlier.coherent.mode?_ne_none
  | some current =>
      cases current with
      | normal =>
          have shown : here.shown setup = value := by
            simp only [Step.shown, uncommented, fragment, form, mode, Bool.false_eq_true, if_false]
          exact .shown mode shown (shown ▸ onPage)
      | inlineCode =>
          have shown : here.shown setup =
              inlineCodeStart ++ Text.escape value ++ inlineCodeEnd := by
            simp only [Step.shown, uncommented, fragment, form, mode, Bool.false_eq_true, if_false]
          exact .inlineCode mode shown (shown ▸ onPage)
      | code => exact h.fate_of_listing closed split form uncommented mode
      | image => exact h.fate_of_image closed split form uncommented mode

end Compilation.Reaches

/-! ## Pages -/

/-- On the page of a source with all tags closed, a text outside comments is shown where it stands
or at the end of the listing or image that it is read for. It is lost in one case only: where an
image is open and another element inside it is the innermost one. -/
theorem texts_are_shown_unless_inside_elements_of_images
    (required : setup.settings.closeTags = true) (compiled : compileWith setup source = .ok page) :
    ∃ steps last, (opening setup.settings source).Reaches setup steps last ∧
      last.cursor.rest = [] ∧ last.document.elements = [] ∧ last.document.render = page ∧
      ∀ front here back value, steps = front ++ here :: back →
        here.token.form = .text value → here.document.commented = false →
        Fate setup page here back value := by
  obtain ⟨steps, last, reaches, finished, left, rfl⟩ := compileWith_eq_ok_iff.mp compiled
  have closed := elements_eq_nil_of_leftOpen required left
  refine ⟨steps, last, reaches, rest_eq_nil_of_finished finished, closed, rfl, ?_⟩
  intro front here back value split form uncommented
  exact reaches.fate closed split form uncommented

/-- The text of an element in an image is lost: the image has no address. -/
theorem text_in_element_of_image_is_lost :
    ∃ steps last, compileWith { settings := { closeTags := true } }
        "<image><b>u</b></image>".toList = .ok "<b></b><img src=\"\" alt=\"\"/>".toList ∧
      (opening { closeTags := true } "<image><b>u</b></image>".toList).Reaches
        { settings := { closeTags := true } } steps last ∧
      ∀ front here back value, steps = front ++ here :: back →
        here.token.form = .text value → here.document.commented = false →
        Fate { settings := { closeTags := true } } "<b></b><img src=\"\" alt=\"\"/>".toList
          here back value := by
  have image : Cursor.IsTagName "image".toList := by decide
  have bold : Cursor.IsTagName ['b'] := by decide
  have normal : Mode.normal ≠ .code ∧ Mode.normal ≠ .inlineCode := by decide
  have address : Mode.image ≠ .code ∧ Mode.image ≠ .inlineCode := by decide
  have opens := Cursor.next_writtenTag normal.1 normal.2 false image (List.forall_mem_nil _) false
    "<b>u</b></image>".toList 0
  have inside := Cursor.next_writtenTag address.1 address.2 false bold (List.forall_mem_nil _) false
    "u</b></image>".toList 7
  have text : (⟨'u' :: '<' :: "/b></image>".toList, 10⟩ : Cursor).next .image false =
      .ok (some (⟨.text ['u'], 10⟩, ⟨'<' :: "/b></image>".toList, 11⟩)) :=
    Cursor.next_writtenChar address.1 address.2 rfl rfl _
  have outside := Cursor.next_writtenClose address.1 address.2 false bold.1 "</image>".toList 11
  have closes := Cursor.next_writtenClose address.1 address.2 false image.1 [] 15
  have run : ∃ steps document,
      (opening { closeTags := true } "<image><b>u</b></image>".toList).Reaches
        { settings := { closeTags := true } } steps ⟨⟨[], 23⟩, document⟩ ∧
      document.mode? = some .normal ∧ document.elements = [] ∧
      document.render = "<b></b><img src=\"\" alt=\"\"/>".toList :=
    ⟨_, _, .step (.step (.step (.step (.step .refl (advance_of_next rfl opens rfl))
      (advance_of_next rfl inside rfl)) (advance_of_next rfl text rfl))
      (advance_of_next rfl outside rfl)) (advance_of_next rfl closes rfl), rfl, rfl, rfl⟩
  obtain ⟨steps, document, reaches, current, closed, rendered⟩ := run
  have compiled := compileWith_eq_ok_iff.mpr ⟨steps, _, reaches, advance_at_end current rfl,
    by simp only [leftOpen?, closed], rendered⟩
  obtain ⟨steps', last', reaches', -, -, -, fates⟩ :=
    texts_are_shown_unless_inside_elements_of_images rfl compiled
  exact ⟨steps', last', compiled, reaches', fates⟩

end PageMarkup
