import PageMarkup.Proofs.Handling.Parts

/-! The ways in which a token can be refused. -/

namespace PageMarkup.Document

/-- A tag that is refused asks a second time for a table of contents, and leaves all as it was. -/
theorem push_error {setup : Setup} {written : Tag} {before : Document} {halt : Halt}
    (h : before.push setup written = .error halt) :
    before.marksContents written.proper = true ∧ before.hasContents = true ∧
      halt = ⟨⟨.repeatedContents, written.offset⟩, before⟩ := by
  rw [← Tag.proper_offset]
  unfold push at h
  generalize written.proper = tag at h ⊢
  cases role : tag.role <;> simp only [role] at h
  case contents =>
    split at h
    · cases h
    next shown =>
    split at h
    · next asked =>
        cases h
        exact ⟨by simpa [marksContents, role] using shown, asked, rfl⟩
    · cases h
  all_goals cases h

/-- Why a listing cannot be made. -/
inductive ListingRefusal (setup : Setup) (tag : Tag) : Cause → Prop
  | language
      (missing : Language.named? (languageName setup.settings tag) = none) :
      ListingRefusal setup tag (.unsupportedLanguage (languageName setup.settings tag))
  | tabs {language}
      (found : Language.named? (languageName setup.settings tag) = some language)
      (wide : Text.isLength (setup.settings.tabSize?.getD language.tabSize) = false) :
      ListingRefusal setup tag (.tabTooWide (setup.settings.tabSize?.getD language.tabSize))

/-- Only listings are refused when they are closed. -/
theorem close_error {setup : Setup} {element : OpenElement} {before : Document} {halt : Halt}
    (h : before.close setup element = .error halt) :
    element.role = .code ∧ ∃ cause, ListingRefusal setup element.tag cause ∧
      halt.fault = ⟨cause, element.tag.offset⟩ := by
  unfold close at h
  cases role : element.role <;> simp only [role] at h
  case bookmark => split at h <;> cases h
  case code =>
    refine ⟨rfl, ?_⟩
    split at h
    · next missing =>
        cases h
        exact ⟨_, .language (by simpa [Listing.of?] using missing), rfl⟩
    next listing found =>
    obtain ⟨language, named, rfl⟩ := Option.map_eq_some_iff.mp found
    unfold Listing.lay at h
    split at h
    · next cause refused =>
        cases h
        split at refused
        · cases refused
        · next wide =>
            cases refused
            exact ⟨_, .tabs named (by simpa using wide), rfl⟩
    · cases h
  all_goals cases h

/-- One rule for each way in which a token can be refused. -/
inductive Refusal (setup : Setup) (before : Document) : Token → Fault → Prop
  | noMode {token} (missing : before.mode? = none) :
      Refusal setup before token ⟨.noMode, token.offset⟩
  | noModeToLeave {token} (missing : before.mode? = none) :
      Refusal setup before token ⟨.noModeToLeave, token.offset⟩
  | noOpenTag {value offset} (mode : before.mode? = some .code ∨ before.mode? = some .image)
      (elements : before.elements = []) :
      Refusal setup before ⟨.text value, offset⟩ ⟨.noOpenTag, offset⟩
  | repeatedContents {token tag} (opens : token.opens? = some tag)
      (marks : before.marksContents tag.proper = true) (asked : before.hasContents = true) :
      Refusal setup before token ⟨.repeatedContents, tag.offset⟩
  | mismatched {name offset}
      (differs : ∀ element ∈ before.elements.head?, element.tag.name ≠ Tag.properName name) :
      Refusal setup before ⟨.closeTag name, offset⟩ ⟨.mismatchedClose
        ((before.elements.head?.map (·.tag.name)).getD []) (Tag.properName name), offset⟩
  | listing {token element cause} (closes : before.closing? setup token = some element)
      (role : element.role = .code) (refusal : ListingRefusal setup element.tag cause) :
      Refusal setup before token ⟨cause, element.tag.offset⟩

theorem handleText_refusal {setup : Setup} {value : Text} {offset : Int} {before : Document}
    {halt : Halt} (h : before.handleText value offset = .error halt) :
    Refusal setup before ⟨.text value, offset⟩ halt.fault := by
  have missing (mode : before.mode? = some .code ∨ before.mode? = some .image)
      (found : before.capture value = none) :
      Refusal setup before ⟨.text value, offset⟩ ⟨.noOpenTag, offset⟩ := by
    unfold capture at found
    split at found
    · next elements => exact .noOpenTag mode elements
    · cases found
  unfold handleText at h
  split at h
  case h_1 mode =>
    cases h
    exact .noMode mode
  case h_2 mode =>
    split at h
    · cases h
    · next found =>
        cases h
        exact missing (.inl mode) found
  case h_3 mode =>
    split at h
    · cases h
    · next found =>
        cases h
        exact missing (.inr mode) found
  all_goals cases h

theorem leaveMode_error {offset : Int} {before : Document} {halt : Halt}
    (h : before.leaveMode offset = .error halt) :
    before.mode? = none ∧ halt = ⟨⟨.noModeToLeave, offset⟩, before⟩ := by
  unfold leaveMode at h
  split at h
  · next modes =>
      cases h
      exact ⟨by simp [mode?, modes], rfl⟩
  · cases h

theorem handleBacktick_refusal {setup : Setup} {offset : Int} {before : Document} {halt : Halt}
    (h : before.handleBacktick offset = .error halt) :
    Refusal setup before ⟨.backtick, offset⟩ halt.fault := by
  unfold handleBacktick at h
  split at h
  · split at h
    case h_1 mode =>
      cases h
      exact .noMode mode
    case h_3 mode =>
      obtain ⟨missing, -⟩ := leaveMode_error h
      simp [missing] at mode
    all_goals cases h
  · cases h

theorem handleOpen_refusal {setup : Setup} {tag : Tag} {offset : Int} {before : Document}
    {halt : Halt} (h : before.handleOpen setup tag = .error halt) :
    Refusal setup before ⟨.openTag tag, offset⟩ halt.fault := by
  unfold handleOpen at h
  cases pushed : before.push setup tag with
  | ok inside => simp [pushed, Except.map] at h
  | error refused =>
      simp only [pushed, Except.map, Except.error.injEq] at h
      obtain rfl := h
      obtain ⟨marks, asked, rfl⟩ := push_error pushed
      exact .repeatedContents rfl marks asked

theorem pop_error {setup : Setup} {name : Text} {offset : Int} {before : Document} {halt : Halt}
    (h : before.pop setup name offset = .error halt) :
    ((∀ element ∈ before.elements.head?, element.tag.name ≠ Tag.properName name) ∧
      halt.fault = ⟨.mismatchedClose ((before.elements.head?.map (·.tag.name)).getD [])
        (Tag.properName name), offset⟩) ∨
      ∃ element cause, before.elements.head? = some element ∧ element.role = .code ∧
        ListingRefusal setup element.tag cause ∧ halt.fault = ⟨cause, element.tag.offset⟩ := by
  unfold pop at h
  split at h
  · next elements =>
      cases h
      exact .inl ⟨by simp [elements], by simp [elements]⟩
  next element outer elements =>
  simp only at h
  split at h
  · cases closed : close setup element { before with elements := outer } with
    | ok inside => simp [closed, Except.map] at h
    | error refused =>
        simp only [closed, Except.map, Except.error.injEq] at h
        obtain rfl := h
        obtain ⟨role, cause, refusal, fault⟩ := close_error closed
        exact .inr ⟨element, cause, by simp [elements], role, refusal, fault⟩
  · next differs =>
      cases h
      exact .inl ⟨by simpa [elements] using differs, by simp [elements]⟩

theorem handleClose_refusal {setup : Setup} {name : Text} {offset : Int} {before : Document}
    {halt : Halt} (h : before.handleClose setup name offset = .error halt) :
    Refusal setup before ⟨.closeTag name, offset⟩ halt.fault := by
  unfold handleClose at h
  split at h
  · next refused popped =>
      obtain rfl := Except.error.inj h
      rcases pop_error popped with ⟨differs, fault⟩ | ⟨element, cause, head, role, refusal, fault⟩
      · exact fault ▸ .mismatched differs
      · exact fault ▸ .listing head role refusal
  next element inside popped =>
  obtain ⟨outer, elements, named, closing⟩ := pop_eq_ok popped
  have leaves (left : leaveMode offset inside = .error halt) :
      Refusal setup before ⟨.closeTag name, offset⟩ halt.fault := by
    obtain ⟨missing, rfl⟩ := leaveMode_error left
    refine .noModeToLeave ?_
    simpa only [mode?, closing.modes] using missing
  split at h
  · exact leaves h
  · exact leaves h
  · cases h

theorem handleSelfClose_refusal {setup : Setup} {tag : Tag} {offset : Int} {before : Document}
    {halt : Halt} (h : before.handleSelfClose setup tag offset = .error halt) :
    Refusal setup before ⟨.selfCloseTag tag, offset⟩ halt.fault := by
  simp only [handleSelfClose, bind, Except.bind] at h
  split at h
  · next refused pushed =>
      obtain rfl := Except.error.inj h
      obtain ⟨marks, asked, rfl⟩ := push_error pushed
      exact .repeatedContents rfl marks asked
  next inside pushed =>
  split at h
  · next refused popped =>
      obtain rfl := Except.error.inj h
      have opening := push_spec pushed
      have head : inside.elements.head? = some (before.opened setup tag.proper) := by
        rw [opening.elements, List.head?_cons]
      rcases pop_error popped with ⟨differs, -⟩ | ⟨element, cause, found, role, refusal, fault⟩
      -- The element goes by the proper name of the tag that has just opened it.
      · exact absurd tag.proper_name (differs _ head)
      · rw [head, Option.some.injEq] at found
        subst found
        exact fault ▸ .listing rfl role refusal
  · cases h

theorem refusal_of_handle {setup : Setup} {token : Token} {before : Document} {halt : Halt}
    (h : before.handle setup token = .error halt) : Refusal setup before token halt.fault := by
  obtain ⟨form, offset⟩ := token
  cases form with
  | text value => exact handleText_refusal h
  | newline => cases h
  | pipe => cases h
  | openTag tag => exact handleOpen_refusal h
  | closeTag name => exact handleClose_refusal h
  | selfCloseTag tag => exact handleSelfClose_refusal h
  | backtick => exact handleBacktick_refusal h

/-! ### What a refused token leaves -/

/-- What a closing tag that is refused leaves: everything, or everything but the innermost element,
perhaps with a notice. -/
inductive Shortened (before : Document) : Document → Prop
  | same : Shortened before before
  | innermost {element outer} (elements : before.elements = element :: outer) :
      Shortened before { before with elements := outer }
  | told {element outer} (elements : before.elements = element :: outer) (notice : Notice) :
      Shortened before ({ before with elements := outer }.tell notice)

/-- What any token that is refused leaves. A tag that closes itself may have been opened by then, and
an element that brings a mode may have been closed. -/
inductive Leftover (setup : Setup) (before : Document) : Document → Prop
  | shortened {after} (shortened : Shortened before after) : Leftover setup before after
  | opened {tag inside after} (opening : OpenSpec setup (Tag.proper tag) before inside)
      (shortened : Shortened inside after) : Leftover setup before after
  | closed {element outer after} (elements : before.elements = element :: outer)
      (closing : CloseSpec setup element { before with elements := outer } after) :
      Leftover setup before after

variable {setup : Setup} {before : Document} {halt : Halt}

/-- A listing that cannot be made leaves a notice at most. -/
theorem close_error_document {element : OpenElement}
    (h : before.close setup element = .error halt) :
    halt.document = before ∨ ∃ notice, halt.document = before.tell notice := by
  have role := (close_error h).1
  simp only [close, role] at h
  split at h
  · cases h
    exact .inl rfl
  · split at h <;> cases h
    exact .inr ⟨_, rfl⟩

theorem shortened_of_pop {name : Text} {offset : Int}
    (h : before.pop setup name offset = .error halt) : Shortened before halt.document := by
  unfold pop at h
  split at h
  · cases h
    exact .same
  next element outer elements =>
  simp only at h
  split at h
  · cases closed : close setup element { before with elements := outer } with
    | ok inside => simp [closed, Except.map] at h
    | error refused =>
        simp only [closed, Except.map, Except.error.injEq] at h
        obtain rfl := h
        rcases close_error_document closed with left | ⟨notice, left⟩
        · exact left ▸ .innermost elements
        · exact left ▸ .told elements notice
  · cases h
    exact .innermost elements

theorem handleText_error_document {value : Text} {offset : Int}
    (h : before.handleText value offset = .error halt) : halt.document = before := by
  unfold handleText at h
  split at h
  case h_1 =>
    cases h
    rfl
  case h_2 | h_3 =>
    split at h <;> cases h
    rfl
  all_goals cases h

theorem handleBacktick_error_document {offset : Int}
    (h : before.handleBacktick offset = .error halt) : halt.document = before := by
  unfold handleBacktick at h
  split at h
  · split at h
    case h_1 =>
      cases h
      rfl
    case h_3 =>
      obtain ⟨-, rfl⟩ := leaveMode_error h
      rfl
    all_goals cases h
  · cases h

theorem handleOpen_error_document {tag : Tag} (h : before.handleOpen setup tag = .error halt) :
    halt.document = before := by
  unfold handleOpen at h
  cases pushed : before.push setup tag with
  | ok inside => simp [pushed, Except.map] at h
  | error refused =>
      simp only [pushed, Except.map, Except.error.injEq] at h
      obtain rfl := h
      obtain ⟨-, -, rfl⟩ := push_error pushed
      rfl

theorem leftover_of_handleClose {name : Text} {offset : Int}
    (h : before.handleClose setup name offset = .error halt) :
    Leftover setup before halt.document := by
  unfold handleClose at h
  split at h
  · next popped =>
      cases h
      exact .shortened (shortened_of_pop popped)
  next element inside popped =>
  obtain ⟨outer, elements, -, closing⟩ := pop_eq_ok popped
  have leaves (left : leaveMode offset inside = .error halt) :
      Leftover setup before halt.document := by
    obtain ⟨-, rfl⟩ := leaveMode_error left
    exact .closed elements closing
  split at h
  · exact leaves h
  · exact leaves h
  · cases h

theorem leftover_of_handleSelfClose {tag : Tag} {offset : Int}
    (h : before.handleSelfClose setup tag offset = .error halt) :
    Leftover setup before halt.document := by
  simp only [handleSelfClose, bind, Except.bind] at h
  split at h
  · next pushed =>
      cases h
      obtain ⟨-, -, rfl⟩ := push_error pushed
      exact .shortened .same
  next inside pushed =>
  split at h
  · next popped =>
      cases h
      exact .opened (push_spec pushed) (shortened_of_pop popped)
  · cases h

theorem leftover_of_handle {token : Token} (h : before.handle setup token = .error halt) :
    Leftover setup before halt.document := by
  have unchanged (same : halt.document = before) : Leftover setup before halt.document :=
    same ▸ .shortened .same
  obtain ⟨form, offset⟩ := token
  cases form with
  | text value => exact unchanged (handleText_error_document h)
  | newline | pipe => cases h
  | openTag tag => exact unchanged (handleOpen_error_document h)
  | closeTag name => exact leftover_of_handleClose h
  | selfCloseTag tag => exact leftover_of_handleSelfClose h
  | backtick => exact unchanged (handleBacktick_error_document h)

end PageMarkup.Document
