import PageMarkup.Proofs.Handling.Parts
import PageMarkup.Proofs.Run

/-! The ways in which a token can be handled. -/

namespace PageMarkup

namespace Document

/-- One rule for each way in which a token can be handled. The rules do not invoke the handlers. -/
inductive Handling (setup : Setup) (before : Document) : Token → Document → Prop
  | text {value offset} (mode : before.mode? = some .normal) :
      Handling setup before ⟨.text value, offset⟩ (before.emitText value)
  | inlineCode {value offset} (mode : before.mode? = some .inlineCode) :
      Handling setup before ⟨.text value, offset⟩
        (((before.emit inlineCodeStart).emitText (Text.escape value)).emit inlineCodeEnd)
  | captured {value offset element outer}
      (mode : before.mode? = some .code ∨ before.mode? = some .image)
      (elements : before.elements = element :: outer) :
      Handling setup before ⟨.text value, offset⟩
        { before with elements := { element with content := element.content ++ value } :: outer }
  | newline {offset} : Handling setup before ⟨.newline, offset⟩ (before.emit ['\n'])
  | pipe {offset} : Handling setup before ⟨.pipe, offset⟩ (before.emit ['|'])
  | backtick {offset} (mark : before.backticks = false ∨ before.mode? = some .code ∨
      before.mode? = some .image) :
      Handling setup before ⟨.backtick, offset⟩ (before.emit ['`'])
  | codeStarts {offset} (enabled : before.backticks = true) (mode : before.mode? = some .normal) :
      Handling setup before ⟨.backtick, offset⟩ (before.enterMode .inlineCode)
  | codeEnds {offset outer} (enabled : before.backticks = true)
      (modes : before.modes = .inlineCode :: outer) :
      Handling setup before ⟨.backtick, offset⟩ { before with modes := outer }
  | opens {tag offset inside} (opening : OpenSpec setup tag.proper before inside) :
      Handling setup before ⟨.openTag tag, offset⟩
        { inside with modes := tag.proper.role.captureMode?.toList ++ inside.modes }
  | closes {name offset element outer after} (elements : before.elements = element :: outer)
      (named : element.tag.name = Tag.properName name) (brought : element.role.captureMode? = none)
      (closing : CloseSpec setup element { before with elements := outer } after) :
      Handling setup before ⟨.closeTag name, offset⟩ after
  | closesCapture {name offset element outer after mode modes}
      (elements : before.elements = element :: outer)
      (named : element.tag.name = Tag.properName name) (brought : element.role.captureMode? ≠ none)
      (closing : CloseSpec setup element { before with elements := outer } after)
      (leaves : before.modes = mode :: modes) :
      Handling setup before ⟨.closeTag name, offset⟩ { after with modes }
  | selfCloses {tag offset inside after} (opening : OpenSpec setup tag.proper before inside)
      (closing : CloseSpec setup (before.opened setup tag.proper)
        { inside with elements := before.elements } after) :
      Handling setup before ⟨.selfCloseTag tag, offset⟩ after

theorem capture_eq_some {text : Text} {before after : Document}
    (h : before.capture text = some after) :
    ∃ element outer, before.elements = element :: outer ∧ after =
      { before with elements := { element with content := element.content ++ text } :: outer } := by
  unfold capture at h
  split at h
  · cases h
  · next element outer elements => exact ⟨element, outer, elements, (Option.some.inj h).symm⟩

theorem handleText_handling {setup : Setup} {value : Text} {offset : Int} {before after : Document}
    (h : before.handleText value offset = .ok after) :
    Handling setup before ⟨.text value, offset⟩ after := by
  have captured (mode : before.mode? = some .code ∨ before.mode? = some .image)
      (found : before.capture value = some after) :
      Handling setup before ⟨.text value, offset⟩ after := by
    obtain ⟨element, outer, elements, rfl⟩ := capture_eq_some found
    exact .captured mode elements
  unfold handleText at h
  split at h
  case h_1 => cases h
  case h_2 mode =>
    split at h
    · next found =>
        obtain rfl := Except.ok.inj h
        exact captured (.inl mode) found
    · cases h
  case h_3 mode =>
    split at h
    · next found =>
        obtain rfl := Except.ok.inj h
        exact captured (.inr mode) found
    · cases h
  case h_4 mode =>
    obtain rfl := Except.ok.inj h
    exact .inlineCode mode
  case h_5 mode =>
    obtain rfl := Except.ok.inj h
    exact .text mode

theorem handleBacktick_handling {setup : Setup} {offset : Int} {before after : Document}
    (h : before.handleBacktick offset = .ok after) :
    Handling setup before ⟨.backtick, offset⟩ after := by
  unfold handleBacktick at h
  split at h
  · next enabled =>
      split at h
      case h_1 => cases h
      case h_2 mode =>
        obtain rfl := Except.ok.inj h
        exact .codeStarts enabled mode
      case h_3 mode =>
        unfold leaveMode at h
        split at h
        · cases h
        · next inner outer modes =>
            obtain rfl := Except.ok.inj h
            simp only [mode?, modes, List.head?_cons, Option.some.injEq] at mode
            exact .codeEnds enabled (mode ▸ modes)
      case h_4 mode =>
        obtain rfl := Except.ok.inj h
        exact .backtick (.inr (.inl mode))
      case h_5 mode =>
        obtain rfl := Except.ok.inj h
        exact .backtick (.inr (.inr mode))
  · next disabled =>
      obtain rfl := Except.ok.inj h
      exact .backtick (.inl (by simpa using disabled))

theorem handleOpen_handling {setup : Setup} {tag : Tag} {offset : Int} {before after : Document}
    (h : before.handleOpen setup tag = .ok after) :
    Handling setup before ⟨.openTag tag, offset⟩ after := by
  unfold handleOpen at h
  cases pushed : before.push setup tag with
  | error halt => simp [pushed, Except.map] at h
  | ok inside =>
      have same : after =
          { inside with modes := tag.proper.role.captureMode?.toList ++ inside.modes } := by
        simp only [pushed, Except.map, Except.ok.injEq] at h
        cases role : tag.proper.role <;> simp_all [Role.captureMode?, enterMode]
      exact same ▸ .opens (push_spec pushed)

theorem handleClose_handling {setup : Setup} {name : Text} {offset : Int} {before after : Document}
    (h : before.handleClose setup name offset = .ok after) :
    Handling setup before ⟨.closeTag name, offset⟩ after := by
  unfold handleClose at h
  split at h
  · cases h
  next element inside popped =>
  obtain ⟨outer, elements, named, closing⟩ := pop_eq_ok popped
  -- Leaving the mode of the content is the one thing that is left to do.
  have leaves (left : leaveMode offset inside = .ok after)
      (brought : element.role.captureMode? ≠ none) :
      Handling setup before ⟨.closeTag name, offset⟩ after := by
    unfold leaveMode at left
    split at left
    · cases left
    · next modes =>
        obtain rfl := Except.ok.inj left
        exact .closesCapture elements named brought closing (closing.modes ▸ modes)
  split at h
  · next role => exact leaves h (by simp [role, Role.captureMode?])
  · next role => exact leaves h (by simp [role, Role.captureMode?])
  · next other other' =>
      obtain rfl := Except.ok.inj h
      refine .closes elements named ?_ closing
      cases role : element.role <;> simp_all [Role.captureMode?]

theorem handleSelfClose_handling {setup : Setup} {tag : Tag} {offset : Int}
    {before after : Document} (h : before.handleSelfClose setup tag offset = .ok after) :
    Handling setup before ⟨.selfCloseTag tag, offset⟩ after := by
  simp only [handleSelfClose, bind, Except.bind] at h
  split at h
  · cases h
  next inside pushed =>
  split at h
  · cases h
  next popped =>
  obtain rfl := Except.ok.inj h
  have opening := push_spec pushed
  obtain ⟨outer, elements, -, closing⟩ := pop_eq_ok popped
  rw [opening.elements, List.cons.injEq] at elements
  obtain ⟨same, rfl⟩ := elements
  exact .selfCloses opening (same ▸ closing)

theorem handling_of_handle {setup : Setup} {token : Token} {before after : Document}
    (h : before.handle setup token = .ok after) : Handling setup before token after := by
  obtain ⟨form, offset⟩ := token
  cases form with
  | text value => exact handleText_handling h
  | newline => exact Except.ok.inj h ▸ .newline
  | pipe => exact Except.ok.inj h ▸ .pipe
  | openTag tag => exact handleOpen_handling h
  | closeTag name => exact handleClose_handling h
  | selfCloseTag tag => exact handleSelfClose_handling h
  | backtick => exact handleBacktick_handling h

/-- Only opening and closing tags change which elements are open. All else at most adds to the
content of one. -/
theorem Handling.map_elements {β : Type} {setup : Setup} {before after : Document} {token : Token}
    (handling : Handling setup before token after) (view : OpenElement → β)
    (blind : ∀ element content, view { element with content } = view element) :
    after.elements.map view =
      match token.form with
      | .openTag tag => view (before.opened setup tag.proper) :: before.elements.map view
      | .closeTag _ => (before.elements.map view).tail
      | _ => before.elements.map view := by
  cases handling with
  | text | inlineCode | newline | pipe | backtick | codeStarts | codeEnds => rfl
  | captured _ elements => simp only [elements, List.map_cons, blind]
  | opens opening => simp only [opening.elements, List.map_cons]
  | closes elements _ _ closing | closesCapture elements _ _ closing =>
      simp only [closing.elements, elements, List.map_cons, List.tail_cons]
  | selfCloses _ closing => simp only [closing.elements]

end Document

theorem Compilation.handling_of_handled {setup : Setup} {before after : Compilation} {token : Token}
    (h : before.advance setup = .handled token after) :
    Document.Handling setup before.document token after.document :=
  Document.handling_of_handle (advance_eq_handled_iff.mp h).2

end PageMarkup
