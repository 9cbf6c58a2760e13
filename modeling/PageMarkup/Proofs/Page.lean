import PageMarkup.Proofs.Handling.Rules
import PageMarkup.Proofs.Run

/-! # The page

The page is what the tokens outside comments show, one after another. -/

namespace PageMarkup

open Compilation

variable {setup : Setup} {source : Text} {steps : List Step} {last : Compilation}

/-! ## The page after a token -/

namespace Document

variable {before after : Document} {token : Token}

/-- A comment is open. -/
def commented (document : Document) : Bool :=
  document.elements.any fun element => element.role = .comment

/-- What a token gives to the page, outside comments or not. -/
def fragment (setup : Setup) (document : Document) (token : Token) : Text :=
  match token.form with
  | .text value =>
    match document.mode? with
    | some .normal => value
    | some .inlineCode => inlineCodeStart ++ Text.escape value ++ inlineCodeEnd
    | _ => []
  | .newline => ['\n']
  | .pipe => ['|']
  | .backtick =>
    match document.backticks, document.mode? with
    | true, some .normal | true, some .inlineCode => []
    | _, _ => ['`']
  | .openTag tag => startMarkup tag.proper document.nextNumber
  | .closeTag _ => (document.elements.head?.map (endMarkup setup)).getD []
  | .selfCloseTag tag =>
    startMarkup tag.proper document.nextNumber ++
      endMarkup setup (document.opened setup tag.proper)

theorem OpenSpec.text_page {tag : Tag} (opening : OpenSpec setup tag before after) :
    after.page.text = before.page.text ++
      if before.page.shows then startMarkup tag before.nextNumber else [] := by
  rw [opening.page]
  split
  · next marks =>
      have role : tag.role = .contents := by simp_all [marksContents]
      simp [startMarkup, role]
  · rw [Sink.text_deepen, Sink.text_emit]

theorem OpenSpec.mark?_page {tag : Tag} (opening : OpenSpec setup tag before after) :
    after.page.mark? =
      if before.marksContents tag then some before.page.text.length else before.page.mark? := by
  rw [opening.page]
  split
  · rfl
  · rw [Sink.mark?_deepen, Sink.mark?_emit]

theorem OpenSpec.depth_page {tag : Tag} (opening : OpenSpec setup tag before after) :
    after.page.depth = before.page.depth + tag.role.depth := by
  rw [opening.page]
  split
  · next marks =>
      have role : tag.role = .contents := by simp_all [marksContents]
      simp [role, Role.depth]
  · rw [Sink.depth_deepen, Sink.depth_emit]

theorem CloseSpec.text_page {element : OpenElement}
    (closing : CloseSpec setup element before after) :
    after.page.text = before.page.text ++
      if before.page.shows then endMarkup setup element else [] := by
  rw [closing.page, Sink.text_deepen, Sink.text_emit]

theorem CloseSpec.mark?_page {element : OpenElement}
    (closing : CloseSpec setup element before after) : after.page.mark? = before.page.mark? := by
  rw [closing.page, Sink.mark?_deepen, Sink.mark?_emit]

theorem CloseSpec.depth_page {element : OpenElement}
    (closing : CloseSpec setup element before after) :
    after.page.depth = before.page.depth - element.role.depth := by
  rw [closing.page, Sink.depth_deepen, Sink.depth_emit]
  omega

/-- What a tag shows that is closed at once. -/
theorem OpenSpec.text_page_close {tag : Tag} {inside : Document} {outer : List OpenElement}
    (opening : OpenSpec setup tag before inside)
    (closing : CloseSpec setup (before.opened setup tag) { inside with elements := outer } after) :
    after.page.text = before.page.text ++
      if before.page.shows then startMarkup tag before.nextNumber ++
        endMarkup setup (before.opened setup tag) else [] := by
  have closed := closing.text_page
  simp only [opening.text_page] at closed
  rw [closed, List.append_assoc]
  cases role : decide (tag.role = .comment) with
  | true =>
      -- A comment shows nothing, neither where it is opened nor where it is closed.
      have comment : tag.role = .comment := by simpa using role
      have none : endMarkup setup (before.opened setup tag) = [] := by
        have role : (before.opened setup tag).role = .comment := comment
        simp only [endMarkup, role]
      simp [none]
  | false =>
      have other : tag.role.depth = 0 := by
        cases named : tag.role <;> simp_all [Role.depth]
      have same : inside.page.shows = before.page.shows := by
        rw [Sink.shows, Sink.shows, opening.depth_page, other, Int.add_zero]
      rw [same]
      split <;> simp

theorem Handling.text_page (handling : Handling setup before token after) :
    after.page.text = before.page.text ++
      if before.page.shows then before.fragment setup token else [] := by
  cases handling with
  | text mode => simp [fragment, mode, emitText, emit, Sink.text_emit]
  | inlineCode mode => simp [fragment, mode, emitText, emit, Sink.emit_emit, Sink.text_emit]
  | captured mode => rcases mode with mode | mode <;> simp [fragment, mode]
  | newline | pipe => simp [fragment, emit, Sink.text_emit]
  | @backtick offset mark =>
      have tick : before.fragment setup ⟨.backtick, offset⟩ = ['`'] := by
        rcases mark with disabled | mode | mode
        · simp [fragment, disabled]
        · simp [fragment, mode]
        · simp [fragment, mode]
      rw [tick]
      exact Sink.text_emit _ _
  | codeStarts enabled mode => simp [fragment, enabled, mode, enterMode]
  | codeEnds enabled modes => simp [fragment, enabled, mode?, modes]
  | opens opening => exact opening.text_page
  | closes elements _ _ closing | closesCapture elements _ _ closing =>
      simp only [fragment, elements]
      exact closing.text_page
  | selfCloses opening closing => exact opening.text_page_close closing

/-! ## Comments -/

/-- The page knows how many comments are open. -/
def Balanced (document : Document) : Prop :=
  document.page.depth =
    (document.elements.countP fun element => element.role = .comment : Nat)

theorem Balanced.shows_eq {document : Document} (balanced : document.Balanced) :
    document.page.shows = !document.commented := by
  rw [Sink.shows, balanced, commented]
  cases open? : document.elements.any fun element => element.role = .comment with
  | true =>
      obtain ⟨element, mem, comment⟩ := List.any_eq_true.mp open?
      have positive : 0 < document.elements.countP fun element => element.role = .comment :=
        List.countP_pos_iff.mpr ⟨element, mem, comment⟩
      simp only [Bool.not_true, decide_eq_false_iff_not]
      omega
  | false =>
      have none := List.countP_eq_zero.mpr (List.any_eq_false.mp open?)
      simp only [none, Int.ofNat_zero, decide_true, Bool.not_false]

theorem Role.depth_eq (role : Role) : role.depth = if role = .comment then 1 else 0 := by
  cases role <;> rfl

theorem OpenSpec.balanced {tag : Tag} (opening : OpenSpec setup tag before after)
    (balanced : before.Balanced) : after.Balanced := by
  have role : (before.opened setup tag).role = tag.role := rfl
  rw [Balanced, opening.depth_page, opening.elements, List.countP_cons, balanced, role,
    Role.depth_eq]
  by_cases comment : tag.role = .comment <;> simp [comment]

theorem CloseSpec.balanced {element : OpenElement} {outer : List OpenElement}
    (closing : CloseSpec setup element { before with elements := outer } after)
    (elements : before.elements = element :: outer) (balanced : before.Balanced) :
    after.Balanced := by
  rw [Balanced, elements, List.countP_cons] at balanced
  rw [Balanced, closing.depth_page, closing.elements, balanced, Role.depth_eq]
  by_cases comment : element.role = .comment <;> simp [comment]

theorem Handling.balanced (handling : Handling setup before token after)
    (balanced : before.Balanced) : after.Balanced := by
  cases handling with
  | text | inlineCode | newline | pipe | backtick | codeStarts | codeEnds =>
      simpa [Balanced, emitText, emit, enterMode] using balanced
  | captured _ elements =>
      rw [Balanced, elements, List.countP_cons] at balanced
      rw [Balanced, List.countP_cons]
      exact balanced
  | opens opening => exact opening.balanced balanced
  | closes elements _ _ closing | closesCapture elements _ _ closing =>
      exact closing.balanced elements balanced
  | selfCloses opening closing =>
      exact closing.balanced opening.elements (opening.balanced balanced)

end Document

/-! ## Runs -/

namespace Step

/-- What the step shows: inside comments, nothing. -/
def shown (setup : Setup) (step : Step) : Text :=
  if step.document.commented then [] else step.document.fragment setup step.token

/-- What steps show, one after another. -/
def shownBy (setup : Setup) (steps : List Step) : Text := steps.flatMap (shown setup)

end Step

namespace Compilation.Reaches

open Document

theorem balanced (h : (opening setup.settings source).Reaches setup steps last) :
    last.document.Balanced := by
  refine h.invariant (fun here => here.document.Balanced) (fun handled balanced => ?_) rfl
  exact (handling_of_handled handled).balanced balanced

/-- The page is what the steps have shown. -/
theorem text_page (h : (opening setup.settings source).Reaches setup steps last) :
    last.document.page.text = Step.shownBy setup steps := by
  induction h with
  | refl => rfl
  | step earlier handled ih =>
      have handling := handling_of_handled handled
      rw [handling.text_page, ih, earlier.balanced.shows_eq, Step.shownBy, Step.shownBy,
        List.flatMap_append, List.flatMap_singleton, Step.shown]
      cases Document.commented _ <;> rfl

end Compilation.Reaches

end PageMarkup
