import PageMarkup.Proofs.Contents

/-! # Comments

Inside comments the page stands still. It goes on where the outermost comment is closed. -/

namespace PageMarkup

open Compilation

namespace Document

variable {setup : Setup} {document before after : Document} {token : Token}

/-! ## Comments on the stack -/

theorem Handling.roles_eq (handling : Handling setup before token after) :
    after.roles =
      match token.form with
      | .openTag tag => tag.role :: before.roles
      | .closeTag _ => before.roles.tail
      | _ => before.roles := by
  have roles := handling.map_elements OpenElement.role fun _ _ => rfl
  obtain ⟨form, offset⟩ := token
  cases form with
  | openTag tag => exact roles.trans (congrArg (· :: before.roles) (Tag.role_proper tag))
  | text | newline | pipe | closeTag | selfCloseTag | backtick => exact roles

theorem commented_iff : document.commented = true ↔ .comment ∈ document.roles := by
  simp [commented, roles]

/-- The token closes the outermost comment. -/
def endsComments (document : Document) (token : Token) : Prop :=
  (∃ name, token.form = .closeTag name) ∧
    ∃ outer, document.roles = .comment :: outer ∧ .comment ∉ outer

/-- Nothing but its closing tag ends the outermost comment. -/
theorem Handling.endsComments_iff (handling : Handling setup before token after)
    (inside : before.commented = true) :
    after.commented = false ↔ before.endsComments token := by
  rw [commented_iff] at inside
  rw [Bool.eq_false_iff, ne_eq, commented_iff, handling.roles_eq, endsComments]
  cases form : token.form with
  | text | newline | pipe | openTag | selfCloseTag | backtick => simp [inside]
  | closeTag name =>
      cases roles : before.roles with
      | nil => simp [roles] at inside
      | cons innermost outer =>
          rw [roles, List.mem_cons] at inside
          constructor
          · intro left
            have comment : innermost = .comment := (inside.resolve_right left).symm
            exact ⟨⟨name, rfl⟩, outer, by rw [comment], left⟩
          · rintro ⟨-, outer', same, left⟩
            obtain ⟨-, rfl⟩ := List.cons.inj same
            exact left

/-! ## The page in a comment -/

/-- Nothing of the page differs: neither what it shows nor the place of its table of contents. -/
structure SamePage (before after : Document) : Prop where
  text : after.page.text = before.page.text
  mark? : after.page.mark? = before.page.mark?
  hasContents : after.hasContents = before.hasContents

theorem Handling.samePage (handling : Handling setup before token after)
    (balanced : before.Balanced) (inside : before.commented = true) : before.SamePage after := by
  have hidden : before.page.shows = false := by rw [balanced.shows_eq, inside]; rfl
  have unasked : before.asksContents token = false := by simp [asksContents, inside]
  obtain ⟨contents, mark⟩ := handling.contents balanced
  constructor
  · simp [handling.text_page, hidden]
  · simp [mark, unasked]
  · simp [contents, unasked]

/-! ### Tokens that are refused -/

theorem SamePage.refl : document.SamePage document := ⟨rfl, rfl, rfl⟩

theorem SamePage.trans {inside : Document} (first : before.SamePage inside)
    (second : inside.SamePage after) : before.SamePage after :=
  ⟨second.text.trans first.text, second.mark?.trans first.mark?,
    second.hasContents.trans first.hasContents⟩

theorem OpenSpec.samePage {tag : Tag} (opening : OpenSpec setup tag before after)
    (hidden : before.page.shows = false) : before.SamePage after := by
  have unmarked : before.marksContents tag = false := by simp [marksContents, hidden]
  constructor
  · simp [opening.text_page, hidden]
  · simp [opening.mark?_page, unmarked]
  · simp [opening.contents, unmarked]

theorem CloseSpec.samePage {element : OpenElement} {outer : List OpenElement}
    (closing : CloseSpec setup element { before with elements := outer } after)
    (hidden : before.page.shows = false) : before.SamePage after := by
  constructor
  · simp [closing.text_page, hidden]
  · exact closing.mark?_page
  · exact closing.contents

theorem Shortened.samePage (shortened : Shortened before after) : before.SamePage after := by
  cases shortened with
  | same => exact .refl
  | innermost => exact ⟨rfl, rfl, rfl⟩
  | told => exact ⟨rfl, rfl, rfl⟩

/-- A token that is refused where nothing is shown leaves the page as it was. -/
theorem Leftover.samePage (leftover : Leftover setup before after)
    (hidden : before.page.shows = false) : before.SamePage after := by
  cases leftover with
  | shortened shortened => exact shortened.samePage
  | opened opening shortened => exact (opening.samePage hidden).trans shortened.samePage
  | closed elements closing => exact closing.samePage hidden

end Document

/-! ## Runs -/

open Document

/-- Between two tokens of a run, the page counts the comments that are open, and it has what the
tokens outside comments have shown. A token inside a comment, whichever it is and whether it can be
handled or not, leaves the page as it is, and only the closing tag of the outermost comment lets the
page go on; outside comments the page takes what each token gives it. -/
theorem comments_hide_what_they_hold {setup : Setup} {source : Text} {steps : List Step}
    {last : Compilation}
    (h : (Compilation.opening setup.settings source).Reaches setup steps last) :
    last.document.page.depth =
        (last.document.elements.countP fun element => element.role = .comment : Nat) ∧
    last.document.page.text = Step.shownBy setup steps ∧
    (last.document.commented = true → ∀ token,
      (∀ halt, last.document.handle setup token = .error halt →
        last.document.SamePage halt.document) ∧
      ∀ after, last.document.handle setup token = .ok after →
        last.document.SamePage after ∧
        (after.page.shows = true ↔ last.document.endsComments token)) ∧
    (last.document.commented = false → ∀ token after,
      last.document.handle setup token = .ok after →
      after.page.text = last.document.page.text ++ last.document.fragment setup token) := by
  have balanced := h.balanced
  refine ⟨balanced, h.text_page, fun inside token => ⟨fun halt refused => ?_,
    fun after handled => ?_⟩, fun outside token after handled => ?_⟩
  · exact (leftover_of_handle refused).samePage (by rw [balanced.shows_eq, inside]; rfl)
  · have handling := handling_of_handle handled
    refine ⟨handling.samePage balanced inside, ?_⟩
    rw [(handling.balanced balanced).shows_eq, ← handling.endsComments_iff inside]
    cases after.commented <;> simp
  · rw [(handling_of_handle handled).text_page, balanced.shows_eq, outside]
    rfl

/-- A note is opened and closed inside a comment. -/
theorem note_in_comment_is_hidden :
    ∃ steps last after, (Compilation.opening {} "<comment><note>".toList).Reaches {} steps last ∧
      last.document.commented = true ∧
      last.document.handle {} ⟨.closeTag "note".toList, 15⟩ = .ok after ∧
      last.document.SamePage after := by
  have comment : Cursor.IsTagName "comment".toList := by decide
  have note : Cursor.IsTagName "note".toList := by decide
  have first := Cursor.next_writtenTag (show Mode.normal ≠ .code by decide) (by decide) false
    comment (List.forall_mem_nil _) false "<note>".toList 0
  have second := Cursor.next_writtenTag (show Mode.normal ≠ .code by decide) (by decide) false
    note (List.forall_mem_nil _) false [] 9
  have run : ∃ steps last after,
      (Compilation.opening {} "<comment><note>".toList).Reaches {} steps last ∧
        last.document.commented = true ∧
        last.document.handle {} ⟨.closeTag "note".toList, 15⟩ = .ok after :=
    ⟨_, _, _, .step (.step .refl (Compilation.advance_of_next rfl first rfl))
      (Compilation.advance_of_next rfl second rfl), rfl, rfl⟩
  obtain ⟨steps, last, after, reaches, inside, closed⟩ := run
  obtain ⟨-, -, hides, -⟩ := comments_hide_what_they_hold reaches
  exact ⟨steps, last, after, reaches, inside, closed, ((hides inside _).2 after closed).1⟩

end PageMarkup
