import PageMarkup.Proofs.Alike
import PageMarkup.Proofs.Bookmarks.Labels
import PageMarkup.Proofs.Comments
import PageMarkup.Proofs.Matching

/-! # What comments hold

A comment leaves the document as it was, and an empty one would have done as well: nothing that it
holds is shown, and the rest of the source is read as if it were not there. Only bookmarks and the
tags for backticks reach beyond a comment. -/

namespace PageMarkup

open Compilation PageMarkup.Bracket

/-- What an element of the role does lasts when it is closed, shown or not. -/
def Role.lasts : Role → Bool
  | .bookmark | .backticksOn | .backticksOff => true
  | _ => false

theorem Role.lasts_eq_false_iff {role : Role} :
    role.lasts = false ↔ role ≠ .bookmark ∧ role ≠ .backticksOn ∧ role ≠ .backticksOff := by
  cases role <;> simp [Role.lasts]

namespace Document

variable {setup : Setup} {document before after : Document} {token : Token}

/-! ## Records -/

/-- Nothing differs of what the document keeps besides the page and the open elements. -/
structure SameRecords (before after : Document) : Prop where
  bookmarks : after.bookmarks = before.bookmarks
  captures : after.captures = before.captures
  number : after.nextNumber = before.nextNumber
  backticks : after.backticks = before.backticks

theorem SameRecords.refl : document.SameRecords document := ⟨rfl, rfl, rfl, rfl⟩

theorem SameRecords.trans {inside : Document} (first : before.SameRecords inside)
    (second : inside.SameRecords after) : before.SameRecords after :=
  ⟨second.bookmarks.trans first.bookmarks, second.captures.trans first.captures,
    second.number.trans first.number, second.backticks.trans first.backticks⟩

theorem SameRecords.with_modes (same : before.SameRecords after) (modes : List Mode) :
    before.SameRecords { after with modes } :=
  ⟨same.bookmarks, same.captures, same.number, same.backticks⟩

theorem OpenSpec.sameRecords {tag : Tag} (opening : OpenSpec setup tag before after)
    (passing : tag.role.lasts = false) : before.SameRecords after := by
  have other : tag.role ≠ .bookmark := by
    intro role
    simp [role, Role.lasts] at passing
  constructor
  · rw [opening.bookmarks, newBookmarks, if_neg other, List.append_nil]
  · rw [opening.captures, capturesInside, if_neg other]
  · simp [opening.number, takesNumber, other]
  · exact opening.backticks

theorem CloseSpec.sameRecords {element : OpenElement} {outer : List OpenElement}
    (closing : CloseSpec setup element { before with elements := outer } after)
    (passing : element.role.lasts = false) : before.SameRecords after := by
  have other : element.recorded? = none := by
    rw [OpenElement.recorded?, if_neg]
    intro role
    simp [role, Role.lasts] at passing
  constructor
  · rw [closing.labels, labelled, other]
  · rw [closing.captures, capturesOutside, other]
  · exact closing.number
  · rw [closing.backticks]
    cases role : element.role <;> simp_all [Role.lasts, Role.backticksAfter]

/-- A token keeps the records where no bookmark is open, if neither the tag that it opens nor the
element that it closes lasts. -/
theorem Handling.sameRecords (handling : Handling setup before token after)
    (silent : before.captures = []) (opens : ∀ tag ∈ token.opens?, tag.role.lasts = false)
    (closes : ∀ element ∈ before.elements.head?, element.role.lasts = false) :
    before.SameRecords after := by
  cases handling with
  | text | inlineCode =>
      exact ⟨rfl, by simp [emitText, emit, silent], rfl, rfl⟩
  | captured | newline | pipe | backtick | codeStarts | codeEnds => exact ⟨rfl, rfl, rfl, rfl⟩
  | @opens tag _ _ opening =>
      exact (opening.sameRecords (Tag.role_proper tag ▸ opens tag rfl)).with_modes _
  | closes elements _ _ closing =>
      exact closing.sameRecords (closes _ (by rw [elements]; rfl))
  | closesCapture elements _ _ closing =>
      exact (closing.sameRecords (closes _ (by rw [elements]; rfl))).with_modes _
  | @selfCloses tag _ inside _ opening closing =>
      have passing : tag.proper.role.lasts = false := Tag.role_proper tag ▸ opens tag rfl
      exact (opening.sameRecords passing).trans (closing.sameRecords passing)

/-- With no bookmark open, no text is recorded. -/
theorem captures_eq_nil (confined : document.ledger.Confined)
    (closed : document.openBookmarks = []) : document.captures = [] := by
  have none : document.ledger.openIds = [] := by
    rw [openIds_ledger, List.filterMap_eq_nil_iff]
    intro element mem
    rw [OpenElement.recorded?, if_neg]
    intro role
    have found : element ∈ document.openBookmarks := List.mem_filter.mpr ⟨mem, by simpa using role⟩
    simp [closed] at found
  rw [← List.map_eq_nil_iff, List.eq_nil_iff_forall_not_mem]
  intro id mem
  have known := confined id mem
  simp [none] at known

/-! ## The document around a comment -/

/-- Nothing differs but the open elements and their modes. -/
structure StandsStill (before after : Document) : Prop where
  page : before.SamePage after
  records : before.SameRecords after

theorem StandsStill.refl : document.StandsStill document := ⟨.refl, .refl⟩

theorem StandsStill.trans {inside : Document} (first : before.StandsStill inside)
    (second : inside.StandsStill after) : before.StandsStill after :=
  ⟨first.page.trans second.page, first.records.trans second.records⟩

theorem StandsStill.with_modes (still : before.StandsStill after) (modes : List Mode) :
    before.StandsStill { after with modes } :=
  ⟨⟨still.page.text, still.page.mark?, still.page.hasContents⟩, still.records.with_modes modes⟩

theorem OpenSpec.samePage_of_comment {tag : Tag} (opening : OpenSpec setup tag before after)
    (role : tag.role = .comment) : before.SamePage after := by
  have unmarked : before.marksContents tag = false := by simp [marksContents, role]
  constructor
  · simp [opening.text_page, startMarkup, role]
  · simp [opening.mark?_page, unmarked]
  · simp [opening.contents, unmarked]

theorem Handling.opens_comment {tag : Tag} {offset : Int}
    (handling : Handling setup before ⟨.openTag tag, offset⟩ after) (role : tag.role = .comment) :
    after.elements = before.opened setup tag.proper :: before.elements ∧
      before.StandsStill after := by
  obtain ⟨inside, opening, same⟩ := handling.opening
  have role : tag.proper.role = .comment := by rw [Tag.role_proper, role]
  have passing : tag.proper.role.lasts = false := by
    rw [role]
    rfl
  rw [same]
  exact ⟨opening.elements, StandsStill.with_modes
    ⟨opening.samePage_of_comment role, opening.sameRecords passing⟩ _⟩

/-- Closing an element that brings no mode changes none. -/
theorem Handling.modes_of_close {name : Text} {offset : Int} {element : OpenElement}
    {outer : List OpenElement} (handling : Handling setup before ⟨.closeTag name, offset⟩ after)
    (elements : before.elements = element :: outer) (plain : element.role.captureMode? = none) :
    after.modes = before.modes := by
  cases handling with
  | closes _ _ _ closing => exact closing.modes
  | closesCapture found _ brought =>
      obtain ⟨rfl, -⟩ := List.cons.inj (elements.symm.trans found)
      exact absurd plain brought

theorem Handling.closes_comment {name : Text} {offset : Int} {element : OpenElement}
    {outer : List OpenElement} (handling : Handling setup before ⟨.closeTag name, offset⟩ after)
    (elements : before.elements = element :: outer) (role : element.role = .comment)
    (balanced : before.Balanced) (silent : before.captures = []) :
    after.elements = outer ∧ after.modes = before.modes ∧
      element.tag.name = Tag.properName name ∧ before.StandsStill after := by
  have commented : before.commented = true := by simp [Document.commented, elements, role]
  have passing : ∀ element ∈ before.elements.head?, element.role.lasts = false := by
    intro innermost head
    rw [elements] at head
    obtain rfl : element = innermost := Option.some.inj head
    rw [role]
    rfl
  have still : before.StandsStill after :=
    ⟨handling.samePage balanced commented,
      handling.sameRecords silent (by simp [Token.opens?]) passing⟩
  have modes : after.modes = before.modes := handling.modes_of_close elements (by rw [role]; rfl)
  obtain ⟨innermost, others, inside, found, named, closing, same⟩ := handling.closing
  obtain ⟨rfl, rfl⟩ := List.cons.inj (elements.symm.trans found)
  refine ⟨?_, modes, named, still⟩
  rw [same]
  exact closing.elements

/-- The same page with the same elements open. -/
theorem SamePage.page_eq (same : before.SamePage after) (balanced : before.Balanced)
    (balanced' : after.Balanced) (elements : after.elements = before.elements) :
    after.page = before.page := by
  have depth : after.page.depth = before.page.depth := by rw [balanced', elements, ← balanced]
  have reversed : after.page.reversed = before.page.reversed :=
    List.reverse_inj.mp same.text
  have mark := same.mark?
  generalize after.page = page at *
  generalize before.page = page' at *
  cases page
  cases page'
  simp_all

theorem StandsStill.unplaced_eq (still : before.StandsStill after) (balanced : before.Balanced)
    (balanced' : after.Balanced) (elements : after.elements = before.elements)
    (modes : after.modes = before.modes) : after.unplaced = before.unplaced := by
  have page := still.page.page_eq balanced balanced' elements
  obtain ⟨bookmarks, captures, number, backticks⟩ := still.records
  simp only [unplaced, elements, modes, page, still.page.hasContents, bookmarks, captures, number,
    backticks]

/-- The modes inside a comment are those around it. -/
theorem Coherent.modes_of_comment {element : OpenElement} (coherent : before.Coherent)
    (inline : before.mode? ≠ some .inlineCode) (coherent' : after.Coherent)
    (inline' : after.mode? ≠ some .inlineCode) (role : element.role = .comment)
    (elements : after.elements = element :: before.elements) : after.modes = before.modes := by
  have brought : after.captureModes = before.captureModes := by
    rw [captureModes, captureModes, roles, roles, elements, List.map_cons, role]
    rfl
  rw [(coherent'.of_ne inline').1, (coherent.of_ne inline).1, brought]

/-- An empty comment does nothing. -/
theorem handle_emptyComment (setup : Setup) (document : Document) (attributes : Attributes)
    (place offset : Int) :
    document.handle setup ⟨.selfCloseTag ⟨"comment".toList, attributes, place⟩, offset⟩ =
      .ok document := by
  have proper : (⟨"comment".toList, attributes, place⟩ : Tag).proper =
      ⟨"comment".toList, attributes, place⟩ :=
    Tag.proper_eq_self (show Role.ofName "comment".toList ≠ .element by decide)
  have pushed : document.push setup ⟨"comment".toList, attributes, place⟩ =
      .ok ((document.deepen 1).enter ⟨"comment".toList, attributes, place⟩ none) := by
    unfold push
    rw [proper]
    rfl
  have popped : ((document.deepen 1).enter ⟨"comment".toList, attributes, place⟩ none).pop setup
      "comment".toList offset =
      .ok (⟨⟨"comment".toList, attributes, place⟩, [], none⟩,
        (document.deepen 1).deepen (-1)) := rfl
  have level : (document.deepen 1).deepen (-1) = document := by
    simp only [deepen, Sink.deepen, Int.add_neg_cancel_right]
  simp only [handle, handleSelfClose, pushed, popped, level, bind, Except.bind, pure, Except.pure]

end Document

/-! ## Runs -/

open Document

/-- What the brackets leave open has been opened by one of the steps. -/
theorem Step.exists_opening {steps : List Step} {inner : List OpenElement} {element : OpenElement}
    (leaves : Leaves Tag.ClosedBy (Step.brackets steps) (inner.map OpenElement.tag))
    (mem : element ∈ inner) :
    ∃ step ∈ steps, ∃ tag, step.token.opens? = some tag ∧ element.role = tag.role := by
  have opened := leaves.mem_opens (List.mem_map_of_mem mem)
  obtain ⟨step, within, opens⟩ := List.mem_flatMap.mp opened
  refine ⟨step, within, ?_⟩
  obtain ⟨document, form, offset⟩ := step
  cases form with
  | openTag tag | selfCloseTag tag =>
      have proper : element.tag = tag.proper := by simpa [Token.brackets] using opens
      refine ⟨tag, rfl, ?_⟩
      rw [OpenElement.role, proper, Tag.role_proper]
  | text | newline | pipe | closeTag | backtick => simp [Token.brackets] at opens

namespace Compilation.Reaches

variable {setup : Setup} {steps more : List Step} {first last : Compilation}
  {element : OpenElement} {outer : List OpenElement}

/-- Steps whose tags all have their partners leave the innermost element open. -/
theorem holds (h : first.Reaches setup steps last)
    (elements : first.document.elements = element :: outer)
    (nested : Nested Tag.ClosedBy (Step.brackets (steps ++ more))) :
    ∃ inner late, last.document.elements = inner ++ late :: outer ∧ element.Grows late ∧
      Leaves Tag.ClosedBy (Step.brackets steps) (inner.map OpenElement.tag) := by
  rcases h.holds_or_closes elements with held | ⟨front, closes, back, -, rfl, whole, closing, -⟩
  · exact held
  · obtain ⟨name, form, -⟩ := closing
    have leaves := Leaves.nested nested
    have brackets : closes.token.brackets = [.closes (Tag.properName name)] := by
      simp only [Token.brackets, form]
    rw [List.append_assoc, List.cons_append, Step.brackets_append, Step.brackets_cons,
      brackets] at leaves
    exact absurd leaves whole.not_leaves_closes

/-- Inside a comment the document stands still, if no tag reaches beyond the comment. -/
theorem in_comment (h : first.Reaches setup steps last)
    (elements : first.document.elements = element :: outer) (comment : element.role = .comment)
    (balanced : first.document.Balanced) (silent : first.document.captures = [])
    (nested : Nested Tag.ClosedBy (Step.brackets (steps ++ more)))
    (passing : ∀ step ∈ steps, ∀ tag ∈ step.token.opens?, tag.role.lasts = false) :
    last.document.Balanced ∧ first.document.StandsStill last.document := by
  induction h generalizing more with
  | refl => exact ⟨balanced, .refl⟩
  | @step steps here token after earlier handled ih =>
      rw [List.append_assoc] at nested
      obtain ⟨balance, still⟩ := ih nested fun step mem =>
        passing step (List.mem_append_left _ mem)
      obtain ⟨inner, late, held, grows, leaves⟩ := earlier.holds elements nested
      have handling := handling_of_handled handled
      have role : late.role = .comment := by
        rw [OpenElement.role, grows.tag]
        exact comment
      have commented : here.document.commented = true := by
        simp [Document.commented, held, role]
      have opens : ∀ tag ∈ token.opens?, tag.role.lasts = false :=
        passing ⟨here.document, token⟩ (by simp)
      have closes : ∀ element ∈ here.document.elements.head?, element.role.lasts = false := by
        intro innermost head
        rw [held] at head
        cases inner with
        | nil =>
            obtain rfl : late = innermost := Option.some.inj head
            rw [role]
            rfl
        | cons first inner =>
            obtain rfl : first = innermost := Option.some.inj head
            obtain ⟨step, mem, tag, opened, same⟩ :=
              Step.exists_opening leaves List.mem_cons_self
            rw [same]
            exact passing step (List.mem_append_left _ mem) tag opened
      exact ⟨handling.balanced balance, still.trans ⟨handling.samePage balance commented,
        handling.sameRecords (still.records.captures.trans silent) opens closes⟩⟩

/-- A whole body of a comment leaves nothing open inside. -/
theorem through_comment (h : first.Reaches setup steps last)
    (elements : first.document.elements = element :: outer) (comment : element.role = .comment)
    (balanced : first.document.Balanced) (silent : first.document.captures = [])
    (nested : Nested Tag.ClosedBy (Step.brackets steps))
    (passing : ∀ step ∈ steps, ∀ tag ∈ step.token.opens?, tag.role.lasts = false) :
    ∃ late, last.document.elements = late :: outer ∧ late.tag = element.tag ∧
      last.document.Balanced ∧ first.document.StandsStill last.document := by
  have whole : Nested Tag.ClosedBy (Step.brackets (steps ++ [])) := by
    rw [List.append_nil]
    exact nested
  obtain ⟨inner, late, held, grows, leaves⟩ := h.holds elements whole
  obtain rfl : inner = [] := List.map_eq_nil_iff.mp (leaves.unique (.nested nested))
  exact ⟨late, held, grows.tag, h.in_comment elements comment balanced silent whole passing⟩

theorem confined {source : Text} (h : (opening setup.settings source).Reaches setup steps last) :
    last.document.ledger.Confined := by
  refine h.invariant (fun here => here.document.ledger.Confined) ?_ (List.forall_mem_nil _)
  intro before after token handled confined
  rw [(handling_of_handled handled).ledger]
  obtain ⟨form, offset⟩ := token
  cases form with
  | openTag tag => exact confined.enter _
  | closeTag => exact confined.leave
  | selfCloseTag tag => exact (confined.enter _).leave
  | text | newline | pipe | backtick => exact confined.speak _

/-- A comment that is closed leaves the document as it was. -/
theorem unplaced_eq_of_comment {source : Text} {front inner : List Step}
    {before opened here last : Compilation} {tag : Tag} {name : Text} {offset offset' : Int}
    (earlier : (opening setup.settings source).Reaches setup front before)
    (opens : before.advance setup = .handled ⟨.openTag tag, offset⟩ opened)
    (comment : tag.role = .comment) (body : opened.Reaches setup inner here)
    (closes : here.advance setup = .handled ⟨.closeTag name, offset'⟩ last)
    (nested : Nested Tag.ClosedBy (Step.brackets inner))
    (closed : before.document.openBookmarks = [])
    (passing : ∀ step ∈ inner, ∀ tag ∈ step.token.opens?, tag.role.lasts = false) :
    Tag.properName name = tag.name ∧ last.document.unplaced = before.document.unplaced := by
  have proper : tag.proper = tag := Tag.proper_eq_self (by simp [comment])
  have silent : before.document.captures = [] := captures_eq_nil earlier.confined closed
  have begun := earlier.step opens
  obtain ⟨elements, still⟩ := (handling_of_handled opens).opens_comment comment
  have role : (before.document.opened setup tag.proper).role = .comment := by
    rw [proper]
    exact comment
  obtain ⟨late, held, same, balanced, still'⟩ := body.through_comment elements role begun.balanced
    (still.records.captures.trans silent) nested passing
  have comment' : late.role = .comment := by
    rw [OpenElement.role, same]
    exact role
  obtain ⟨elements', modes', named, still''⟩ := (handling_of_handled closes).closes_comment held
    comment' balanced ((still.trans still').records.captures.trans silent)
  have modes : here.document.modes = before.document.modes :=
    earlier.coherent.modes_of_comment (mode?_ne_of_handled opens (by simp [Mode.Brings]))
      (begun.append body).coherent (mode?_ne_of_handled closes (by simp [Mode.Brings]))
      comment' held
  have balanced' : last.document.Balanced := (handling_of_handled closes).balanced balanced
  refine ⟨?_, ((still.trans still').trans still'').unplaced_eq earlier.balanced balanced' elements'
    (modes'.trans modes)⟩
  rw [← named, same]
  exact congrArg Tag.name proper

end Compilation.Reaches

/-! ## Pages -/

/-- With an empty comment in place of one that is opened, what follows is compiled from where the
comment was opened. -/
theorem ending_of_emptyComment {setup : Setup} {before tail behind : Text} {front : List Step}
    {outside : Compilation} {mode : Mode}
    (earlier : (opening setup.settings (before ++ ("<comment>".toList ++ tail))).Reaches setup
      front outside)
    (ends : outside.cursor.rest = "<comment>".toList ++ tail)
    (current : outside.document.mode? = some mode) (code : mode ≠ .code)
    (inline : mode ≠ .inlineCode) (place : Nat) :
    ending ((opening setup.settings (before ++ "<comment/>".toList ++ behind)).run setup) =
      ending ((⟨⟨behind, place⟩, outside.document⟩ : Compilation).run setup) := by
  have named : Cursor.IsTagName "comment".toList := by decide
  have alike (front : Text) : Text.EndsAlike (front ++ ("<comment>".toList ++ tail))
      (front ++ ("<comment/>".toList ++ behind)) :=
    .before_tag (show 'c' ≠ '/' by decide) front ("omment>".toList ++ tail)
      ("comment/>".toList ++ behind)
  have empty := Cursor.next_writtenTag code inline outside.document.backticks named
    (List.forall_mem_nil _) true behind outside.cursor.offset
  have passed := advance_of_next current empty (handle_emptyComment setup outside.document _ _ _)
  rw [List.append_assoc, earlier.ending_before alike ends]
  exact (congrArg ending (run_of_handled passed)).trans (Alike.ending_run ⟨rfl, rfl⟩)

/-- A comment might as well be empty. Where it is opened with no bookmark open and closed by the
tag that is its partner, and nothing in it opens a bookmark or changes the meaning of backticks,
there is the same page with an empty comment in its place. -/
theorem comments_leave_no_trace_of_what_they_hold {setup : Setup}
    {before body behind page : Text} {front inner : List Step} {opens closes : Step}
    {last : Compilation}
    (run : (opening setup.settings
        (before ++ "<comment>".toList ++ body ++ "</comment>".toList ++ behind)).Reaches setup
      (front ++ opens :: (inner ++ [closes])) last)
    (starts : opens.token.form.kind = .openTag ∧ opens.token.offset = before.length)
    (ends : closes.token.form.kind = .closeTag ∧
      closes.token.offset = (before ++ "<comment>".toList ++ body).length)
    (matched : Nested Tag.ClosedBy (Step.brackets inner))
    (closed : opens.document.openBookmarks = [])
    (passing : ∀ step ∈ inner, ∀ tag ∈ step.token.opens?,
      tag.role ≠ .bookmark ∧ tag.role ≠ .backticksOn ∧ tag.role ≠ .backticksOff) :
    compileWith setup
        (before ++ "<comment>".toList ++ body ++ "</comment>".toList ++ behind) = .ok page ↔
      compileWith setup (before ++ "<comment/>".toList ++ behind) = .ok page := by
  have named : Cursor.IsTagName "comment".toList := by decide
  obtain ⟨outside, inside, earlier, sameOutside, opening, later⟩ := run.at_step
  obtain ⟨here, after, within, -, closing, done⟩ := later.at_step
  have whole : before ++ "<comment>".toList ++ body ++ "</comment>".toList ++ behind =
      before ++ (Cursor.writtenTag "comment".toList [] false ++
        (body ++ "</comment>".toList ++ behind)) := by
    simp only [List.append_assoc]
    rfl
  have whole' : before ++ "<comment>".toList ++ body ++ "</comment>".toList ++ behind =
      (before ++ "<comment>".toList ++ body) ++
        (Cursor.writtenClose "comment".toList ++ behind) := by
    simp only [List.append_assoc]
    rfl
  -- The comment is opened where it is written.
  obtain ⟨code, inline⟩ := Token.Form.not_brought_of_openTag starts.1
  obtain ⟨started, tag, -⟩ := Reaches.reads_writtenTag (whole ▸ earlier)
    (advance_eq_handled_iff.mp opening).1 starts.2 code inline named (List.forall_mem_nil _)
  rw [tag] at opening
  -- It is closed where that is written.
  obtain ⟨name, close⟩ := Token.eq_of_closeTag ends.1
  rw [close] at closing
  obtain ⟨called, same⟩ := earlier.unplaced_eq_of_comment opening
    (show Role.ofName "comment".toList = .comment by decide) within closing matched
    (sameOutside ▸ closed) fun step mem tag opens =>
      Role.lasts_eq_false_iff.mpr (passing step mem tag opens)
  have other : name ≠ "code".toList := by
    rintro rfl
    exact absurd called (show Tag.properName "code".toList ≠ "comment".toList by decide)
  obtain ⟨code', inline'⟩ := Token.Form.not_brought_of_closeTag other
  have reached := (earlier.step opening).append within
  obtain ⟨-, -, left⟩ := Reaches.reads_writtenClose (whole' ▸ reached)
    (advance_eq_handled_iff.mp closing).1 ends.2 code' inline' named.1
  -- Behind it the same is read as behind an empty one.
  obtain ⟨mode, current, notCode, notInline, -⟩ :=
    (advance_eq_handled_iff.mp opening).1.exists_mode (tag ▸ code) (tag ▸ inline)
  have empty := @ending_of_emptyComment setup before _ behind front outside mode
    (whole ▸ earlier) (by rw [started]; rfl) current notCode notInline after.cursor.offset
  have alike : Alike after ⟨⟨behind, after.cursor.offset⟩, outside.document⟩ :=
    ⟨by rw [left], same⟩
  have ran := congrArg ending (reached.step closing).run_eq
  exact compileWith_eq_ok_iff_of_ending (ran.trans (alike.ending_run.trans empty.symm))

/-- The comment holds an image, which leaves no trace. -/
theorem image_in_comment_leaves_no_trace :
    compileWith {} "<b><comment><image></image></comment></b>".toList = .ok "<b></b>".toList ∧
      compileWith {} "<b><comment/></b>".toList = .ok "<b></b>".toList := by
  have bold : Cursor.IsTagName ['b'] := by decide
  have comment : Cursor.IsTagName "comment".toList := by decide
  have image : Cursor.IsTagName "image".toList := by decide
  have normal : Mode.normal ≠ .code ∧ Mode.normal ≠ .inlineCode := by decide
  have address : Mode.image ≠ .code ∧ Mode.image ≠ .inlineCode := by decide
  have starts := Cursor.next_writtenTag normal.1 normal.2 false bold (List.forall_mem_nil _) false
    "<comment><image></image></comment></b>".toList 0
  have hides := Cursor.next_writtenTag normal.1 normal.2 false comment (List.forall_mem_nil _) false
    "<image></image></comment></b>".toList 3
  have opens := Cursor.next_writtenTag normal.1 normal.2 false image (List.forall_mem_nil _) false
    "</image></comment></b>".toList 12
  have closes := Cursor.next_writtenClose address.1 address.2 false image.1
    "</comment></b>".toList 19
  have shows := Cursor.next_writtenClose normal.1 normal.2 false comment.1 "</b>".toList 27
  have ends := Cursor.next_writtenClose normal.1 normal.2 false bold.1 [] 37
  have run : ∃ outer hidden inside outside shown last document,
      (opening {} ("<b>".toList ++ "<comment>".toList ++ "<image></image>".toList ++
        "</comment>".toList ++ "</b>".toList)).Reaches {}
        ([outer] ++ hidden :: ([inside, outside] ++ [shown])) last ∧
      (hidden.token.form.kind = .openTag ∧ hidden.token.offset = 3) ∧
      (shown.token.form.kind = .closeTag ∧ shown.token.offset = 27) ∧
      hidden.document.openBookmarks = [] ∧
      inside.token.brackets = [.opens ⟨"image".toList, .empty, 12⟩] ∧
      outside.token.brackets = [.closes "image".toList] ∧
      inside.token.opens? = some ⟨"image".toList, .empty, 12⟩ ∧ outside.token.opens? = none ∧
      last.advance {} = .handled ⟨.closeTag ['b'], 37⟩ ⟨⟨[], 41⟩, document⟩ ∧
      document.mode? = some .normal ∧ document.elements = [] ∧
      document.render = "<b></b>".toList :=
    ⟨_, _, _, _, _, _, _, .step (.step (.step (.step (.step .refl (advance_of_next rfl starts rfl))
      (advance_of_next rfl hides rfl)) (advance_of_next rfl opens rfl))
      (advance_of_next rfl closes rfl)) (advance_of_next rfl shows rfl), ⟨rfl, rfl⟩, ⟨rfl, rfl⟩,
      rfl, rfl, rfl, rfl, rfl, advance_of_next rfl ends rfl, rfl, rfl, rfl⟩
  obtain ⟨outer, hidden, inside, outside, shown, last, document, reaches, starts, ends, closed,
    inner, inner', opened, opened', ending, current, none, rendered⟩ := run
  have compiled := compileWith_eq_ok_iff.mpr ⟨_, _, reaches.step ending, advance_at_end current rfl,
    by simp only [leftOpen?, none], rendered⟩
  have matched : Nested Tag.ClosedBy (Step.brackets [inside, outside]) := by
    rw [Step.brackets_cons, Step.brackets_cons, Step.brackets_nil, inner, inner']
    exact .pair rfl .nil .nil
  have passing : ∀ step ∈ [inside, outside], ∀ tag ∈ step.token.opens?,
      tag.role ≠ .bookmark ∧ tag.role ≠ .backticksOn ∧ tag.role ≠ .backticksOff := by
    intro step mem tag opens
    rw [List.mem_cons, List.mem_singleton] at mem
    rcases mem with rfl | rfl
    · obtain rfl := Option.some.inj (opened.symm.trans opens)
      decide
    · simp [opened'] at opens
  exact ⟨compiled, (comments_leave_no_trace_of_what_they_hold reaches starts ends matched closed
    passing).mp compiled⟩

end PageMarkup
