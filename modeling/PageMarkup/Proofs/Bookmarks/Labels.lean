import PageMarkup.Proofs.Bookmarks.Ledger
import PageMarkup.Proofs.Contents

/-! # Labels

The label of a bookmark is the text between its tags, whatever else is open there. -/

namespace PageMarkup

open Compilation

/-! ## The ledger of a document -/

/-- If the element has opened a bookmark, it knows its id. -/
def OpenElement.identified (element : OpenElement) : Bool :=
  element.role ≠ .bookmark || element.bookmark?.isSome

theorem OpenElement.recorded?_of_identified {element : OpenElement}
    (identified : element.identified = true) (role : element.role = .bookmark) :
    ∃ id, element.recorded? = some id := by
  rw [recorded?, if_pos role, ← Option.isSome_iff_exists]
  simpa [OpenElement.identified, role] using identified

theorem OpenElement.map_bookmark?_filter {elements : List OpenElement}
    (identified : ∀ element ∈ elements, element.identified = true) :
    (elements.filter fun element => element.role = .bookmark).map OpenElement.bookmark? =
      (elements.filterMap OpenElement.recorded?).map some := by
  induction elements with
  | nil => rfl
  | cons element outer ih =>
      obtain ⟨first, identified⟩ := List.forall_mem_cons.mp identified
      by_cases role : element.role = .bookmark
      · obtain ⟨id, recorded⟩ := recorded?_of_identified first role
        have named : element.bookmark? = some id := by
          rwa [recorded?, if_pos role] at recorded
        simp [role, recorded, named, ih identified]
      · simp [recorded?, role, ih identified]

namespace Document

variable {setup : Setup} {document before after : Document} {token : Token}

/-- The open elements of bookmarks, innermost first. -/
def openBookmarks (document : Document) : List OpenElement :=
  document.elements.filter fun element => element.role = .bookmark

/-- What the document knows about bookmarks. -/
def ledger (document : Document) : Ledger where
  ids := document.elements.map OpenElement.recorded?
  captures := document.captures
  bookmarks := document.bookmarks

theorem length_ids_ledger (document : Document) :
    document.ledger.ids.length = document.elements.length := List.length_map _

theorem openIds_ledger (document : Document) :
    document.ledger.openIds = document.elements.filterMap OpenElement.recorded? :=
  List.filterMap_map

/-- The bookmark that opening a tag adds. -/
def bookmarkOf? (setup : Setup) (document : Document) (tag : Tag) : Option Bookmark :=
  if tag.role = .bookmark then
    some { name := bookmarkName tag document.nextNumber
           id := setup.newId document.bookmarks.length }
  else none

/-- The text that a token brings, for the page and for labels. Code, addresses, and marks that stand
for themselves are no text. -/
def spoken (document : Document) (token : Token) : Text :=
  match token.form, document.mode? with
  | .text value, some .normal => value
  | .text value, some .inlineCode => Text.escape value
  | _, _ => []

/-- What is spoken is what a text gives to the page and to labels, between the marks of inline code
where it is inline code. -/
theorem handleText_eq_emitText_spoken {value : Text} (offset : Int) :
    (document.mode? = some .normal → document.handleText value offset =
      .ok (document.emitText (document.spoken ⟨.text value, offset⟩))) ∧
    (document.mode? = some .inlineCode → document.handleText value offset =
      .ok (((document.emit inlineCodeStart).emitText
        (document.spoken ⟨.text value, offset⟩)).emit inlineCodeEnd)) := by
  constructor <;> intro mode <;> simp only [handleText, spoken, mode]

theorem recorded?_opened (setup : Setup) (document : Document) (tag : Tag) :
    (document.opened setup tag).recorded? =
      if tag.role = .bookmark then some (setup.newId document.bookmarks.length) else none := by
  by_cases role : tag.role = .bookmark <;>
    simp [OpenElement.recorded?, opened, OpenElement.role, role]

theorem OpenSpec.ledger {tag : Tag} (opening : OpenSpec setup tag.proper before after) :
    after.ledger = before.ledger.enter (before.bookmarkOf? setup tag) := by
  rw [Document.ledger, opening.elements, opening.captures, opening.bookmarks, bookmarkOf?,
    capturesInside, newBookmarks, List.map_cons, recorded?_opened, Tag.role_proper]
  by_cases role : tag.role = .bookmark
  · rw [Tag.proper_eq_self (by simp [role])]
    simp only [role, if_true, Ledger.enter, Document.ledger]
  · simp [role, Ledger.enter, Document.ledger]

theorem CloseSpec.ledger {element : OpenElement} {outer : List OpenElement}
    (closing : CloseSpec setup element { before with elements := outer } after)
    (elements : before.elements = element :: outer) : after.ledger = before.ledger.leave := by
  rw [Document.ledger, closing.elements, closing.captures, closing.labels, labelled,
    capturesOutside, Document.ledger, elements, List.map_cons]
  cases element.recorded? <;> rfl

theorem Handling.ledger (handling : Handling setup before token after) :
    after.ledger =
      match token.form with
      | .openTag tag => before.ledger.enter (before.bookmarkOf? setup tag)
      | .closeTag _ => before.ledger.leave
      | .selfCloseTag tag => (before.ledger.enter (before.bookmarkOf? setup tag)).leave
      | _ => before.ledger.speak (before.spoken token) := by
  cases handling with
  | text mode => simp only [spoken, mode]; rfl
  | inlineCode mode => simp only [spoken, mode]; rfl
  | captured mode elements =>
      have silent (value offset) : before.spoken ⟨.text value, offset⟩ = [] := by
        rcases mode with mode | mode <;> simp only [spoken, mode]
      simp only [silent, Ledger.speak_nil, Document.ledger, elements, List.map_cons]
      rfl
  | newline | pipe | backtick | codeStarts | codeEnds => exact (Ledger.speak_nil _).symm
  | opens opening => exact opening.ledger
  | closes elements _ _ closing | closesCapture elements _ _ closing =>
      exact closing.ledger elements
  | selfCloses opening closing =>
      exact (closing.ledger opening.elements).trans (congrArg Ledger.leave opening.ledger)

theorem identified_opened (setup : Setup) (document : Document) (tag : Tag) :
    (document.opened setup tag).identified = true := by
  by_cases role : tag.role = .bookmark <;>
    simp [OpenElement.identified, opened, OpenElement.role, role]

theorem Handling.identified (handling : Handling setup before token after)
    (identified : ∀ element ∈ before.elements, element.identified = true) :
    ∀ element ∈ after.elements, element.identified = true := by
  have views := handling.map_elements OpenElement.identified fun _ _ => rfl
  have known : ∀ view ∈ before.elements.map OpenElement.identified, view = true :=
    List.forall_mem_map.mpr identified
  suffices all : ∀ view ∈ after.elements.map OpenElement.identified, view = true from
    fun element mem => all _ (List.mem_map_of_mem mem)
  rw [views]
  cases token.form with
  | openTag tag => exact List.forall_mem_cons.mpr ⟨identified_opened setup before _, known⟩
  | closeTag => exact fun view mem => known view (List.mem_of_mem_tail mem)
  | text | newline | pipe | selfCloseTag | backtick => exact known

theorem Handling.settled {number : Nat} {bookmark : Bookmark}
    (handling : Handling setup before token after)
    (settled : before.ledger.Settled number bookmark) : after.ledger.Settled number bookmark := by
  rw [handling.ledger]
  cases token.form with
  | openTag => exact settled.enter
  | closeTag => exact settled.leave
  | selfCloseTag => exact settled.enter.leave
  | text | newline | pipe | backtick => exact settled.speak _

theorem bookmarkTag?_of_bookmarkOf? {tag : Tag} {bookmark : Bookmark}
    (opens : token.opens? = some tag) (adds : before.bookmarkOf? setup tag = some bookmark) :
    token.bookmarkTag? = some tag := by
  rw [bookmarkOf?] at adds
  split at adds
  · next role => rw [Token.bookmarkTag?, opens, Option.filter_some_pos (by simpa using role)]
  · cases adds

/-- An element that has opened a bookmark was open before, or it is the one that the token opens. -/
theorem Handling.suffix_cases {id : Text} {outer : List (Option Text)}
    (handling : Handling setup before token after)
    (opened : some id :: outer <:+ after.ledger.ids) :
    some id :: outer <:+ before.ledger.ids ∨
      outer = before.ledger.ids ∧ ∃ tag, token.bookmarkTag? = some tag := by
  rw [handling.ledger] at opened
  obtain ⟨form, offset⟩ := token
  cases form with
  | text | newline | pipe | backtick => exact .inl opened
  | closeTag name =>
      rw [Ledger.ids_leave] at opened
      exact .inl (opened.trans (List.tail_suffix _))
  | selfCloseTag tag =>
      rw [Ledger.ids_leave, Ledger.ids_enter, List.tail_cons] at opened
      exact .inl opened
  | openTag tag =>
      rw [Ledger.ids_enter, List.suffix_cons_iff] at opened
      rcases opened with new | old
      · obtain ⟨given, same⟩ := List.cons.inj new
        obtain ⟨bookmark, adds, -⟩ := Option.map_eq_some_iff.mp given.symm
        exact .inr ⟨same, tag, bookmarkTag?_of_bookmarkOf? rfl adds⟩
      · exact .inl old

end Document

/-! ## The steps of a bookmark -/

open Document

namespace Step

/-- If the step opens a bookmark, its id differs from those of the bookmarks that are open. -/
def Fresh (setup : Setup) (step : Step) : Prop :=
  ∀ tag, step.token.bookmarkTag? = some tag → ∀ element ∈ step.document.elements,
    element.recorded? ≠ some (setup.newId step.document.bookmarks.length)

/-- The text that the step brings. -/
def spoken (step : Step) : Text := step.document.spoken step.token

/-- The bookmark that the step opens with a tag, not yet labelled. -/
def bookmark (setup : Setup) (here : Step) (tag : Tag) : Bookmark where
  name := bookmarkName tag here.document.nextNumber
  id := setup.newId here.document.bookmarks.length

/-- More elements are open than before the step: what the step opened is among them, unless it has
been closed in between. -/
def encloses (here : Step) (document : Document) : Bool :=
  here.document.elements.length < document.elements.length

/-- The steps after it have not closed what the step opened. -/
def staysOpen (here : Step) (back : List Step) (document : Document) : Bool :=
  back.all (fun step => here.encloses step.document) && here.encloses document

/-- The text that the steps after it bring, up to the one that closes what the step opened. -/
def heldBy (here : Step) (back : List Step) : Text :=
  (back.takeWhile fun step => here.encloses step.document).flatMap spoken

variable {setup : Setup} {here : Step} {back : List Step} {before after document : Document}
  {token : Token} {tag : Tag} {bookmark : Bookmark}

theorem encloses_iff :
    here.encloses document = true ↔
      here.document.ledger.ids.length < document.ledger.ids.length := by
  rw [encloses, decide_eq_true_eq, length_ids_ledger, length_ids_ledger]

theorem encloses_eq_false_iff :
    here.encloses document = false ↔
      document.ledger.ids.length ≤ here.document.ledger.ids.length := by
  rw [← Nat.not_lt, ← encloses_iff, Bool.not_eq_true]

theorem staysOpen_snoc (step : Step) :
    here.staysOpen (back ++ [step]) document =
      (here.staysOpen back step.document && here.encloses document) := by
  simp [staysOpen]

theorem heldBy_snoc (here : Step) (back : List Step) (step : Step) :
    here.heldBy (back ++ [step]) =
      here.heldBy back ++ if here.staysOpen back step.document then step.spoken else [] := by
  induction back with
  | nil => cases open? : here.encloses step.document <;> simp [heldBy, staysOpen, open?]
  | cons first back ih =>
      rw [heldBy, staysOpen, heldBy] at ih
      rw [List.cons_append, heldBy, staysOpen, heldBy, List.takeWhile_cons, List.takeWhile_cons,
        List.all_cons]
      cases here.encloses first.document with
      | true => simp only [if_true, List.flatMap_cons, ih, Bool.true_and, List.append_assoc]
      | false => rfl

/-- The ids of open bookmarks are not taken again. -/
theorem Fresh.enter {step : Step} (fresh : step.Fresh setup)
    (opens : step.token.opens? = some tag) :
    ∀ bookmark ∈ step.document.bookmarkOf? setup tag,
      bookmark.id ∉ step.document.ledger.openIds := by
  intro bookmark adds open?
  have found := bookmarkTag?_of_bookmarkOf? opens adds
  rw [openIds_ledger] at open?
  obtain ⟨element, mem, same⟩ := List.mem_filterMap.mp open?
  rw [bookmarkOf?] at adds
  split at adds
  · obtain rfl := Option.some.inj adds
    exact fresh tag found element mem same
  · cases adds

end Step

/-! ### One step -/

namespace Document.Handling

variable {setup : Setup} {step : Step} {after : Document} {depth number : Nat}
  {bookmark : Bookmark} {text : Text}

theorem sound (handling : Handling setup step.document step.token after)
    (sound : step.document.ledger.Sound) (fresh : step.Fresh setup) : after.ledger.Sound := by
  rw [handling.ledger]
  obtain ⟨before, form, offset⟩ := step
  cases form with
  | openTag tag => exact sound.enter (fresh.enter rfl)
  | closeTag => exact sound.leave
  | selfCloseTag tag => exact (sound.enter (fresh.enter rfl)).leave
  | text | newline | pipe | backtick => exact sound.speak _

/-- As long as its element is open, a bookmark is held open. -/
theorem held (handling : Handling setup step.document step.token after)
    (held : step.document.ledger.Held depth number bookmark text)
    (sound : step.document.ledger.Sound) (fresh : step.Fresh setup)
    (inside : depth < after.ledger.ids.length) :
    after.ledger.Held depth number bookmark (text ++ step.spoken) := by
  have ledger := handling.ledger
  have silent (tagged : step.spoken = []) : text ++ step.spoken = text := by
    rw [tagged, List.append_nil]
  obtain ⟨before, form, offset⟩ := step
  cases form with
  | text | newline | pipe | backtick =>
      rw [ledger]
      exact held.speak _
  | openTag tag =>
      rw [ledger, silent rfl]
      exact held.enter (fresh.enter rfl)
  | closeTag name =>
      rw [ledger, Ledger.ids_leave, List.length_tail] at inside
      rw [ledger, silent rfl]
      exact held.leave sound (by omega)
  | selfCloseTag tag =>
      have below := held.depth_lt
      have fresh := fresh.enter rfl
      rw [ledger, silent rfl]
      exact (held.enter fresh).leave (sound.enter fresh) (by simpa using below)

/-- The token that closes the element of a bookmark labels it and no other. -/
theorem settles {before : Document} {token : Token} (handling : Handling setup before token after)
    (held : before.ledger.Held depth number bookmark text) (sound : before.ledger.Sound)
    (left : after.ledger.ids.length ≤ depth) :
    before.spoken token = [] ∧ after.ledger.Settled number { bookmark with label := text } ∧
      after.bookmarks =
        before.bookmarks.modify number fun bookmark => { bookmark with label := text } := by
  have ledger := handling.ledger
  have below := held.depth_lt
  obtain ⟨form, offset⟩ := token
  cases form with
  | closeTag name =>
      have innermost : before.ledger.ids.length = depth + 1 := by
        rw [ledger, Ledger.ids_leave, List.length_tail] at left
        omega
      obtain ⟨settled, labelled⟩ := held.settles sound innermost
      exact ⟨rfl, ledger ▸ settled, (congrArg Ledger.bookmarks ledger).trans labelled⟩
  | text | newline | pipe | backtick | openTag | selfCloseTag =>
      -- As many elements are open as before, or more.
      simp only [ledger, Ledger.ids_speak, Ledger.ids_enter, Ledger.ids_leave, List.length_cons,
        List.tail_cons] at left
      omega

end Document.Handling

/-! ## A bookmark through the steps -/

namespace Step

variable {setup : Setup} {here : Step} {back : List Step} {before after document : Document}
  {token : Token} {tag : Tag} {bookmark : Bookmark}

/-- Where the steps after the opening of a bookmark have left it. -/
inductive Follows (here : Step) (bookmark : Bookmark) (back : List Step) (document : Document) :
    Prop
  | held (stays : here.staysOpen back document = true)
      (held : document.ledger.Held here.document.ledger.ids.length here.document.bookmarks.length
        bookmark (here.heldBy back))
  | settled (left : here.staysOpen back document = false)
      (settled : document.ledger.Settled here.document.bookmarks.length
        { bookmark with label := here.heldBy back })

theorem Follows.start (handling : Handling setup here.document here.token after)
    (opens : here.token.bookmarkTag? = some tag) (sound : here.document.ledger.Sound)
    (fresh : here.Fresh setup) : here.Follows (here.bookmark setup tag) [] after := by
  have ledger := handling.ledger
  have start := Ledger.Held.start here.document.ledger (here.bookmark setup tag)
  obtain ⟨found, role⟩ := Token.opens?_of_bookmarkTag? opens
  have entered : here.document.bookmarkOf? setup tag = some (here.bookmark setup tag) := if_pos role
  have inside := sound.enter (fresh.enter found)
  obtain ⟨before, form, offset⟩ := here
  cases form with
  | openTag tag =>
      obtain rfl := Option.some.inj found
      simp only [entered] at ledger
      refine .held ?_ (ledger ▸ start)
      simp [staysOpen, encloses_iff, ledger]
  | selfCloseTag tag =>
      obtain rfl := Option.some.inj found
      simp only [entered] at ledger inside
      refine .settled ?_ (ledger ▸ (start.settles inside (by simp)).1)
      rw [staysOpen, List.all_nil, Bool.true_and, encloses_eq_false_iff]
      simp [ledger]
  | text | newline | pipe | closeTag | backtick => cases found

theorem Follows.step {step : Step} (follows : here.Follows bookmark back step.document)
    (handling : Handling setup step.document step.token after)
    (sound : step.document.ledger.Sound) (fresh : step.Fresh setup) :
    here.Follows bookmark (back ++ [step]) after := by
  cases follows with
  | settled left settled =>
      refine .settled (by rw [staysOpen_snoc, left, Bool.false_and]) ?_
      rw [heldBy_snoc, left, if_neg (by simp), List.append_nil]
      exact handling.settled settled
  | held stays held =>
      cases inside : here.encloses after with
      | true =>
          refine .held (by rw [staysOpen_snoc, stays, inside, Bool.true_and]) ?_
          rw [heldBy_snoc, stays, if_pos rfl]
          exact handling.held held sound fresh (encloses_iff.mp inside)
      | false =>
          obtain ⟨silent, settled, -⟩ :=
            handling.settles held sound (encloses_eq_false_iff.mp inside)
          refine .settled (by rw [staysOpen_snoc, inside, Bool.and_false]) ?_
          rw [heldBy_snoc, stays, if_pos rfl, spoken, silent, List.append_nil]
          exact settled

/-- Either the last of some steps is the one looked for, or that one is further in front. -/
theorem snoc_eq_iff {front steps : List Step} {last : Step} :
    steps ++ [last] = front ++ here :: back ↔
      (steps = front ∧ last = here ∧ back = []) ∨
        ∃ inner, back = inner ++ [last] ∧ steps = front ++ here :: inner := by
  constructor
  · intro split
    rcases List.eq_nil_or_concat back with rfl | ⟨inner, other, rfl⟩
    · obtain ⟨rfl, same⟩ := List.append_inj' split rfl
      exact .inl ⟨rfl, (List.cons.inj same).1, rfl⟩
    · rw [List.concat_eq_append, ← List.cons_append, ← List.append_assoc] at split
      obtain ⟨rfl, same⟩ := List.append_inj' split rfl
      obtain rfl := (List.cons.inj same).1
      exact .inr ⟨inner, List.concat_eq_append, rfl⟩
  · rintro (⟨rfl, rfl, rfl⟩ | ⟨inner, rfl, rfl⟩)
    · rfl
    · simp

end Step

/-! ## Runs -/

namespace Compilation.Reaches

variable {setup : Setup} {source : Text} {steps : List Step} {last : Compilation}

theorem sound (h : (opening setup.settings source).Reaches setup steps last)
    (distinct : ∀ step ∈ steps, step.Fresh setup) : last.document.ledger.Sound := by
  induction h with
  | refl => exact ⟨rfl, List.nodup_nil⟩
  | step _ handled ih =>
      have sound := ih fun step mem => distinct step (List.mem_append_left _ mem)
      have fresh := distinct _ (List.mem_append_right _ List.mem_cons_self)
      exact (handling_of_handled handled).sound sound fresh

theorem follows (h : (opening setup.settings source).Reaches setup steps last)
    (distinct : ∀ step ∈ steps, step.Fresh setup) {front back : List Step} {here : Step} {tag : Tag}
    (split : steps = front ++ here :: back) (opens : here.token.bookmarkTag? = some tag) :
    here.Follows (here.bookmark setup tag) back last.document := by
  induction h generalizing back with
  | refl => simp at split
  | step earlier handled ih =>
      have distinct_earlier step mem := distinct step (List.mem_append_left _ mem)
      have sound := earlier.sound distinct_earlier
      have fresh := distinct _ (List.mem_append_right _ List.mem_cons_self)
      have handling := handling_of_handled handled
      rcases Step.snoc_eq_iff.mp split with ⟨rfl, rfl, rfl⟩ | ⟨inner, rfl, inside⟩
      · exact .start handling opens sound fresh
      · exact (ih distinct_earlier inside).step handling sound fresh

/-- Every bookmark has been opened by a step, which has given it its name. -/
theorem exists_naming (h : (opening setup.settings source).Reaches setup steps last) {number : Nat}
    {name : Text} (named : (last.document.bookmarks.map Bookmark.name)[number]? = some name) :
    ∃ front here back tag, steps = front ++ here :: back ∧ here.token.bookmarkTag? = some tag ∧
      here.document.bookmarks.length = number ∧
      bookmarkName tag here.document.nextNumber = name := by
  induction h with
  | refl => cases named
  | @step steps before token after earlier handled ih =>
      rw [(handling_of_handled handled).bookmark.1] at named
      by_cases old : number < (before.document.bookmarks.map Bookmark.name).length
      · rw [List.getElem?_append_left old] at named
        obtain ⟨front, here, back, tag, rfl, opens, place, given⟩ := ih named
        exact ⟨front, here, back ++ [⟨before.document, token⟩], tag, by simp, opens, place, given⟩
      · rw [List.getElem?_append_right (Nat.le_of_not_lt old)] at named
        cases opens : token.bookmarkTag? with
        | none => simp [opens] at named
        | some tag =>
            rw [opens, Option.map_some, Option.toList_some, List.getElem?_singleton] at named
            split at named
            · next place =>
                rw [List.length_map] at old place
                refine ⟨steps, ⟨before.document, token⟩, [], tag, rfl, opens, ?_,
                  Option.some.inj named⟩
                simp only
                omega
            · cases named

/-- Every step that opens a bookmark has given its name to the next one. -/
theorem named_of_opens (h : (opening setup.settings source).Reaches setup steps last) {here : Step}
    {tag : Tag} (mem : here ∈ steps) (opens : here.token.bookmarkTag? = some tag) :
    (last.document.bookmarks.map Bookmark.name)[here.document.bookmarks.length]? =
      some (bookmarkName tag here.document.nextNumber) := by
  induction h with
  | refl => cases mem
  | @step steps before token after earlier handled ih =>
      rw [(handling_of_handled handled).bookmark.1]
      rcases List.mem_append.mp mem with old | new
      · have named := ih old
        rwa [List.getElem?_append_left (List.getElem?_eq_some_iff.mp named).1]
      · obtain rfl := List.mem_singleton.mp new
        have behind : before.document.bookmarks.length =
            (before.document.bookmarks.map Bookmark.name).length := List.length_map _ |>.symm
        simp only [opens, Option.map_some, Option.toList_some]
        rw [behind, List.getElem?_concat_length]

theorem exists_opening (h : (opening setup.settings source).Reaches setup steps last) {number : Nat}
    (bound : number < last.document.bookmarks.length) :
    ∃ front here back tag, steps = front ++ here :: back ∧ here.token.bookmarkTag? = some tag ∧
      here.document.bookmarks.length = number := by
  have named : number < (last.document.bookmarks.map Bookmark.name).length := by simpa using bound
  obtain ⟨front, here, back, tag, split, opens, place, -⟩ :=
    h.exists_naming (List.getElem?_eq_getElem named)
  exact ⟨front, here, back, tag, split, opens, place⟩

/-- Every open bookmark has been opened by a step and has not been closed since. -/
theorem exists_opening_of_suffix (h : (opening setup.settings source).Reaches setup steps last)
    {id : Text} {outer : List (Option Text)}
    (opened : some id :: outer <:+ last.document.ledger.ids) :
    ∃ front here back tag, steps = front ++ here :: back ∧ here.token.bookmarkTag? = some tag ∧
      here.document.ledger.ids.length = outer.length ∧
      here.staysOpen back last.document = true := by
  induction h with
  | refl => exact absurd (List.suffix_nil.mp opened) (List.cons_ne_nil _ _)
  | @step steps before token after earlier handled ih =>
      have inside := opened.length_le
      rw [List.length_cons, Nat.succ_le_iff] at inside
      rcases (handling_of_handled handled).suffix_cases opened with old | ⟨rfl, tag, opens⟩
      · obtain ⟨front, here, back, tag, rfl, opens, place, stays⟩ := ih old
        refine ⟨front, here, back ++ [⟨before.document, token⟩], tag, by simp, opens, place, ?_⟩
        rw [Step.staysOpen_snoc, stays, Bool.true_and, Step.encloses_iff, place]
        exact inside
      · refine ⟨steps, ⟨before.document, token⟩, [], tag, rfl, opens, rfl, ?_⟩
        rw [Step.staysOpen, List.all_nil, Bool.true_and, Step.encloses_iff]
        exact inside

theorem identified (h : (opening setup.settings source).Reaches setup steps last) :
    ∀ element ∈ last.document.elements, element.identified = true := by
  refine h.invariant (fun here => ∀ element ∈ here.document.elements, element.identified = true)
    (fun handled identified => ?_) nofun
  exact (handling_of_handled handled).identified identified

end Compilation.Reaches

namespace Step

/-- What is left of the bookmark that a step opens, and what the next token can do to it. -/
structure Labels (setup : Setup) (here : Step) (tag : Tag) (back : List Step) (last : Compilation) :
    Prop where
  unlabelled (stays : here.staysOpen back last.document = true) :
    last.document.bookmarks[here.document.bookmarks.length]? =
        some { here.bookmark setup tag with label := [] } ∧
      last.document.captures.lookup (here.bookmark setup tag).id = some (here.heldBy back)
  labelled (left : here.staysOpen back last.document = false) :
    last.document.bookmarks[here.document.bookmarks.length]? =
      some { here.bookmark setup tag with label := here.heldBy back }
  closes {token after} (handled : last.advance setup = .handled token after)
    (stays : here.staysOpen back last.document = true)
    (left : here.encloses after.document = false) :
    after.document.bookmarks = last.document.bookmarks.modify here.document.bookmarks.length
      fun bookmark => { bookmark with label := here.heldBy back }
  lasts {token after} (handled : last.advance setup = .handled token after)
    (left : here.staysOpen back last.document = false) :
    after.document.bookmarks[here.document.bookmarks.length]? =
      last.document.bookmarks[here.document.bookmarks.length]?

theorem Follows.labels {setup : Setup} {here : Step} {tag : Tag} {back : List Step}
    {last : Compilation}
    (follows : here.Follows (here.bookmark setup tag) back last.document)
    (sound : last.document.ledger.Sound) : here.Labels setup tag back last where
  unlabelled stays := by
    cases follows with
    | held _ held => exact ⟨held.getElem?, held.recorded⟩
    | settled left => simp [stays] at left
  labelled left := by
    cases follows with
    | held stays => simp [left] at stays
    | settled _ settled => exact settled.getElem?
  closes {token after} handled stays left := by
    cases follows with
    | settled left' => simp [stays] at left'
    | held _ held =>
        have handling := handling_of_handled handled
        exact (handling.settles held sound (encloses_eq_false_iff.mp left)).2.2
  lasts handled left := by
    cases follows with
    | held stays => simp [left] at stays
    | settled _ settled =>
        have still := (handling_of_handled handled).settled settled
        exact still.getElem?.trans settled.getElem?.symm

end Step

/-- Between two tokens of a run, provided that bookmarks open at the same time have different ids:
Text is recorded for the open bookmarks and for no others. As long as a bookmark is open it has no
label; when its element is closed, it alone is labelled, and it keeps its label from then on. The
label is all text between the tags of the bookmark, also that of other elements, other bookmarks and
comments inside. Each bookmark and each open element of a bookmark stems from a step of the run. -/
theorem labels_tell_what_bookmarks_hold {setup : Setup} {source : Text} {steps : List Step}
    {last : Compilation}
    (h : (Compilation.opening setup.settings source).Reaches setup steps last)
    (distinct : ∀ step ∈ steps, step.Fresh setup) :
    last.document.openBookmarks.reverse.map (·.bookmark?) =
        last.document.captures.map (fun capture => some capture.1) ∧
    (∀ front here back tag, steps = front ++ here :: back →
      here.token.bookmarkTag? = some tag → here.Labels setup tag back last) ∧
    (∀ number < last.document.bookmarks.length, ∃ front here back tag,
      steps = front ++ here :: back ∧ here.token.bookmarkTag? = some tag ∧
        here.document.bookmarks.length = number) ∧
    ∀ element outer, element :: outer <:+ last.document.elements → element.role = .bookmark →
      ∃ front here back tag, steps = front ++ here :: back ∧
        here.token.bookmarkTag? = some tag ∧ here.document.elements.length = outer.length ∧
        here.staysOpen back last.document = true := by
  have sound := h.sound distinct
  refine ⟨?_, fun front here back tag split opens => (h.follows distinct split opens).labels sound,
    fun number bound => h.exists_opening bound, fun element outer opened role => ?_⟩
  · have keys := sound.keys
    rw [openIds_ledger] at keys
    rw [openBookmarks, List.map_reverse, OpenElement.map_bookmark?_filter h.identified,
      ← List.map_reverse, ← keys, List.map_map]
    rfl
  · have identified := h.identified element (opened.subset List.mem_cons_self)
    obtain ⟨id, recorded⟩ := OpenElement.recorded?_of_identified identified role
    have opened := opened.map OpenElement.recorded?
    rw [List.map_cons, recorded] at opened
    obtain ⟨front, here, back, tag, split, opens, place, stays⟩ := h.exists_opening_of_suffix opened
    rw [length_ids_ledger, List.length_map] at place
    exact ⟨front, here, back, tag, split, opens, place, stays⟩

/-- Of two bookmarks with one id, the one that is open takes the text. -/
theorem reused_id_labels_the_open_bookmark :
    ∃ steps last, (Compilation.opening {} "<bookmark/><bookmark>a</bookmark>".toList).Reaches
        { newId := fun _ => ['k'] } steps last ∧
      (∀ step ∈ steps, step.Fresh { newId := fun _ => ['k'] }) ∧
      last.document.bookmarks[1]?.map Bookmark.label = some ['a'] := by
  have name : Cursor.IsTagName "bookmark".toList := by decide
  have first := Cursor.next_writtenTag (show Mode.normal ≠ .code by decide) (by decide) false name
    (List.forall_mem_nil _) true "<bookmark>a</bookmark>".toList 0
  have second := Cursor.next_writtenTag (show Mode.normal ≠ .code by decide) (by decide) false name
    (List.forall_mem_nil _) false "a</bookmark>".toList 11
  have third : (⟨"a</bookmark>".toList, 21⟩ : Cursor).next .normal false =
      .ok (some (⟨.text ['a'], 21⟩, ⟨"</bookmark>".toList, 22⟩)) :=
    Cursor.next_writtenChar (by decide) (by decide) rfl rfl _
  have fourth := Cursor.next_writtenClose (show Mode.normal ≠ .code by decide) (by decide) false
    name.1 [] 22
  have run : ∃ alone opens speaks closes last,
      (Compilation.opening {} "<bookmark/><bookmark>a</bookmark>".toList).Reaches
        { newId := fun _ => ['k'] } [alone, opens, speaks, closes] last ∧
      opens.token.bookmarkTag? = some ⟨"bookmark".toList, .ofList [], 11⟩ ∧
      opens.document.bookmarks.length = 1 ∧
      opens.staysOpen [speaks, closes] last.document = false ∧
      opens.heldBy [speaks, closes] = ['a'] ∧
      alone.document.elements = [] ∧ opens.document.elements = [] ∧
      speaks.token.bookmarkTag? = none ∧ closes.token.bookmarkTag? = none :=
    ⟨_, _, _, _, _, .step (.step (.step (.step .refl (advance_of_next rfl first rfl))
      (advance_of_next rfl second rfl)) (advance_of_next rfl third rfl))
      (advance_of_next rfl fourth rfl), rfl, rfl, rfl, rfl, rfl, rfl, rfl, rfl⟩
  obtain ⟨alone, opens, speaks, closes, last, reaches, tag, place, left, held, nothing, nothing',
    untagged, untagged'⟩ := run
  have fresh : ∀ step ∈ [alone, opens, speaks, closes], step.Fresh { newId := fun _ => ['k'] } := by
    intro step mem tag opened element inside
    simp only [List.mem_cons, List.not_mem_nil, or_false] at mem
    rcases mem with rfl | rfl | rfl | rfl
    · simp [nothing] at inside
    · simp [nothing'] at inside
    · simp [untagged] at opened
    · simp [untagged'] at opened
  have labels := (labels_tell_what_bookmarks_hold reaches fresh).2.1 [alone] opens [speaks, closes] _
    rfl tag
  refine ⟨_, last, reaches, fresh, ?_⟩
  rw [← place, labels.labelled left, held]
  rfl

end PageMarkup
