import PageMarkup.Proofs.Bookmarks.Labels

/-! # Ids

The ids of bookmarks show nowhere. As long as bookmarks that are open at the same time have
different ids, any ids lead to the same page or to the same fault. -/

namespace PageMarkup

/-! ## Documents but for ids -/

/-- The element without the id of its bookmark. -/
def OpenElement.bare (element : OpenElement) : OpenElement := { element with bookmark? := none }

namespace Document

/-- The document without ids, and without labels and what is recorded for them by id. -/
def bare (document : Document) : Document :=
  { document with
    elements := document.elements.map OpenElement.bare
    bookmarks := document.bookmarks.map fun bookmark => { name := bookmark.name, id := [] }
    captures := [] }

/-- The documents differ in nothing but ids and labels. -/
def Akin (one two : Document) : Prop := one.bare = two.bare

end Document

/-- What comes of two changes: things that are akin, or one fault. -/
inductive Halt.Akin {α : Type} (akin : α → α → Prop) : Except Halt α → Except Halt α → Prop
  | ok {one two : α} (same : akin one two) : Akin akin (.ok one) (.ok two)
  | error {one two : Halt} (fault : one.fault = two.fault) : Akin akin (.error one) (.error two)

namespace Halt.Akin

variable {α β : Type} {akin : α → α → Prop} {akin' : β → β → Prop} {one two : Except Halt α}

theorem bind {go go' : α → Except Halt β} (first : Akin akin one two)
    (later : ∀ {one two}, akin one two → Akin akin' (go one) (go' two)) :
    Akin akin' (one >>= go) (two >>= go') := by
  cases first with
  | ok same => exact later same
  | error fault => exact .error fault

theorem map {go go' : α → β} (first : Akin akin one two)
    (later : ∀ {one two}, akin one two → akin' (go one) (go' two)) :
    Akin akin' (one.map go) (two.map go') := by
  cases first with
  | ok same => exact .ok (later same)
  | error fault => exact .error fault

end Halt.Akin

namespace Document

variable {settings : Settings} {ids ids' : Nat → Text} {one two : Document}

theorem bare_openBookmark (setup : Setup) (tag : Tag) (document : Document) :
    (document.openBookmark setup tag).bare =
      (document.bare.openBookmark { newId := fun _ => [] } tag).bare := by
  simp only [openBookmark, emit, tell, enter, bare, List.map_append, List.map_map, List.map_cons]
  rfl

theorem bare_closeBookmark (id : Text) (document : Document) :
    (document.closeBookmark id).bare = document.bare := by
  have names := Bookmark.map_name_labelLast id ((document.captures.lookup id).getD [])
    document.bookmarks
  have bookmarks := congrArg (List.map fun name => ({ name, id := [] } : Bookmark)) names
  simp only [List.map_map] at bookmarks
  simp only [bare, closeBookmark]
  exact congrArg (fun bookmarks => { document.bare with bookmarks }) bookmarks

theorem Akin.congr (akin : one.Akin two) (change : Document → Document) :
    change one.bare = change two.bare := congrArg change akin

theorem Akin.page (akin : one.Akin two) : one.page = two.page :=
  congrArg (fun document => document.page) akin

theorem Akin.modes (akin : one.Akin two) : one.modes = two.modes :=
  congrArg (fun document => document.modes) akin

theorem Akin.backticks (akin : one.Akin two) : one.backticks = two.backticks :=
  congrArg (fun document => document.backticks) akin

theorem Akin.hasContents (akin : one.Akin two) : one.hasContents = two.hasContents :=
  congrArg (fun document => document.hasContents) akin

theorem Akin.elements (akin : one.Akin two) :
    one.elements.map OpenElement.bare = two.elements.map OpenElement.bare :=
  congrArg (fun document => document.elements) akin

/-! ### Changes -/

theorem Akin.emit (akin : one.Akin two) (fragment : Text) :
    (one.emit fragment).Akin (two.emit fragment) :=
  akin.congr fun document => document.emit fragment

theorem Akin.emitText (akin : one.Akin two) (text : Text) :
    (one.emitText text).Akin (two.emitText text) :=
  akin.congr fun document => document.emit text

theorem Akin.deepen (akin : one.Akin two) (levels : Int) :
    (one.deepen levels).Akin (two.deepen levels) :=
  akin.congr fun document => document.deepen levels

theorem Akin.tell (akin : one.Akin two) (notice : Notice) :
    (one.tell notice).Akin (two.tell notice) :=
  akin.congr fun document => document.tell notice

theorem Akin.enter (akin : one.Akin two) (tag : Tag) (opened opened' : Option Text) :
    (one.enter tag opened).Akin (two.enter tag opened') :=
  akin.congr fun document => document.enter tag none

theorem Akin.withModes (akin : one.Akin two) (modes : List Mode) :
    ({ one with modes } : Document).Akin { two with modes } :=
  akin.congr fun document => { document with modes }

theorem Akin.withBackticks (akin : one.Akin two) (backticks : Bool) :
    ({ one with backticks } : Document).Akin { two with backticks } :=
  akin.congr fun document => { document with backticks }

theorem Akin.withElements {elements elements' : List OpenElement} (akin : one.Akin two)
    (same : elements.map OpenElement.bare = elements'.map OpenElement.bare) :
    ({ one with elements } : Document).Akin { two with elements := elements' } := by
  have outside := akin.congr fun document =>
    { document with elements := elements.map OpenElement.bare }
  refine Eq.trans outside ?_
  rw [same]
  rfl

theorem Akin.openBookmark (akin : one.Akin two) (setup setup' : Setup) (tag : Tag) :
    (one.openBookmark setup tag).Akin (two.openBookmark setup' tag) := by
  rw [Akin, bare_openBookmark, akin, ← bare_openBookmark]

theorem Akin.closeBookmark (akin : one.Akin two) (id id' : Text) :
    (one.closeBookmark id).Akin (two.closeBookmark id') := by
  rw [Akin, bare_closeBookmark, bare_closeBookmark, akin]

theorem Akin.leaveMode (akin : one.Akin two) (offset : Int) :
    Halt.Akin Akin (one.leaveMode offset) (two.leaveMode offset) := by
  simp only [Document.leaveMode, akin.modes]
  cases two.modes with
  | nil => exact .error rfl
  | cons mode outer => exact .ok (akin.withModes outer)

theorem Akin.push (akin : one.Akin two) (tag : Tag) :
    Halt.Akin Akin (one.push ⟨settings, ids⟩ tag) (two.push ⟨settings, ids'⟩ tag) := by
  simp only [Document.push]
  cases tag.proper.role with
  | comment => exact .ok ((akin.deepen 1).enter ..)
  | bookmark => exact .ok (akin.openBookmark ..)
  | contents =>
      simp only [akin.page, akin.hasContents]
      split
      · exact .ok (akin.enter ..)
      split
      · exact .error rfl
      · have marked : ({ one with hasContents := true, page := two.page.markHere } : Document).Akin
            { two with hasContents := true, page := two.page.markHere } :=
          akin.congr fun document =>
            { document with hasContents := true, page := two.page.markHere }
        exact .ok (marked.enter ..)
  | note | warning | element => exact .ok ((akin.emit _).enter ..)
  | backticksOn | backticksOff | image | code => exact .ok (akin.enter ..)

theorem Akin.close {element element' : OpenElement} (akin : one.Akin two)
    (same : element.bare = element'.bare) :
    Halt.Akin Akin (one.close ⟨settings, ids⟩ element) (two.close ⟨settings, ids'⟩ element') := by
  obtain ⟨tag, content, bookmark?⟩ := element
  obtain ⟨tag', content', bookmark?'⟩ := element'
  obtain ⟨rfl, rfl, -⟩ := OpenElement.mk.inj same
  simp only [Document.close, OpenElement.role]
  cases tag.role with
  | comment => exact .ok (akin.deepen _)
  | bookmark =>
      cases bookmark? with
      | none =>
          cases bookmark?' with
          | none => exact .ok akin
          | some id' => exact .ok (akin.trans (bare_closeBookmark id' two).symm)
      | some id =>
          cases bookmark?' with
          | none => exact .ok ((bare_closeBookmark id one).trans akin)
          | some id' => exact .ok (akin.closeBookmark id id')
  | contents => exact .ok akin
  | backticksOn | backticksOff => exact .ok (akin.withBackticks _)
  | note | warning | image | element => exact .ok (akin.emit _)
  | code =>
      simp only
      split
      · exact .error rfl
      split
      · exact .error rfl
      · exact .ok ((((akin.tell _).emit _).emit _).emit _)

/-- The elements differ in nothing but ids, and so do the documents without them. -/
def PoppedAkin (one two : OpenElement × Document) : Prop :=
  one.1.bare = two.1.bare ∧ one.2.Akin two.2

theorem Akin.pop (akin : one.Akin two) (name : Text) (offset : Int) :
    Halt.Akin PoppedAkin (one.pop ⟨settings, ids⟩ name offset)
      (two.pop ⟨settings, ids'⟩ name offset) := by
  have elements := akin.elements
  simp only [Document.pop]
  cases opened : two.elements with
  | nil =>
      rw [opened, List.map_nil, List.map_eq_nil_iff] at elements
      simp only [elements]
      exact .error rfl
  | cons element' outer' =>
      rw [opened, List.map_cons, List.map_eq_cons_iff] at elements
      obtain ⟨element, outer, opened', same, around⟩ := elements
      have named : element.tag.name = element'.tag.name :=
        congrArg (fun element => element.tag.name) same
      simp only [opened', named]
      split
      · exact ((akin.withElements around).close same).map fun closed => ⟨same, closed⟩
      · exact .error rfl

theorem Akin.capture (akin : one.Akin two) (text : Text) :
    (one.capture text).map bare = (two.capture text).map bare := by
  have captures (document : Document) :
      (document.capture text).map bare = document.bare.capture text := by
    simp only [Document.capture, bare]
    cases document.elements <;> rfl
  rw [captures, captures, akin]

/-! ### Tokens -/

theorem Akin.handleText (akin : one.Akin two) (text : Text) (offset : Int) :
    Halt.Akin Akin (one.handleText text offset) (two.handleText text offset) := by
  simp only [Document.handleText, mode?, akin.modes]
  cases two.modes.head? with
  | none => exact .error rfl
  | some mode =>
      cases mode with
      | normal => exact .ok (akin.emitText _)
      | inlineCode => exact .ok (((akin.emit _).emitText _).emit _)
      | code | image =>
          have same := akin.capture text
          cases captured : two.capture text with
          | none =>
              rw [captured, Option.map_none, Option.map_eq_none_iff] at same
              simp only [same]
              exact .error rfl
          | some after' =>
              rw [captured, Option.map_some, Option.map_eq_some_iff] at same
              obtain ⟨after, captured, same⟩ := same
              simp only [captured]
              exact .ok same

theorem Akin.handleOpen (akin : one.Akin two) (tag : Tag) :
    Halt.Akin Akin (one.handleOpen ⟨settings, ids⟩ tag) (two.handleOpen ⟨settings, ids'⟩ tag) := by
  refine (akin.push tag).map fun {one two} inside => ?_
  have brings (mode : Mode) : (one.enterMode mode).Akin (two.enterMode mode) :=
    inside.congr fun document => document.enterMode mode
  cases tag.proper.role with
  | code => exact brings .code
  | image => exact brings .image
  | _ => exact inside

theorem Akin.handleClose (akin : one.Akin two) (name : Text) (offset : Int) :
    Halt.Akin Akin (one.handleClose ⟨settings, ids⟩ name offset)
      (two.handleClose ⟨settings, ids'⟩ name offset) := by
  have popped : Halt.Akin PoppedAkin (one.pop ⟨settings, ids⟩ name offset)
      (two.pop ⟨settings, ids'⟩ name offset) := akin.pop name offset
  simp only [Document.handleClose]
  generalize one.pop ⟨settings, ids⟩ name offset = first at popped
  generalize two.pop ⟨settings, ids'⟩ name offset = second at popped
  cases popped with
  | error fault => exact .error fault
  | @ok popped popped' same =>
      obtain ⟨element, after⟩ := popped
      obtain ⟨element', after'⟩ := popped'
      have role : element.role = element'.role := congrArg (fun element => element.tag.role) same.1
      simp only [role]
      cases element'.role with
      | code | image => exact same.2.leaveMode offset
      | _ => exact .ok same.2

theorem Akin.handleSelfClose (akin : one.Akin two) (tag : Tag) (offset : Int) :
    Halt.Akin Akin (one.handleSelfClose ⟨settings, ids⟩ tag offset)
      (two.handleSelfClose ⟨settings, ids'⟩ tag offset) :=
  (akin.push tag).bind fun inside => (inside.pop tag.name offset).bind fun popped => .ok popped.2

theorem Akin.handleBacktick (akin : one.Akin two) (offset : Int) :
    Halt.Akin Akin (one.handleBacktick offset) (two.handleBacktick offset) := by
  simp only [Document.handleBacktick, mode?, akin.modes, akin.backticks]
  split
  · split
    · exact .error rfl
    · exact .ok (akin.congr fun document => document.enterMode .inlineCode)
    · exact akin.leaveMode offset
    · exact .ok (akin.emit _)
    · exact .ok (akin.emit _)
  · exact .ok (akin.emit _)

/-- A token is handled alike whatever the ids are. -/
theorem Akin.handle (akin : one.Akin two) (token : Token) :
    Halt.Akin Akin (one.handle ⟨settings, ids⟩ token) (two.handle ⟨settings, ids'⟩ token) := by
  obtain ⟨form, offset⟩ := token
  cases form with
  | text text => exact akin.handleText text offset
  | newline | pipe => exact .ok (akin.emit _)
  | openTag tag => exact akin.handleOpen tag
  | closeTag name => exact akin.handleClose name offset
  | selfCloseTag tag => exact akin.handleSelfClose tag offset
  | backtick => exact akin.handleBacktick offset

end Document

/-! ## Runs -/

/-- The step without ids. -/
def Step.bare (step : Step) : Step := ⟨step.document.bare, step.token⟩

namespace Compilation

variable {settings : Settings} {ids ids' : Nat → Text} {one two first first' last : Compilation}
  {steps : List Step}

/-- The compilations stand at one place; their documents differ in nothing but ids and labels. -/
structure Akin (one two : Compilation) : Prop where
  cursor : one.cursor = two.cursor
  document : one.document.Akin two.document

/-- What one step of two compilations comes to if they are akin. -/
inductive AdvanceAkin : Advance → Advance → Prop
  | finished : AdvanceAkin .finished .finished
  | handled {token after after'} (akin : Akin after after') :
      AdvanceAkin (.handled token after) (.handled token after')
  | stopped {token? fault after after'} :
      AdvanceAkin (.stopped token? fault after) (.stopped token? fault after')

theorem Akin.advance (akin : one.Akin two) :
    AdvanceAkin (one.advance ⟨settings, ids⟩) (two.advance ⟨settings, ids'⟩) := by
  obtain ⟨cursor, document⟩ := one
  obtain ⟨cursor', document'⟩ := two
  obtain ⟨rfl, (akin : document.Akin document')⟩ := akin
  simp only [Compilation.advance, Document.mode?, akin.modes, akin.backticks]
  cases document'.modes.head? with
  | none => exact .stopped
  | some mode =>
      simp only
      rcases cursor.next mode document'.backticks with stop | _ | ⟨token, after⟩
      · exact .stopped
      · exact .finished
      have handled : Halt.Akin Document.Akin (document.handle ⟨settings, ids⟩ token)
          (document'.handle ⟨settings, ids'⟩ token) := akin.handle token
      simp only
      generalize document.handle ⟨settings, ids⟩ token = result at handled
      generalize document'.handle ⟨settings, ids'⟩ token = result' at handled
      cases handled with
      | ok same => exact .handled ⟨rfl, same⟩
      | error fault =>
          simp only [fault]
          exact .stopped

/-- Compilations that are akin take the same steps. -/
theorem Reaches.akin (reaches : first.Reaches ⟨settings, ids⟩ steps last)
    (akin : first.Akin first') :
    ∃ steps' last', first'.Reaches ⟨settings, ids'⟩ steps' last' ∧ last.Akin last' ∧
      steps.map Step.bare = steps'.map Step.bare := by
  induction reaches with
  | refl => exact ⟨[], first', .refl, akin, rfl⟩
  | @step steps before token after _ handled ih =>
      obtain ⟨steps', before', reaches, same, bare⟩ := ih
      have advance : AdvanceAkin (before.advance ⟨settings, ids⟩)
          (before'.advance ⟨settings, ids'⟩) := same.advance
      rw [handled] at advance
      generalize handled' : before'.advance ⟨settings, ids'⟩ = result at advance
      cases advance with
      | @handled _ _ after' further =>
          refine ⟨_, after', reaches.step handled', further, ?_⟩
          have here : Step.bare ⟨before.document, token⟩ = Step.bare ⟨before'.document, token⟩ :=
            congrArg (Step.mk · token) same.document
          simp only [List.map_append, bare, List.map_cons, here, List.map_nil]

end Compilation

/-! ## Labels -/

namespace Step

variable (here : Step) (back : List Step) (document : Document) (tag : Tag)

theorem encloses_bare : here.bare.encloses document.bare = here.encloses document := by
  simp only [encloses, bare, Document.bare, List.length_map]

theorem staysOpen_bare :
    here.bare.staysOpen (back.map bare) document.bare = here.staysOpen back document := by
  rw [staysOpen, List.all_map, encloses_bare]
  exact congrArg (fun encloses => back.all encloses && here.encloses document)
    (funext fun step => here.encloses_bare step.document)

theorem heldBy_bare : here.bare.heldBy (back.map bare) = here.heldBy back := by
  rw [heldBy, List.takeWhile_map, List.flatMap_map]
  exact congrArg (fun encloses => (back.takeWhile encloses).flatMap spoken)
    (funext fun step => here.encloses_bare step.document)

/-- What the steps leave of the bookmark that the first one opens, but for its id. -/
def leaves : Bookmark where
  name := Document.bookmarkName tag here.document.nextNumber
  id := []
  label := if here.staysOpen back document then [] else here.heldBy back

theorem leaves_bare : here.bare.leaves (back.map bare) document.bare tag =
    here.leaves back document tag := by
  rw [leaves, staysOpen_bare, heldBy_bare]
  rfl

end Step

/-- The bookmark without its id, which no page shows. -/
def Bookmark.withoutId (bookmark : Bookmark) : Bookmark := { bookmark with id := [] }

theorem Bookmark.entry_withoutId (bookmark : Bookmark) :
    bookmark.withoutId.entry = bookmark.entry := rfl

theorem Bookmark.contents_withoutId (bookmarks : List Bookmark) :
    contents (bookmarks.map withoutId) = contents bookmarks := by
  have entries : (bookmarks.map withoutId).flatMap entry = bookmarks.flatMap entry := by
    simp only [List.flatMap_map, entry_withoutId]
  cases bookmarks with
  | nil => rfl
  | cons bookmark bookmarks =>
      rw [List.map_cons] at entries
      unfold contents
      simp only [List.map_cons, entries]

theorem Step.Labels.getElem? {setup : Setup} {here : Step} {tag : Tag} {back : List Step}
    {last : Compilation} (labels : here.Labels setup tag back last) :
    last.document.bookmarks[here.document.bookmarks.length]?.map Bookmark.withoutId =
      some (here.leaves back last.document tag) := by
  cases stays : here.staysOpen back last.document with
  | true =>
      rw [(labels.unlabelled stays).1, leaves, stays]
      rfl
  | false =>
      rw [labels.labelled stays, leaves, stays]
      rfl

/-! ## Telling bookmarks apart -/

/-- The ids of open bookmarks have been given to bookmarks so far. -/
def Ledger.Given (newId : Nat → Text) (ledger : Ledger) : Prop :=
  ∀ id ∈ ledger.openIds, ∃ number < ledger.bookmarks.length, newId number = id

namespace Ledger.Given

variable {newId : Nat → Text} {ledger : Ledger} {bookmark? : Option Bookmark}

theorem enter (given : ledger.Given newId)
    (next : ∀ bookmark ∈ bookmark?, bookmark.id = newId ledger.bookmarks.length) :
    (ledger.enter bookmark?).Given newId := by
  cases bookmark? with
  | none => exact given
  | some bookmark =>
      have longer : (ledger.enter (some bookmark)).bookmarks.length =
          ledger.bookmarks.length + 1 := List.length_append
      intro id mem
      rw [longer]
      rcases List.mem_cons.mp mem with rfl | mem
      · exact ⟨_, Nat.lt_succ_self _, (next bookmark rfl).symm⟩
      · obtain ⟨number, bound, same⟩ := given id mem
        exact ⟨number, Nat.lt_succ_of_lt bound, same⟩

theorem leave (given : ledger.Given newId) : ledger.leave.Given newId := by
  obtain ⟨ids, captures, bookmarks⟩ := ledger
  match ids with
  | [] => exact given
  | none :: outer => exact given
  | some id :: outer =>
      intro other mem
      obtain ⟨number, bound, same⟩ := given other (List.mem_cons_of_mem id mem)
      exact ⟨number, by simpa [Ledger.leave] using bound, same⟩

end Ledger.Given

theorem Document.Handling.given {setup : Setup} {before after : Document} {token : Token}
    (handling : Handling setup before token after) (given : before.ledger.Given setup.newId) :
    after.ledger.Given setup.newId := by
  have next (tag : Tag) : ∀ bookmark ∈ before.bookmarkOf? setup tag,
      bookmark.id = setup.newId before.ledger.bookmarks.length := by
    intro bookmark adds
    rw [bookmarkOf?] at adds
    split at adds
    · obtain rfl := Option.some.inj adds
      rfl
    · cases adds
  rw [handling.ledger]
  cases token.form with
  | openTag tag => exact given.enter (next tag)
  | closeTag => exact given.leave
  | selfCloseTag tag => exact (given.enter (next tag)).leave
  | text | newline | pipe | backtick => exact given

open Compilation

/-- Bookmarks that are open at the same time have different ids, as far as the source is read. -/
def Setup.TellsApart (setup : Setup) (source : Text) : Prop :=
  ∀ steps last, (opening setup.settings source).Reaches setup steps last →
    ∀ step ∈ steps, step.Fresh setup

/-- Ids that are never given again tell all bookmarks apart. -/
theorem Setup.tellsApart_of_injective {setup : Setup}
    (injective : ∀ number number', setup.newId number = setup.newId number' → number = number')
    (source : Text) : setup.TellsApart source := by
  intro steps last reaches step mem tag opens element inside same
  obtain ⟨front, back, rfl⟩ := List.append_of_mem mem
  obtain ⟨before, -, earlier, here, -, -⟩ := reaches.at_step
  have given : before.document.ledger.Given setup.newId :=
    earlier.invariant (fun here => here.document.ledger.Given setup.newId)
      (fun handled given => (handling_of_handled handled).given given) nofun
  rw [here] at inside same
  have open? : setup.newId before.document.bookmarks.length ∈ before.document.ledger.openIds := by
    rw [Document.openIds_ledger]
    exact List.mem_filterMap.mpr ⟨element, inside, same⟩
  obtain ⟨number, bound, again⟩ := given _ open?
  exact absurd (injective _ _ again) (Nat.ne_of_lt bound)

/-- One run to the end shows whether bookmarks are told apart. -/
theorem Setup.tellsApart_of_run {setup : Setup} {source : Text} {steps : List Step}
    {last : Compilation} (reaches : (opening setup.settings source).Reaches setup steps last)
    (ended : ∀ token after, last.advance setup ≠ .handled token after)
    (fresh : ∀ step ∈ steps, step.Fresh setup) : setup.TellsApart source := by
  intro steps' last' part step mem
  obtain ⟨back, rfl, -⟩ := reaches.prefix_of_ended ended part
  exact fresh step (List.mem_append_left back mem)

/-! ## Pages -/

/-- After the same steps there are the same bookmarks, but for ids. -/
theorem Compilation.Reaches.withoutId {settings : Settings} {ids ids' : Nat → Text} {source : Text}
    {steps steps' : List Step} {last last' : Compilation}
    (reaches : (opening settings source).Reaches ⟨settings, ids⟩ steps last)
    (reaches' : (opening settings source).Reaches ⟨settings, ids'⟩ steps' last')
    (fresh : ∀ step ∈ steps, step.Fresh ⟨settings, ids⟩)
    (fresh' : ∀ step ∈ steps', step.Fresh ⟨settings, ids'⟩)
    (akin : last.document.Akin last'.document) (same : steps.map Step.bare = steps'.map Step.bare) :
    last.document.bookmarks.map Bookmark.withoutId =
      last'.document.bookmarks.map Bookmark.withoutId := by
  have length : last.document.bookmarks.length = last'.document.bookmarks.length := by
    have lengths := congrArg (fun document => document.bookmarks.length) akin
    simpa only [Document.bare, List.length_map] using lengths
  apply List.ext_getElem?
  intro number
  rw [List.getElem?_map, List.getElem?_map]
  by_cases bound : number < last.document.bookmarks.length
  · obtain ⟨front, here, back, tag, rfl, opens, rfl⟩ := reaches.exists_opening bound
    -- At the same place the other run opens the same bookmark.
    simp only [List.map_append, List.map_cons] at same
    obtain ⟨front', others, rfl, -, same⟩ := List.map_eq_append_iff.mp same.symm
    obtain ⟨here', back', rfl, first, later⟩ := List.map_eq_cons_iff.mp same
    have token : here'.token = here.token := congrArg (fun step => step.token) first
    have place := congrArg (fun step => step.document.bookmarks.length) first
    simp only [Step.bare, Document.bare, List.length_map] at place
    have labels := (reaches.follows fresh rfl opens).labels (reaches.sound fresh)
    have labels' := (reaches'.follows fresh' rfl (token ▸ opens)).labels (reaches'.sound fresh')
    rw [labels.getElem?, ← place, labels'.getElem?, ← here.leaves_bare, ← here'.leaves_bare, first,
      later, akin]
  · rw [List.getElem?_eq_none (Nat.le_of_not_lt bound),
      List.getElem?_eq_none (length ▸ Nat.le_of_not_lt bound)]

theorem leftOpen?_bare (settings : Settings) (document : Document) :
    leftOpen? settings document.bare = leftOpen? settings document := by
  unfold leftOpen? Document.bare
  cases document.elements <;> rfl

/-- Whatever ids tell apart the bookmarks that are open at the same time, there is the same page or
the same fault. -/
theorem bookmark_ids_do_not_show {settings : Settings} {ids ids' : Nat → Text} {source : Text}
    (apart : Setup.TellsApart ⟨settings, ids⟩ source)
    (apart' : Setup.TellsApart ⟨settings, ids'⟩ source) :
    compileWith ⟨settings, ids⟩ source = compileWith ⟨settings, ids'⟩ source := by
  obtain ⟨steps, last, reaches, ends⟩ :=
    exists_reaches_run ⟨settings, ids⟩ (opening settings source)
  obtain ⟨steps', last', reaches', akin, same⟩ :=
    @Reaches.akin settings ids ids' _ _ _ _ reaches ⟨rfl, rfl⟩
  have advance : AdvanceAkin (last.advance ⟨settings, ids⟩) (last'.advance ⟨settings, ids'⟩) :=
    akin.advance
  generalize advanced : last'.advance ⟨settings, ids'⟩ = result at advance
  rw [compileWith_eq, compileWith_eq]
  simp only [reaches'.run_eq]
  rcases ends with ⟨finished, run⟩ | ⟨token?, fault, after, stopped, run⟩
  · rw [finished] at advance
    cases advance
    have bookmarks := reaches.withoutId reaches' (apart steps last reaches)
      (apart' steps' last' reaches') akin.document same
    have left := congrArg (leftOpen? settings) akin.document
    rw [leftOpen?_bare, leftOpen?_bare] at left
    have render : last.document.render = last'.document.render := by
      rw [Document.render, ← Bookmark.contents_withoutId, bookmarks, Bookmark.contents_withoutId,
        akin.document.page, akin.document.hasContents, ← Document.render]
    simp only [run, run_of_finished advanced, left, render]
  · rw [stopped] at advance
    cases advance
    simp only [run, run_of_stopped advanced]

/-- One id for two bookmarks that are not open at the same time leads to the same page as two. -/
theorem one_id_serves_bookmarks_apart :
    compileWith { newId := fun _ => ['k'] }
        "<tableofcontents/><bookmark/><bookmark>a</bookmark>".toList =
      compileWith { newId := fun number => List.replicate number 'k' }
        "<tableofcontents/><bookmark/><bookmark>a</bookmark>".toList := by
  have normal : Mode.normal ≠ .code ∧ Mode.normal ≠ .inlineCode := by decide
  have contents : Cursor.IsTagName "tableofcontents".toList := by decide
  have bookmark : Cursor.IsTagName "bookmark".toList := by decide
  have asks := Cursor.next_writtenTag normal.1 normal.2 false contents (List.forall_mem_nil _) true
    "<bookmark/><bookmark>a</bookmark>".toList 0
  have alone := Cursor.next_writtenTag normal.1 normal.2 false bookmark (List.forall_mem_nil _) true
    "<bookmark>a</bookmark>".toList 18
  have opens := Cursor.next_writtenTag normal.1 normal.2 false bookmark (List.forall_mem_nil _) false
    "a</bookmark>".toList 29
  have speaks : (⟨"a</bookmark>".toList, 39⟩ : Cursor).next .normal false =
      .ok (some (⟨.text ['a'], 39⟩, ⟨"</bookmark>".toList, 40⟩)) :=
    Cursor.next_writtenChar normal.1 normal.2 rfl rfl _
  have closes := Cursor.next_writtenClose normal.1 normal.2 false bookmark.1 [] 40
  have run : ∃ first second third fourth fifth last,
      (opening {} "<tableofcontents/><bookmark/><bookmark>a</bookmark>".toList).Reaches
        { newId := fun _ => ['k'] } [first, second, third, fourth, fifth] last ∧
      last.advance { newId := fun _ => ['k'] } = .finished ∧
      first.token.bookmarkTag? = none ∧ second.document.elements = [] ∧
      third.document.elements = [] ∧ fourth.token.bookmarkTag? = none ∧
      fifth.token.bookmarkTag? = none :=
    ⟨_, _, _, _, _, _, .step (.step (.step (.step (.step .refl (advance_of_next rfl asks rfl))
      (advance_of_next rfl alone rfl)) (advance_of_next rfl opens rfl))
      (advance_of_next rfl speaks rfl)) (advance_of_next rfl closes rfl), advance_at_end rfl rfl,
      rfl, rfl, rfl, rfl, rfl⟩
  obtain ⟨first, second, third, fourth, fifth, last, reaches, finished, untagged, none, none',
    untagged', untagged''⟩ := run
  refine bookmark_ids_do_not_show (Setup.tellsApart_of_run reaches ?_ ?_)
    (Setup.tellsApart_of_injective ?_ _)
  · intro token after handled
    rw [finished] at handled
    cases handled
  · intro step mem tag opened element inside
    simp only [List.mem_cons, List.not_mem_nil, or_false] at mem
    rcases mem with rfl | rfl | rfl | rfl | rfl
    · simp [untagged] at opened
    · simp [none] at inside
    · simp [none'] at inside
    · simp [untagged'] at opened
    · simp [untagged''] at opened
  · intro number number' same
    simpa using congrArg List.length same

end PageMarkup
