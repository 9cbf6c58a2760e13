import PageMarkup.Proofs.Handling.Refusals
import PageMarkup.Proofs.Modes
import PageMarkup.Proofs.Page
import PageMarkup.Proofs.Reading.Faults

/-! # The table of contents

A table of contents is put where the one tag stood that asks for it, and it lists all bookmarks of
the page, those after the place too. -/

namespace PageMarkup

open Compilation

variable {setup : Setup} {source : Text} {steps : List Step} {last : Compilation}

/-! ## Bookmarks -/

/-- The tag of the bookmark that a token opens. -/
def Token.bookmarkTag? (token : Token) : Option Tag :=
  token.opens?.filter fun tag => tag.role = .bookmark

theorem Token.opens?_of_bookmarkTag? {token : Token} {tag : Tag}
    (h : token.bookmarkTag? = some tag) : token.opens? = some tag ∧ tag.role = .bookmark := by
  rw [Token.bookmarkTag?, Option.filter_eq_some_iff] at h
  exact ⟨h.1, by simpa using h.2⟩

namespace Document

variable {before after : Document} {token : Token}

theorem OpenSpec.bookmark {tag : Tag} (opening : OpenSpec setup tag.proper before after) :
    after.bookmarks.map Bookmark.name = before.bookmarks.map Bookmark.name ++
        (if tag.role = .bookmark then [bookmarkName tag before.nextNumber] else []) ∧
      after.nextNumber = before.nextNumber + if takesNumber tag then 1 else 0 := by
  rw [opening.bookmarks, opening.number, List.map_append, newBookmarks, takesNumber, takesNumber,
    Tag.role_proper]
  by_cases role : tag.role = .bookmark
  · rw [Tag.proper_eq_self (by simp [role]), if_pos role, if_pos role]
    exact ⟨rfl, rfl⟩
  · simp [role]

theorem Handling.bookmark (handling : Handling setup before token after) :
    after.bookmarks.map Bookmark.name = before.bookmarks.map Bookmark.name ++
        (token.bookmarkTag?.map fun tag => bookmarkName tag before.nextNumber).toList ∧
      after.nextNumber = before.nextNumber + token.bookmarkTag?.toList.countP takesNumber := by
  have opened {tag : Tag} {form : Token.Form} {offset : Int} (inside : Document)
      (opens : (⟨form, offset⟩ : Token).opens? = some tag)
      (opening : OpenSpec setup tag.proper before inside) :
      inside.bookmarks.map Bookmark.name = before.bookmarks.map Bookmark.name ++
          ((⟨form, offset⟩ : Token).bookmarkTag?.map fun tag =>
            bookmarkName tag before.nextNumber).toList ∧
        inside.nextNumber = before.nextNumber +
          (⟨form, offset⟩ : Token).bookmarkTag?.toList.countP takesNumber := by
    rw [opening.bookmark.1, opening.bookmark.2, Token.bookmarkTag?, opens]
    by_cases role : tag.role = .bookmark
    · rw [Option.filter_some_pos (by simpa using role), if_pos role]
      simp [List.countP_cons]
    · rw [Option.filter_some_neg (by simpa using role), if_neg role]
      simp [takesNumber, role]
  cases handling with
  | text | inlineCode | captured | newline | pipe | backtick | codeStarts | codeEnds =>
      simp [Token.bookmarkTag?, Token.opens?, emitText, emit, enterMode]
  | @opens _ _ inside opening => exact opened inside rfl opening
  | closes _ _ _ closing | closesCapture _ _ _ closing =>
      simp [Token.bookmarkTag?, Token.opens?, closing.bookmarks, closing.number]
  | @selfCloses _ _ inside _ opening closing =>
      rw [closing.bookmarks, closing.number]
      exact opened inside rfl opening

/-! ## The place of the contents -/

/-- The token opens a tag that asks for a table of contents, and no comment is open. -/
def asksContents (document : Document) (token : Token) : Bool :=
  (token.opens?.any fun tag => tag.role = .contents) && !document.commented

theorem Balanced.marksContents_eq {document : Document} (balanced : document.Balanced) (tag : Tag) :
    document.marksContents tag.proper =
      (decide (tag.role = .contents) && !document.commented) := by
  rw [marksContents, Tag.role_proper, balanced.shows_eq]

theorem Balanced.asksContents_iff {document : Document} (balanced : document.Balanced) :
    document.asksContents token = true ↔
      ∃ tag, token.opens? = some tag ∧ document.marksContents tag.proper = true := by
  rw [asksContents]
  cases opens : token.opens? with
  | none => simp
  | some tag => simp [balanced.marksContents_eq]

theorem Handling.contents (handling : Handling setup before token after)
    (balanced : before.Balanced) :
    after.hasContents = (before.hasContents || before.asksContents token) ∧
      after.page.mark? = if before.asksContents token then some before.page.text.length
        else before.page.mark? := by
  have marks := balanced.marksContents_eq
  cases handling with
  | text | inlineCode | captured | newline | pipe | backtick | codeStarts | codeEnds =>
      simp [asksContents, Token.opens?, emitText, emit, enterMode]
  | opens opening =>
      rw [asksContents, Token.opens?, Option.any_some, ← marks]
      exact ⟨opening.contents, opening.mark?_page⟩
  | closes _ _ _ closing | closesCapture _ _ _ closing =>
      simp [asksContents, Token.opens?, closing.contents, closing.mark?_page]
  | selfCloses opening closing =>
      rw [asksContents, Token.opens?, Option.any_some, ← marks, closing.contents,
        closing.mark?_page]
      exact ⟨opening.contents, opening.mark?_page⟩

/-! ### The place on the page -/

/-- The page knows how many comments are open, and the place of the contents is a place on it. -/
structure Laid (document : Document) : Prop where
  balanced : document.Balanced
  placed : ∀ place ∈ document.page.mark?, place ≤ document.page.text.length

theorem Handling.laid (handling : Handling setup before token after) (laid : before.Laid) :
    after.Laid := by
  refine ⟨handling.balanced laid.balanced, fun place marked => ?_⟩
  have longer : before.page.text.length ≤ after.page.text.length := by
    rw [handling.text_page, List.length_append]
    exact Nat.le_add_right _ _
  rw [(handling.contents laid.balanced).2] at marked
  split at marked
  · obtain rfl := Option.some.inj marked
    exact longer
  · exact Nat.le_trans (laid.placed place marked) longer

/-- With no element open, what is added to the page is added at its end. -/
theorem Laid.render_emit {document : Document} (laid : document.Laid)
    (closed : document.elements = []) (fragment : Text) :
    (document.emit fragment).render = document.render ++ fragment := by
  have shows : document.page.shows = true := by
    rw [laid.balanced.shows_eq, commented, closed]
    rfl
  have text := Sink.text_emit_of_shows shows fragment
  simp only [render, emit, Sink.render, Sink.mark?_emit, text]
  split
  · rfl
  · next place marked =>
      have within := laid.placed place marked
      rw [List.take_append_of_le_length within, List.drop_append_of_le_length within]
      simp only [List.append_assoc]
      rfl

/-! ### A second table of contents -/

/-- A second table of contents is refused. -/
theorem handle_of_repeatedContents {tag : Tag} (opens : token.opens? = some tag)
    (marks : before.marksContents tag.proper = true) (asked : before.hasContents = true) :
    before.handle setup token = .error ⟨⟨.repeatedContents, tag.offset⟩, before⟩ := by
  have pushed : before.push setup tag = .error ⟨⟨.repeatedContents, tag.offset⟩, before⟩ := by
    simp only [marksContents, Bool.and_eq_true, decide_eq_true_eq] at marks
    simp [push, marks.1, marks.2, asked, Tag.proper_offset]
  obtain ⟨form, offset⟩ := token
  cases form with
  | openTag written =>
      obtain rfl : written = tag := Option.some.inj opens
      simp only [handle, handleOpen, pushed]
      rfl
  | selfCloseTag written =>
      obtain rfl : written = tag := Option.some.inj opens
      simp only [handle, handleSelfClose, pushed]
      rfl
  | text | newline | pipe | closeTag | backtick => cases opens

theorem Refusal.asks_of_repeatedContents {fault : Fault}
    (refusal : Refusal setup before token fault) (h : fault.cause = .repeatedContents) :
    before.hasContents = true ∧ ∃ tag, token.opens? = some tag ∧ tag.offset = fault.offset ∧
      before.marksContents tag.proper = true := by
  cases refusal with
  | repeatedContents opens marks asked => exact ⟨asked, _, opens, rfl, marks⟩
  | noMode | noModeToLeave | noOpenTag | mismatched => cases h
  | listing closes role refusal =>
      obtain rfl : _ = Cause.repeatedContents := h
      cases refusal

end Document

/-! ## Runs -/

namespace Step

/-- The step asks for a table of contents. -/
def asksContents (step : Step) : Bool := step.document.asksContents step.token

/-- The tags of the bookmarks that the steps open. -/
def bookmarkTags (steps : List Step) : List Tag :=
  steps.filterMap fun step => step.token.bookmarkTag?

theorem bookmarkTags_snoc (steps : List Step) (document : Document) (token : Token) :
    bookmarkTags (steps ++ [⟨document, token⟩]) =
      bookmarkTags steps ++ token.bookmarkTag?.toList := by
  rw [bookmarkTags, List.filterMap_append]
  cases opened : token.bookmarkTag? <;> simp [opened, bookmarkTags]

end Step

open Document

/-- There is a name for each tag of a bookmark: the one that the tag gives, or the next number. -/
structure NamedFor (tags : List Tag) (names : List Text) : Prop where
  length : names.length = tags.length
  name : ∀ i tag, tags[i]? = some tag →
    names[i]? = some (bookmarkName tag ((tags.take i).countP takesNumber + 1))

theorem NamedFor.snoc {tags : List Tag} {names : List Text} (named : NamedFor tags names)
    (tag : Tag) :
    NamedFor (tags ++ [tag]) (names ++ [bookmarkName tag (tags.countP takesNumber + 1)]) where
  length := by rw [List.length_append, List.length_append, named.length]; rfl
  name := by
    intro i found present
    by_cases earlier : i < tags.length
    · rw [List.getElem?_append_left earlier] at present
      rw [List.getElem?_append_left (named.length ▸ earlier), named.name i found present,
        List.take_append_of_le_length (Nat.le_of_lt earlier)]
    · have last : i = tags.length := by
        have bound := (List.getElem?_eq_some_iff.mp present).1
        rw [List.length_append, List.length_singleton] at bound
        omega
      subst last
      obtain rfl : tag = found := by simpa using present
      rw [← named.length, List.getElem?_concat_length, named.length, List.take_left]

/-- The one step that asks for a table of contents, and the place on the page where it does. -/
inductive Marked (setup : Setup) (steps : List Step) (document : Document) : Prop
  | unmarked (unasked : document.hasContents = false)
      (none : ∀ step ∈ steps, step.asksContents = false)
  | marked {front mark back} (asked : document.hasContents = true)
      (split : steps = front ++ mark :: back) (asks : mark.asksContents = true)
      (alone : ∀ step ∈ front ++ back, step.asksContents = false)
      (place : document.page.mark? = some (Step.shownBy setup front).length)

/-- There is only one place where the step that asks can stand. -/
theorem Marked.front_unique {front front' back back' : List Step} {mark mark' : Step}
    (same : front ++ mark :: back = front' ++ mark' :: back') (asks : mark.asksContents = true)
    (alone : ∀ step ∈ front' ++ back', step.asksContents = false) : front = front' := by
  have elsewhere (mem : mark ∈ front' ++ back') : False := by
    have silent := alone mark mem
    rw [asks] at silent
    cases silent
  rcases List.append_eq_append_iff.mp same with ⟨more, split, rest⟩ | ⟨more, split, rest⟩
  · cases more with
    | nil => rw [split, List.append_nil]
    | cons first more =>
        obtain rfl : mark = first := (List.cons.inj rest).1
        exact (elsewhere (List.mem_append_left _ (by simp [split]))).elim
  · cases more with
    | nil => rw [split, List.append_nil]
    | cons first more =>
        have later : back' = more ++ mark :: back := (List.cons.inj rest).2
        exact (elsewhere (List.mem_append_right _ (by simp [later]))).elim

theorem Marked.asks_iff {document : Document} (marked : Marked setup steps document) :
    document.hasContents = true ↔ ∃ step ∈ steps, step.asksContents = true := by
  cases marked with
  | unmarked unasked none =>
      refine ⟨fun asked => by simp [asked] at unasked, ?_⟩
      rintro ⟨step, mem, asks⟩
      simp [none step mem] at asks
  | marked asked split asks =>
      refine ⟨fun _ => ⟨_, ?_, asks⟩, fun _ => asked⟩
      rw [split]
      exact List.mem_append_right _ List.mem_cons_self

namespace Compilation.Reaches

theorem bookmarks (h : (opening setup.settings source).Reaches setup steps last) :
    NamedFor (Step.bookmarkTags steps) (last.document.bookmarks.map Bookmark.name) ∧
      last.document.nextNumber = (Step.bookmarkTags steps).countP takesNumber + 1 := by
  induction h with
  | refl => exact ⟨⟨rfl, nofun⟩, rfl⟩
  | @step steps before token after earlier handled ih =>
      obtain ⟨named, number⟩ := ih
      obtain ⟨names, next⟩ := (handling_of_handled handled).bookmark
      rw [Step.bookmarkTags_snoc, names, next, number, List.countP_append]
      refine ⟨?_, by omega⟩
      cases token.bookmarkTag? with
      | none => simpa using named
      | some tag => exact named.snoc tag

theorem laid (h : (start setup.settings source).Reaches setup steps last) :
    last.document.Laid := by
  refine h.invariant (fun here => here.document.Laid) (fun handled laid => ?_) ⟨rfl, nofun⟩
  exact (handling_of_handled handled).laid laid

/-- There are never two steps that ask for a table of contents. -/
theorem marked (h : (opening setup.settings source).Reaches setup steps last) :
    Marked setup steps last.document := by
  induction h with
  | refl => exact .unmarked rfl nofun
  | @step steps before token after earlier handled ih =>
      obtain ⟨-, handled⟩ := advance_eq_handled_iff.mp handled
      obtain ⟨asked, mark⟩ := (handling_of_handle handled).contents earlier.balanced
      cases asks : before.document.asksContents token with
      | true =>
          rw [asks] at asked mark
          cases ih with
          | unmarked unasked none =>
              have split : steps ++ [⟨before.document, token⟩] =
                  steps ++ ⟨before.document, token⟩ :: [] := rfl
              refine .marked (by simp [asked]) split asks (by simpa using none) ?_
              rw [mark, if_pos rfl, earlier.text_page]
          | marked already =>
              obtain ⟨tag, opens, marks⟩ := earlier.balanced.asksContents_iff.mp asks
              rw [handle_of_repeatedContents opens marks already] at handled
              cases handled
      | false =>
          rw [asks, Bool.or_false] at asked
          rw [asks, if_neg (by simp)] at mark
          have silent : ∀ step ∈ [(⟨before.document, token⟩ : Step)],
              step.asksContents = false := by simpa [Step.asksContents] using asks
          cases ih with
          | unmarked unasked none =>
              refine .unmarked (asked.trans unasked) fun step mem => ?_
              rcases List.mem_append.mp mem with mem | mem
              · exact none step mem
              · exact silent step mem
          | @marked front here back already split marks alone place =>
              have later : steps ++ [⟨before.document, token⟩] =
                  front ++ here :: (back ++ [⟨before.document, token⟩]) := by
                rw [split, List.append_assoc, List.cons_append]
              refine .marked (asked.trans already) later marks (fun step mem => ?_)
                (mark.trans place)
              rw [← List.append_assoc] at mem
              rcases List.mem_append.mp mem with mem | mem
              · exact alone step mem
              · exact silent step mem

end Compilation.Reaches

/-! ## Pages -/

/-- The page that steps and bookmarks make: the table of contents at the place of the step that asks
for it, among what all steps show. -/
structure Assembled (setup : Setup) (steps : List Step) (bookmarks : List Bookmark) (page : Text) :
    Prop where
  spliced : ∀ {front mark back}, steps = front ++ mark :: back → mark.asksContents = true →
    bookmarks ≠ [] →
    page = (Step.shownBy setup steps).take (Step.shownBy setup front).length ++
      Bookmark.contents bookmarks ++
        (Step.shownBy setup steps).drop (Step.shownBy setup front).length
  plain : (∀ step ∈ steps, step.asksContents = false) ∨ bookmarks = [] →
    page = Step.shownBy setup steps

theorem Compilation.Reaches.assembled
    (h : (opening setup.settings source).Reaches setup steps last) :
    Assembled setup steps last.document.bookmarks last.document.render := by
  have text := h.text_page
  cases h.marked with
  | unmarked unasked none =>
      have page : last.document.render = Step.shownBy setup steps := by
        simp [render, unasked, text]
      refine ⟨fun {front mark back} split asks _ => ?_, fun _ => page⟩
      have silent := none mark (by simp [split])
      rw [asks] at silent
      cases silent
  | marked asked split asks alone place =>
      constructor
      · intro front mark back split' asks' _
        obtain rfl := Marked.front_unique (split'.symm.trans split) asks' alone
        rw [render, if_pos asked, Sink.render, place, ← text]
      · rintro (none | empty)
        · have silent := none _ (by rw [split]; exact List.mem_append_right _ List.mem_cons_self)
          rw [asks] at silent
          cases silent
        · have absent : Bookmark.contents last.document.bookmarks = [] := by rw [empty]; rfl
          rw [render, if_pos asked, absent, Sink.render_nil, text]

/-- Faults other than a second table of contents have another cause. -/
theorem repeatedContents_iff {offset : Int} :
    compileWith setup source = .error ⟨.repeatedContents, offset⟩ ↔
      ∃ steps last token after tag, (opening setup.settings source).Reaches setup steps last ∧
        last.Reads token after ∧ token.opens? = some tag ∧ tag.offset = offset ∧
        last.document.asksContents token = true ∧ ∃ step ∈ steps, step.asksContents = true := by
  rw [compileWith_eq_error_iff]
  constructor
  · rintro ⟨steps, last, reaches, ⟨token?, after, stopped⟩ | ⟨-, left⟩⟩
    · rcases advance_eq_stopped stopped with
        missing | ⟨mode, stop, -, read, fault⟩ | ⟨token, cursor, halt, read, refused, fault⟩
      · exact absurd missing reaches.coherent.mode?_ne_none
      · obtain ⟨_, _, -, -, met⟩ := Cursor.next_error read
        rw [← fault] at met
        exact met.elim
      · obtain ⟨asked, tag, opens, place, marks⟩ :=
          (refusal_of_handle refused).asks_of_repeatedContents (fault ▸ rfl)
        rw [← fault] at place
        exact ⟨steps, last, token, cursor, tag, reaches, read, opens, place,
          reaches.balanced.asksContents_iff.mpr ⟨tag, opens, marks⟩,
          reaches.marked.asks_iff.mp asked⟩
    · unfold leftOpen? at left
      split at left
      · split at left <;> cases left
      · cases left
  · rintro ⟨steps, last, token, after, tag, reaches, read, opens, rfl, asks, earlier⟩
    have asked := reaches.marked.asks_iff.mpr earlier
    obtain ⟨tag', opens', marks⟩ := reaches.balanced.asksContents_iff.mp asks
    obtain rfl : tag = tag' := Option.some.inj (opens.symm.trans opens')
    have refused : last.document.handle setup token = .error _ :=
      handle_of_repeatedContents opens marks asked
    exact ⟨steps, last, reaches, .inl ⟨_, _, advance_of_refused read refused⟩⟩

/-- A page is what its tokens show outside comments, with the table of contents at the one place
where a tag asks for it outside comments. The table lists every bookmark of the page under its last
label, also those behind the place. A second such tag is refused, and nothing else is refused so. -/
theorem contents_stand_where_asked (setup : Setup) (source : Text) :
    (∀ page, compileWith setup source = .ok page → ∃ steps last,
      (opening setup.settings source).Reaches setup steps last ∧ last.cursor.rest = [] ∧
        NamedFor (Step.bookmarkTags steps) (last.document.bookmarks.map Bookmark.name) ∧
        Assembled setup steps last.document.bookmarks page) ∧
    ∀ offset, compileWith setup source = .error ⟨.repeatedContents, offset⟩ ↔
      ∃ steps last token after tag, (opening setup.settings source).Reaches setup steps last ∧
        last.Reads token after ∧ token.opens? = some tag ∧ tag.offset = offset ∧
        last.document.asksContents token = true ∧ ∃ step ∈ steps, step.asksContents = true := by
  refine ⟨fun page compiled => ?_, fun offset => repeatedContents_iff⟩
  obtain ⟨steps, last, reaches, finished, -, rfl⟩ := compileWith_eq_ok_iff.mp compiled
  exact ⟨steps, last, reaches, rest_eq_nil_of_finished finished, reaches.bookmarks.1,
    reaches.assembled⟩

/-- A bookmark behind the place of the table of contents is listed in it. -/
theorem bookmark_behind_contents_is_listed :
    compileWith { newId := fun _ => ['k'] }
        "a<tableofcontents/><bookmark name=\"x\">b</bookmark>".toList =
      .ok (['a'] ++ Bookmark.contents [{ name := ['x'], id := ['k'], label := ['b'] }] ++
        "<a name=\"x\"></a>b".toList) := by
  have normal : Mode.normal ≠ .code ∧ Mode.normal ≠ .inlineCode := by decide
  have contents : Cursor.IsTagName "tableofcontents".toList := by decide
  have bookmark : Cursor.IsTagName "bookmark".toList := by decide
  have speaks : (⟨"a<tableofcontents/><bookmark name=\"x\">b</bookmark>".toList, 0⟩ : Cursor).next
      .normal false = .ok (some (⟨.text ['a'], 0⟩,
        ⟨"<tableofcontents/><bookmark name=\"x\">b</bookmark>".toList, 1⟩)) :=
    Cursor.next_writtenChar normal.1 normal.2 rfl rfl _
  have asks := Cursor.next_writtenTag normal.1 normal.2 false contents (List.forall_mem_nil _) true
    "<bookmark name=\"x\">b</bookmark>".toList 1
  have opens := @Cursor.next_writtenTag _ normal.1 normal.2 false _
    [("name".toList, ['x'])] bookmark (by decide) false "b</bookmark>".toList 19
  have labels : (⟨"b</bookmark>".toList, 38⟩ : Cursor).next .normal false =
      .ok (some (⟨.text ['b'], 38⟩, ⟨"</bookmark>".toList, 39⟩)) :=
    Cursor.next_writtenChar normal.1 normal.2 rfl rfl _
  have closes := Cursor.next_writtenClose normal.1 normal.2 false bookmark.1 [] 39
  have run : ∃ first mark back last,
      (opening {} "a<tableofcontents/><bookmark name=\"x\">b</bookmark>".toList).Reaches
        { newId := fun _ => ['k'] } (first :: mark :: back) last ∧
      last.cursor.rest = [] ∧ last.document.mode? = some .normal ∧ last.document.elements = [] ∧
      mark.asksContents = true ∧
      last.document.bookmarks = [{ name := ['x'], id := ['k'], label := ['b'] }] ∧
      Step.shownBy { newId := fun _ => ['k'] } [first] = ['a'] ∧
      Step.shownBy { newId := fun _ => ['k'] } (mark :: back) = "<a name=\"x\"></a>b".toList :=
    ⟨_, _, _, _, .step (.step (.step (.step (.step .refl (advance_of_next rfl speaks rfl))
      (advance_of_next rfl asks rfl)) (advance_of_next rfl opens rfl))
      (advance_of_next rfl labels rfl)) (advance_of_next rfl closes rfl),
      rfl, rfl, rfl, rfl, rfl, rfl, rfl⟩
  obtain ⟨first, mark, back, last, reaches, ended, current, closed, asked, listed, before,
    behind⟩ := run
  have finished := @advance_at_end { newId := fun _ => ['k'] } _ _ current ended
  have compiled := compileWith_eq_ok_iff.mpr
    ⟨_, last, reaches, finished, by simp only [leftOpen?, closed], rfl⟩
  obtain ⟨steps, last', reaches', ended', -, assembled⟩ :=
    (contents_stand_where_asked { newId := fun _ => ['k'] } _).1 _ compiled
  obtain ⟨rfl, rfl⟩ := reaches.eq_of_rest_eq_nil finished reaches' ended'
  have whole : Step.shownBy { newId := fun _ => ['k'] } (first :: mark :: back) =
      ['a'] ++ "<a name=\"x\"></a>b".toList := by
    rw [← before, ← behind, Step.shownBy, Step.shownBy, Step.shownBy, ← List.flatMap_append]
    rfl
  have page := assembled.spliced (show first :: mark :: back = [first] ++ mark :: back from rfl)
    asked (by simp [listed])
  rw [whole, before, listed, List.take_left, List.drop_left] at page
  rw [compiled, page]

end PageMarkup
