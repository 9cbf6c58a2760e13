import PageMarkup.Proofs.Bookmarks.Labels

/-! # Anchors

The table of contents links to every bookmark. The anchor that such a link leads to is on the page
where the bookmark was opened, unless that was inside a comment: there the bookmark is listed all
the same, and nothing of it is shown. -/

namespace PageMarkup

open Compilation

variable {setup : Setup} {source : Text} {steps : List Step} {last : Compilation}

/-! ## What a step shows -/

namespace Step

/-- A step that opens a bookmark shows its anchor and nothing else. -/
theorem shown_of_bookmarkTag {here : Step} {tag : Tag} (h : here.token.bookmarkTag? = some tag) :
    here.shown setup = if here.document.commented then [] else
      Bookmark.anchor { name := Document.bookmarkName tag here.document.nextNumber, id := [] } := by
  obtain ⟨opens, role⟩ := Token.opens?_of_bookmarkTag? h
  obtain ⟨document, ⟨form, offset⟩⟩ := here
  have proper : tag.proper = tag := Tag.proper_eq_self (by simp [role])
  have starts : Document.startMarkup tag document.nextNumber =
      Bookmark.anchor { name := Document.bookmarkName tag document.nextNumber, id := [] } := by
    simp only [Document.startMarkup, role]
  have ends : Document.endMarkup setup (document.opened setup tag) = [] := by
    have same : (document.opened setup tag).role = .bookmark := role
    simp only [Document.endMarkup, same]
  cases form with
  | openTag written =>
      obtain rfl : written = tag := Option.some.inj opens
      simp only [shown, Document.fragment, proper, starts]
  | selfCloseTag written =>
      obtain rfl : written = tag := Option.some.inj opens
      simp only [shown, Document.fragment, proper, starts, ends, List.append_nil]
  | text | newline | pipe | closeTag | backtick => cases opens

theorem shown_isInfix_shownBy {here : Step} (mem : here ∈ steps) :
    here.shown setup <:+: shownBy setup steps := by
  obtain ⟨front, back, rfl⟩ := List.append_of_mem mem
  rw [shownBy, List.flatMap_append, List.flatMap_cons, ← List.append_assoc]
  exact List.infix_append _ _ _

end Step

/-- What a step shows is on the page in one piece: the table of contents stands between steps. -/
theorem Compilation.Reaches.shown_isInfix_render
    (h : (opening setup.settings source).Reaches setup steps last) {here : Step}
    (mem : here ∈ steps) : here.shown setup <:+: last.document.render := by
  have text := h.text_page
  cases h.marked with
  | unmarked unasked =>
      have page : last.document.render = Step.shownBy setup steps := by
        simp [Document.render, unasked, text]
      rw [page]
      exact Step.shown_isInfix_shownBy mem
  | @marked front mark back asked split asks alone place =>
      have parts : last.document.page.text =
          Step.shownBy setup front ++ Step.shownBy setup (mark :: back) := by
        rw [text, split, Step.shownBy, List.flatMap_append]
        rfl
      have page : last.document.render = Step.shownBy setup front ++
          Bookmark.contents last.document.bookmarks ++ Step.shownBy setup (mark :: back) := by
        rw [Document.render, if_pos asked, Sink.render, place, parts]
        simp only [List.take_left, List.drop_left]
      rw [split] at mem
      rw [page]
      rcases List.mem_append.mp mem with before | behind
      · rw [List.append_assoc]
        exact (Step.shown_isInfix_shownBy before).trans (List.prefix_append _ _).isInfix
      · exact (Step.shown_isInfix_shownBy behind).trans (List.suffix_append _ _).isInfix

/-- Every bookmark has been opened by a step, which shows its anchor outside comments. -/
theorem Compilation.Reaches.exists_showing
    (h : (opening setup.settings source).Reaches setup steps last) {number : Nat}
    {bookmark : Bookmark} (listed : last.document.bookmarks[number]? = some bookmark) :
    ∃ front here back tag, steps = front ++ here :: back ∧ here.token.bookmarkTag? = some tag ∧
      here.document.bookmarks.length = number ∧
      bookmark.name = Document.bookmarkName tag here.document.nextNumber ∧
      here.shown setup = (if here.document.commented then [] else bookmark.anchor) ∧
      (here.document.commented = false → bookmark.anchor <:+: last.document.render) := by
  have named : (last.document.bookmarks.map Bookmark.name)[number]? = some bookmark.name := by
    rw [List.getElem?_map, listed, Option.map_some]
  obtain ⟨front, here, back, tag, split, opens, place, given⟩ := h.exists_naming named
  have shown : here.shown setup = if here.document.commented then [] else bookmark.anchor := by
    rw [Step.shown_of_bookmarkTag opens, given]
    rfl
  refine ⟨front, here, back, tag, split, opens, place, given.symm, shown, fun uncommented => ?_⟩
  have piece := h.shown_isInfix_render (split ▸ List.mem_append_right _ List.mem_cons_self)
  rwa [shown, uncommented] at piece

/-! ## Pages -/

/-- A bookmark is listed under the name that its anchor has. The anchor is on the page where the
bookmark was opened outside all comments; of a bookmark in a comment nothing is shown. If none is
opened in a comment, every link of the table of contents has its anchor. -/
theorem anchors_are_shown_outside_comments {page : Text}
    (compiled : compileWith setup source = .ok page) :
    ∃ steps last, (opening setup.settings source).Reaches setup steps last ∧
      (opening setup.settings source).run setup = (none, last) ∧ last.document.render = page ∧
      (∀ number bookmark, last.document.bookmarks[number]? = some bookmark →
        ∃ front here back tag, steps = front ++ here :: back ∧
          here.token.bookmarkTag? = some tag ∧ here.document.bookmarks.length = number ∧
          bookmark.name = Document.bookmarkName tag here.document.nextNumber ∧
          bookmark.entry = "<div><a href=\"#".toList ++ Text.escape bookmark.name ++
            "\">".toList ++ bookmark.label ++ "</a></div>\n".toList ∧
          here.shown setup = (if here.document.commented then [] else
            "<a name=\"".toList ++ Text.escape bookmark.name ++ "\"></a>".toList) ∧
          (here.document.commented = false →
            "<a name=\"".toList ++ Text.escape bookmark.name ++ "\"></a>".toList <:+: page)) ∧
      ((∀ step ∈ steps, step.token.bookmarkTag?.isSome = true →
          step.document.commented = false) →
        ∀ bookmark ∈ last.document.bookmarks, bookmark.anchor <:+: page) := by
  obtain ⟨steps, last, reaches, finished, -, rfl⟩ := compileWith_eq_ok_iff.mp compiled
  refine ⟨steps, last, reaches, reaches.run_eq.trans (run_of_finished finished), rfl, ?_, ?_⟩
  · intro number bookmark listed
    obtain ⟨front, here, back, tag, split, opens, place, given, shown, onPage⟩ :=
      reaches.exists_showing listed
    exact ⟨front, here, back, tag, split, opens, place, given, rfl, shown, onPage⟩
  · intro uncommented bookmark mem
    obtain ⟨number, listed⟩ := List.mem_iff_getElem?.mp mem
    obtain ⟨front, here, back, tag, split, opens, -, -, -, onPage⟩ := reaches.exists_showing listed
    have within : here ∈ steps := split ▸ List.mem_append_right _ List.mem_cons_self
    exact onPage (uncommented here within (by rw [opens]; rfl))

/-- The link that the table of contents has for a bookmark in a comment leads nowhere. -/
theorem bookmark_in_comment_is_listed_without_anchor :
    ∃ page steps last here, compileWith { newId := fun _ => ['k'] }
        "<comment><bookmark name=\"x\"/></comment><tableofcontents/>".toList = .ok page ∧
      page = Bookmark.contents [{ name := ['x'], id := ['k'] }] ∧
      ¬ Bookmark.anchor { name := ['x'], id := ['k'] } <:+: page ∧
      (opening {} "<comment><bookmark name=\"x\"/></comment><tableofcontents/>".toList).Reaches
        { newId := fun _ => ['k'] } steps last ∧
      here ∈ steps ∧ here.token.bookmarkTag?.isSome = true ∧
      here.shown { newId := fun _ => ['k'] } = [] := by
  have comment : Cursor.IsTagName "comment".toList := by decide
  have bookmark : Cursor.IsTagName "bookmark".toList := by decide
  have contents : Cursor.IsTagName "tableofcontents".toList := by decide
  have normal : Mode.normal ≠ .code ∧ Mode.normal ≠ .inlineCode := by decide
  have hides := Cursor.next_writtenTag normal.1 normal.2 false comment (List.forall_mem_nil _) false
    "<bookmark name=\"x\"/></comment><tableofcontents/>".toList 0
  have opens := @Cursor.next_writtenTag _ normal.1 normal.2 false _
    [("name".toList, ['x'])] bookmark (by decide) true "</comment><tableofcontents/>".toList 9
  have shows := Cursor.next_writtenClose normal.1 normal.2 false comment.1
    "<tableofcontents/>".toList 29
  have asks := Cursor.next_writtenTag normal.1 normal.2 false contents (List.forall_mem_nil _) true
    [] 39
  have run : ∃ steps document,
      (opening {} "<comment><bookmark name=\"x\"/></comment><tableofcontents/>".toList).Reaches
        { newId := fun _ => ['k'] } steps ⟨⟨[], 57⟩, document⟩ ∧ document.mode? = some .normal ∧
      document.elements = [] ∧ document.hasContents = true ∧
      document.page = { mark? := some 0 } ∧
      document.bookmarks = [{ name := ['x'], id := ['k'] }] :=
    ⟨_, _, .step (.step (.step (.step .refl (advance_of_next rfl hides rfl))
      (advance_of_next rfl opens rfl)) (advance_of_next rfl shows rfl))
      (advance_of_next rfl asks rfl), rfl, rfl, rfl, rfl, rfl⟩
  obtain ⟨steps, document, reaches, current, closed, asked, page, listed⟩ := run
  have finished : (⟨⟨[], 57⟩, document⟩ : Compilation).advance { newId := fun _ => ['k'] } =
      .finished := by
    simp only [advance, current]
    rfl
  have rendered : document.render = Bookmark.contents [{ name := ['x'], id := ['k'] }] := by
    simp [Document.render, asked, page, listed, Sink.render, Sink.text]
  have compiled := compileWith_eq_ok_iff.mpr
    ⟨steps, _, reaches, finished, by simp only [leftOpen?, closed], rendered⟩
  have absent : ¬ Bookmark.anchor { name := ['x'], id := ['k'] } <:+:
      Bookmark.contents [{ name := ['x'], id := ['k'] }] := fun within =>
    absurd (within.subset (show 'm' ∈ Bookmark.anchor { name := ['x'], id := ['k'] } by decide))
      (by decide)
  obtain ⟨steps', last, reaches', ran, -, each, -⟩ := anchors_are_shown_outside_comments compiled
  obtain rfl : ⟨⟨[], 57⟩, document⟩ = last :=
    (Prod.mk.inj ((reaches.run_eq.trans (run_of_finished finished)).symm.trans ran)).2
  obtain ⟨front, here, back, tag, split, opens, -, -, -, shown, onPage⟩ :=
    each 0 { name := ['x'], id := ['k'] } (by rw [listed]; rfl)
  have commented : here.document.commented = true := by
    cases found : here.document.commented with
    | true => rfl
    | false => exact absurd (onPage found) absent
  have mem : here ∈ steps' := split ▸ List.mem_append_right _ List.mem_cons_self
  rw [commented] at shown
  exact ⟨_, steps', _, here, compiled, rfl, absent, reaches', mem, by rw [opens]; rfl, shown⟩

end PageMarkup
