import PageMarkup.Proofs.Bookmarks.Anchors
import PageMarkup.Proofs.Bookmarks.Ids
import PageMarkup.Proofs.Code.Listed

/-! # Names

Bookmarks have the names that authors write, and the others take `h` and the next number. Numbers
are taken without a look at the names that are written. -/

namespace PageMarkup

open Compilation Document

namespace Text

theorem ofNat_injective {number other : Nat} (same : ofNat number = ofNat other) :
    number = other := by
  have read := congrArg (fun digits => Nat.ofDigitChars 10 digits 0) same
  simpa [ofNat] using read

/-- Escaped text tells what was escaped. -/
theorem escape_injective {text other : Text} (same : escape text = escape other) :
    text = other := by
  have legible (text : Text) : ∀ mark ∈ text.map Listing.Mark.char, mark.Legible :=
    List.forall_mem_map.mpr fun _ _ => trivial
  have read := congrArg Listing.Mark.read? same
  rw [Listing.escape_eq, Listing.escape_eq, Listing.Mark.read?_write (legible text),
    Listing.Mark.read?_write (legible other), Option.some.injEq] at read
  exact (List.map_inj_right fun _ _ => Listing.Mark.char.inj).mp read

end Text

/-! ## Written names and numbers -/

/-- The name that is written in a tag, without blanks around it. -/
def writtenName? (tag : Tag) : Option Text :=
  (tag.attributes.get? "name".toList).map Text.trim

/-- The names that are written in tags. -/
def writtenNames (tags : List Tag) : List Text := tags.filterMap writtenName?

/-- The first names that are numbers. -/
def numberedNames (count : Nat) : List Text :=
  (List.range' 1 count).map fun number => 'h' :: Text.ofNat number

variable {tags : List Tag} {names : List Text} {tag : Tag} {count : Nat}

theorem mem_numberedNames_iff {name : Text} :
    name ∈ numberedNames count ↔
      ∃ number, 1 ≤ number ∧ number ≤ count ∧ 'h' :: Text.ofNat number = name := by
  rw [numberedNames, List.mem_map]
  simp only [List.mem_range'_1, Nat.add_comm 1, Nat.lt_succ_iff, and_assoc]

/-- Numbers are never taken twice. -/
theorem nodup_numberedNames (count : Nat) : (numberedNames count).Nodup := by
  apply List.pairwise_map.mpr
  apply (List.nodup_range' 1).imp
  intro number other differs same
  exact differs (Text.ofNat_injective (List.cons.inj same).2)

theorem writtenNames_snoc (tags : List Tag) (tag : Tag) :
    writtenNames (tags ++ [tag]) = writtenNames tags ++ (writtenName? tag).toList := by
  rw [writtenNames, List.filterMap_append]
  cases given : writtenName? tag <;> simp [given, writtenNames]

theorem numberedNames_succ (count : Nat) :
    numberedNames (count + 1) = numberedNames count ++ ['h' :: Text.ofNat (count + 1)] := by
  rw [numberedNames, List.range'_1_concat, List.map_append, Nat.add_comm 1]
  rfl

theorem bookmarkName_eq (tag : Tag) (number : Nat) :
    bookmarkName tag number = (writtenName? tag).getD ('h' :: Text.ofNat number) := by
  unfold bookmarkName writtenName?
  cases tag.attributes.get? "name".toList <;> rfl

theorem takesNumber_eq (role : tag.role = .bookmark) :
    takesNumber tag = (writtenName? tag).isNone := by
  simp [takesNumber, role, writtenName?]

/-- The next bookmark has a written name, or it takes the next number. -/
theorem perm_snoc (row : names.Perm (writtenNames tags ++ numberedNames (tags.countP takesNumber)))
    (role : tag.role = .bookmark) :
    (names ++ [bookmarkName tag (tags.countP takesNumber + 1)]).Perm
      (writtenNames (tags ++ [tag]) ++ numberedNames ((tags ++ [tag]).countP takesNumber)) := by
  rw [writtenNames_snoc, bookmarkName_eq, List.countP_append, List.countP_singleton,
    takesNumber_eq role]
  cases writtenName? tag with
  | some name =>
      -- The written names stand in front of the numbers.
      have behind := row.append_right [name]
      rw [List.append_assoc] at behind
      simpa using behind.trans (List.perm_append_comm.append_left (writtenNames tags))
  | none =>
      have next := row.append_right ['h' :: Text.ofNat (tags.countP takesNumber + 1)]
      rw [List.append_assoc, ← numberedNames_succ] at next
      simpa using next

/-- Whether names differ hangs on the written names only. -/
theorem nodup_iff_of_perm (row : names.Perm (writtenNames tags ++ numberedNames count))
    (distinct : (writtenNames tags).Nodup) :
    names.Nodup ↔ ∀ number, 1 ≤ number → number ≤ count →
      'h' :: Text.ofNat number ∉ writtenNames tags := by
  rw [row.nodup_iff, List.nodup_append]
  constructor
  · rintro ⟨-, -, apart⟩ number first last written
    exact apart _ written _ (mem_numberedNames_iff.mpr ⟨number, first, last, rfl⟩) rfl
  · intro unwritten
    refine ⟨distinct, nodup_numberedNames count, ?_⟩
    rintro name written other numbered rfl
    obtain ⟨number, first, last, rfl⟩ := mem_numberedNames_iff.mp numbered
    exact unwritten number first last written

/-- An anchor tells the name of its bookmark. -/
theorem Bookmark.name_eq_of_anchor {bookmark other : Bookmark}
    (same : bookmark.anchor = other.anchor) : bookmark.name = other.name := by
  unfold anchor at same
  have front := List.append_cancel_right same
  have escaped := List.append_cancel_left front
  exact Text.escape_injective escaped

/-! ## Runs -/

variable {setup : Setup} {source : Text} {steps : List Step} {last : Compilation}

/-- The names of all bookmarks are those that are written and the first numbers. -/
theorem Compilation.Reaches.perm_names
    (h : (opening setup.settings source).Reaches setup steps last) :
    (last.document.bookmarks.map Bookmark.name).Perm
      (writtenNames (Step.bookmarkTags steps) ++
        numberedNames ((Step.bookmarkTags steps).countP takesNumber)) := by
  induction h with
  | refl => exact .refl []
  | @step steps before token after earlier handled ih =>
      rw [(handling_of_handled handled).bookmark.1, earlier.bookmarks.2, Step.bookmarkTags_snoc]
      cases opened : token.bookmarkTag? with
      | none => simpa using ih
      | some tag => exact perm_snoc ih (Token.opens?_of_bookmarkTag? opened).2

/-- Where names differ, the anchor of a bookmark is shown by no step that opens another one. -/
theorem Compilation.Reaches.place_of_shown
    (h : (opening setup.settings source).Reaches setup steps last)
    (distinct : (last.document.bookmarks.map Bookmark.name).Nodup) {number : Nat}
    {bookmark : Bookmark} (listed : last.document.bookmarks[number]? = some bookmark)
    {there : Step} (mem : there ∈ steps) (opens : there.token.bookmarkTag? = some tag)
    (shows : there.shown setup = bookmark.anchor) : there.document.bookmarks.length = number := by
  have named := h.named_of_opens mem opens
  rw [Step.shown_of_bookmarkTag opens] at shows
  split at shows
  · cases shows
  · have same : bookmarkName tag there.document.nextNumber = bookmark.name :=
      Bookmark.name_eq_of_anchor shows
    have alike : (last.document.bookmarks.map Bookmark.name)[there.document.bookmarks.length]? =
        (last.document.bookmarks.map Bookmark.name)[number]? := by
      rw [named, List.getElem?_map, listed, Option.map_some, same]
    exact (List.getElem?_inj (List.getElem?_eq_some_iff.mp named).1 distinct).mp alike

/-! ## Pages -/

/-- Bookmarks have the names that are written and the first numbers. If no written name is given
twice, all names differ exactly where none of these numbers is written. The link that the table of
contents has for a bookmark leads to its own anchor then, which is shown where the bookmark was
opened outside comments, and which no other bookmark shows. -/
theorem names_differ_unless_numbers_are_written {page : Text}
    (compiled : compileWith setup source = .ok page) :
    ∃ steps last, (opening setup.settings source).Reaches setup steps last ∧
      (opening setup.settings source).run setup = (none, last) ∧ last.document.render = page ∧
      (last.document.bookmarks.map Bookmark.name).Perm
        (writtenNames (Step.bookmarkTags steps) ++
          numberedNames ((Step.bookmarkTags steps).countP takesNumber)) ∧
      ((writtenNames (Step.bookmarkTags steps)).Nodup →
        ((last.document.bookmarks.map Bookmark.name).Nodup ↔
          ∀ number, 1 ≤ number → number ≤ (Step.bookmarkTags steps).countP takesNumber →
            'h' :: Text.ofNat number ∉ writtenNames (Step.bookmarkTags steps))) ∧
      ((last.document.bookmarks.map Bookmark.name).Nodup →
        ∀ number bookmark, last.document.bookmarks[number]? = some bookmark →
          ∃ front here back tag, steps = front ++ here :: back ∧
            here.token.bookmarkTag? = some tag ∧ here.document.bookmarks.length = number ∧
            bookmark.entry = "<div><a href=\"#".toList ++ Text.escape bookmark.name ++
              "\">".toList ++ bookmark.label ++ "</a></div>\n".toList ∧
            (here.document.commented = false →
              here.shown setup = "<a name=\"".toList ++ Text.escape bookmark.name ++
                "\"></a>".toList ∧
              here.shown setup <:+: page) ∧
            ∀ there ∈ steps, there.token.bookmarkTag?.isSome = true →
              there.shown setup = "<a name=\"".toList ++ Text.escape bookmark.name ++
                "\"></a>".toList →
              there.document.bookmarks.length = number) := by
  obtain ⟨steps, last, reaches, finished, -, rfl⟩ := compileWith_eq_ok_iff.mp compiled
  have row := reaches.perm_names
  refine ⟨steps, last, reaches, reaches.run_eq.trans (run_of_finished finished), rfl, row,
    nodup_iff_of_perm row, ?_⟩
  intro distinct number bookmark listed
  obtain ⟨front, here, back, tag, split, opens, place, -, shown, onPage⟩ :=
    reaches.exists_showing listed
  refine ⟨front, here, back, tag, split, opens, place, rfl, fun uncommented => ?_, ?_⟩
  · rw [uncommented] at shown
    exact ⟨shown, shown ▸ onPage uncommented⟩
  · intro there mem anchors shows
    obtain ⟨other, opensToo⟩ := Option.isSome_iff_exists.mp anchors
    exact reaches.place_of_shown distinct listed mem opensToo shows

/-- The second number is written, and only the first is taken. The anchor of the name that is
written is shown. -/
theorem number_is_written_that_is_not_taken :
    ∃ page steps last, compileWith {} "<bookmark name=\"h2\"/><bookmark/>".toList = .ok page ∧
      (opening {} "<bookmark name=\"h2\"/><bookmark/>".toList).Reaches {} steps last ∧
      (opening {} "<bookmark name=\"h2\"/><bookmark/>".toList).run {} = (none, last) ∧
      writtenNames (Step.bookmarkTags steps) = ["h2".toList] ∧
      (Step.bookmarkTags steps).countP takesNumber = 1 ∧
      (last.document.bookmarks.map Bookmark.name).Nodup ∧
      ∃ here ∈ steps, here.shown {} = "<a name=\"h2\"></a>".toList ∧ here.shown {} <:+: page := by
  have normal : Mode.normal ≠ .code ∧ Mode.normal ≠ .inlineCode := by decide
  have bookmark : Cursor.IsTagName "bookmark".toList := by decide
  have named := @Cursor.next_writtenTag _ normal.1 normal.2 false _
    [("name".toList, "h2".toList)] bookmark (by decide) true "<bookmark/>".toList 0
  have unnamed := Cursor.next_writtenTag normal.1 normal.2 false bookmark (List.forall_mem_nil _)
    true [] 21
  have run : ∃ steps last,
      (opening {} "<bookmark name=\"h2\"/><bookmark/>".toList).Reaches {} steps last ∧
      last.cursor.rest = [] ∧ last.document.mode? = some .normal ∧ last.document.elements = [] ∧
      writtenNames (Step.bookmarkTags steps) = ["h2".toList] ∧
      (Step.bookmarkTags steps).countP takesNumber = 1 ∧
      (last.document.bookmarks.map Bookmark.name)[0]? = some "h2".toList ∧
      ∀ step ∈ steps, step.document.commented = false :=
    ⟨_, _, .step (.step .refl (advance_of_next rfl named rfl)) (advance_of_next rfl unnamed rfl),
      rfl, rfl, rfl, rfl, rfl, rfl,
      List.forall_mem_cons.mpr ⟨rfl, List.forall_mem_singleton.mpr rfl⟩⟩
  obtain ⟨steps, last, reaches, ended, current, closed, written, count, first, uncommented⟩ := run
  have finished := @advance_at_end {} _ _ current ended
  have compiled := compileWith_eq_ok_iff.mpr
    ⟨steps, last, reaches, finished, by simp only [leftOpen?, closed], rfl⟩
  obtain ⟨steps', last', reaches', ran, -, -, differ, leads⟩ :=
    names_differ_unless_numbers_are_written compiled
  obtain rfl : last = last' :=
    (Prod.mk.inj ((reaches.run_eq.trans (run_of_finished finished)).symm.trans ran)).2
  obtain rfl : steps = steps' := (reaches.eq_of_rest_eq_nil finished reaches' ended).1.symm
  have distinct : (last.document.bookmarks.map Bookmark.name).Nodup := by
    rw [written, count] at differ
    refine (differ (by decide)).mpr fun number first bound => ?_
    obtain rfl : number = 1 := by omega
    decide
  rw [List.getElem?_map, Option.map_eq_some_iff] at first
  obtain ⟨bookmark, listed, name⟩ := first
  obtain ⟨front, here, back, tag, split, -, -, -, anchor, -⟩ := leads distinct 0 bookmark listed
  have mem : here ∈ steps := split ▸ List.mem_append_right _ List.mem_cons_self
  obtain ⟨shown, onPage⟩ := anchor (uncommented here mem)
  refine ⟨_, steps, last, compiled, reaches, ran, written, count, distinct, here, mem, ?_, onPage⟩
  rw [shown, name]
  rfl

/-- A number is taken for a name although it is written. -/
theorem number_is_taken_that_is_written :
    ∃ steps last,
      (opening {} "<bookmark name=\"h1\"/><bookmark/><tableofcontents/>".toList).Reaches {}
        steps last ∧
      last.advance {} = .finished ∧
      compileWith {} "<bookmark name=\"h1\"/><bookmark/><tableofcontents/>".toList =
        .ok last.document.render ∧
      (writtenNames (Step.bookmarkTags steps)).Nodup ∧
      ¬ (last.document.bookmarks.map Bookmark.name).Nodup := by
  have normal : Mode.normal ≠ .code ∧ Mode.normal ≠ .inlineCode := by decide
  have bookmark : Cursor.IsTagName "bookmark".toList := by decide
  have contents : Cursor.IsTagName "tableofcontents".toList := by decide
  have named := @Cursor.next_writtenTag _ normal.1 normal.2 false _
    [("name".toList, "h1".toList)] bookmark (by decide) true
    "<bookmark/><tableofcontents/>".toList 0
  have unnamed := Cursor.next_writtenTag normal.1 normal.2 false bookmark (List.forall_mem_nil _)
    true "<tableofcontents/>".toList 21
  have asks := Cursor.next_writtenTag normal.1 normal.2 false contents (List.forall_mem_nil _) true
    [] 32
  have run : ∃ steps last,
      (opening {} "<bookmark name=\"h1\"/><bookmark/><tableofcontents/>".toList).Reaches {}
        steps last ∧ last.cursor.rest = [] ∧ last.document.mode? = some .normal ∧
      last.document.elements = [] ∧ writtenNames (Step.bookmarkTags steps) = ["h1".toList] ∧
      last.document.bookmarks.map Bookmark.name = ["h1".toList, "h1".toList] :=
    ⟨_, _, .step (.step (.step .refl (advance_of_next rfl named rfl))
      (advance_of_next rfl unnamed rfl)) (advance_of_next rfl asks rfl), rfl, rfl, rfl, rfl, rfl⟩
  obtain ⟨steps, last, reaches, ended, current, closed, written, names⟩ := run
  have finished := @advance_at_end {} _ _ current ended
  have compiled := compileWith_eq_ok_iff.mpr
    ⟨steps, last, reaches, finished, by simp only [leftOpen?, closed], rfl⟩
  exact ⟨steps, last, reaches, finished, compiled, by rw [written]; decide,
    by rw [names]; decide⟩

end PageMarkup
