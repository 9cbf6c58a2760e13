import PageMarkup.Bookmark
import PageMarkup.Pairs

/-! # The ledger of bookmarks

The labels of bookmarks depend on little: on the open elements that have opened one, on what has
been recorded for these, and on the bookmarks themselves. -/

namespace PageMarkup

namespace Bookmark

variable {id label : Text} {front back : List Bookmark} {bookmark : Bookmark}

/-- The label goes to the bookmark behind which none has the id. -/
theorem labelLast_of_last (own : bookmark.id = id) (last : ∀ other ∈ back, other.id ≠ id) :
    labelLast id label (front ++ bookmark :: back) = front ++ { bookmark with label } :: back := by
  induction front with
  | nil =>
      have none : (back.any fun other => other.id = id) = false := by simpa using last
      rw [List.nil_append, labelLast, none, if_neg (by simp), if_pos own, List.nil_append]
  | cons first front ih =>
      have later : ((front ++ bookmark :: back).any fun other => other.id = id) = true :=
        List.any_eq_true.mpr ⟨bookmark, by simp, by simpa using own⟩
      rw [List.cons_append, labelLast, if_pos later, ih, List.cons_append]

theorem map_id_labelLast (bookmarks : List Bookmark) :
    (labelLast id label bookmarks).map Bookmark.id = bookmarks.map Bookmark.id := by
  induction bookmarks with
  | nil => rfl
  | cons bookmark later ih =>
      unfold labelLast
      split
      · rw [List.map_cons, List.map_cons, ih]
      · split <;> rfl

/-- Each label is an old one or the one given. -/
theorem label_of_mem_labelLast {bookmarks : List Bookmark}
    (mem : bookmark ∈ labelLast id label bookmarks) :
    bookmark.label = label ∨ ∃ other ∈ bookmarks, other.label = bookmark.label := by
  induction bookmarks with
  | nil => cases mem
  | cons first later ih =>
      have old (mem : bookmark ∈ first :: later) :
          ∃ other ∈ first :: later, other.label = bookmark.label := ⟨bookmark, mem, rfl⟩
      unfold labelLast at mem
      split at mem
      · rcases List.mem_cons.mp mem with rfl | mem
        · exact .inr (old List.mem_cons_self)
        · refine (ih mem).imp_right ?_
          rintro ⟨other, found, same⟩
          exact ⟨other, List.mem_cons_of_mem _ found, same⟩
      split at mem
      · rcases List.mem_cons.mp mem with rfl | mem
        · exact .inl rfl
        · exact .inr (old (List.mem_cons_of_mem _ mem))
      · exact .inr (old mem)

/-- A bookmark with another id, or with one of the same id behind it, stays as and where it is. -/
theorem labelLast_of_other (label : Text) (front : List Bookmark)
    (other : bookmark.id = id → ∃ later ∈ back, later.id = id) :
    ∃ front' back', labelLast id label (front ++ bookmark :: back) = front' ++ bookmark :: back' ∧
      front'.length = front.length ∧ back'.map Bookmark.id = back.map Bookmark.id := by
  induction front with
  | nil =>
      rw [List.nil_append, labelLast]
      split
      · exact ⟨[], _, rfl, rfl, map_id_labelLast back⟩
      next none =>
      split
      · next own =>
          obtain ⟨later, mem, same⟩ := other own
          exact absurd (List.any_eq_true.mpr ⟨later, mem, by simpa using same⟩) none
      · exact ⟨[], back, rfl, rfl, rfl⟩
  | cons first front ih =>
      rw [List.cons_append, labelLast]
      split
      · obtain ⟨front', back', labelled, length, ids⟩ := ih
        exact ⟨first :: front', back', by rw [labelled, List.cons_append], by simp [length], ids⟩
      · split
        · exact ⟨{ first with label } :: front, back, rfl, rfl, rfl⟩
        · exact ⟨first :: front, back, rfl, rfl, rfl⟩

end Bookmark

/-- What there is to know about bookmarks. -/
structure Ledger where
  /-- For each open element, innermost first, the id of the bookmark that it has opened. -/
  ids : List (Option Text)
  /-- For each open bookmark the text since it was opened, by its id. -/
  captures : List (Text × Text)
  /-- All bookmarks, in the order in which they were opened. -/
  bookmarks : List Bookmark

namespace Ledger

/-- Text is recorded for every open bookmark. -/
def speak (text : Text) (ledger : Ledger) : Ledger :=
  { ledger with captures := ledger.captures.map fun capture => (capture.1, capture.2 ++ text) }

@[simp] theorem speak_nil (ledger : Ledger) : ledger.speak [] = ledger := by simp [speak]

/-- An element is opened, and it may open a bookmark. -/
def enter (bookmark? : Option Bookmark) (ledger : Ledger) : Ledger :=
  match bookmark? with
  | none => { ledger with ids := none :: ledger.ids }
  | some bookmark =>
    { ids := some bookmark.id :: ledger.ids
      captures := Pairs.put bookmark.id [] ledger.captures
      bookmarks := ledger.bookmarks ++ [bookmark] }

/-- The innermost element is closed. -/
def leave (ledger : Ledger) : Ledger :=
  match ledger.ids with
  | [] => ledger
  | none :: outer => { ledger with ids := outer }
  | some id :: outer =>
    { ids := outer
      captures := Pairs.erase id ledger.captures
      bookmarks := Bookmark.labelLast id ((ledger.captures.lookup id).getD []) ledger.bookmarks }

@[simp] theorem ids_speak (ledger : Ledger) (text : Text) : (ledger.speak text).ids = ledger.ids :=
  rfl

@[simp] theorem ids_enter (ledger : Ledger) (bookmark? : Option Bookmark) :
    (ledger.enter bookmark?).ids = bookmark?.map Bookmark.id :: ledger.ids := by
  cases bookmark? <;> rfl

@[simp] theorem ids_leave (ledger : Ledger) : ledger.leave.ids = ledger.ids.tail := by
  unfold leave
  split <;> simp [*]

/-- The ids of the open bookmarks, innermost first. -/
def openIds (ledger : Ledger) : List Text := ledger.ids.filterMap id

variable {ledger : Ledger} {bookmark? : Option Bookmark} {bookmark : Bookmark} {text more : Text}
  {depth number : Nat}

/-! ## What is recorded -/

/-- Text is recorded for the open bookmarks and no others, in the order in which they were opened,
and they have different ids. -/
structure Sound (ledger : Ledger) : Prop where
  keys : ledger.captures.map Prod.fst = ledger.openIds.reverse
  distinct : ledger.openIds.Nodup

theorem Sound.speak (sound : ledger.Sound) (text : Text) : (ledger.speak text).Sound where
  keys := by
    rw [Ledger.speak, List.map_map]
    exact sound.keys
  distinct := sound.distinct

theorem Sound.enter (sound : ledger.Sound)
    (fresh : ∀ bookmark ∈ bookmark?, bookmark.id ∉ ledger.openIds) :
    (ledger.enter bookmark?).Sound := by
  cases bookmark? with
  | none => exact ⟨sound.keys, sound.distinct⟩
  | some bookmark =>
      have new := fresh bookmark rfl
      have unrecorded : bookmark.id ∉ ledger.captures.map Prod.fst := by
        rwa [sound.keys, List.mem_reverse]
      constructor
      · simp only [Ledger.enter, Pairs.put_of_notMem unrecorded, List.map_append, sound.keys,
          openIds, List.filterMap_cons, id, List.reverse_cons, List.map_cons, List.map_nil]
      · exact List.nodup_cons.mpr ⟨new, sound.distinct⟩

theorem Sound.leave (sound : ledger.Sound) : ledger.leave.Sound := by
  obtain ⟨ids, captures, bookmarks⟩ := ledger
  obtain ⟨keys, distinct⟩ := sound
  match ids with
  | [] => exact ⟨keys, distinct⟩
  | none :: outer => exact ⟨keys, distinct⟩
  | some id :: outer =>
      obtain ⟨unique, distinct⟩ := List.nodup_cons.mp distinct
      refine ⟨?_, distinct⟩
      change captures.map Prod.fst = (id :: outer.filterMap _).reverse at keys
      change (Pairs.erase id captures).map Prod.fst = (outer.filterMap _).reverse
      rw [Pairs.map_fst_erase, keys, List.reverse_cons, List.filter_append, List.filter_eq_self.mpr]
      · simp
      · intro other mem
        have : other ≠ id := by
          rintro rfl
          exact unique (List.mem_reverse.mp mem)
        simpa using this

/-- Text is recorded for open bookmarks only. Even with ids that are used again it is. -/
def Confined (ledger : Ledger) : Prop :=
  ∀ id ∈ ledger.captures.map Prod.fst, id ∈ ledger.openIds

theorem Confined.speak (confined : ledger.Confined) (text : Text) :
    (ledger.speak text).Confined := by
  rw [Confined, Ledger.speak, List.map_map]
  exact confined

theorem Confined.enter (confined : ledger.Confined) (bookmark? : Option Bookmark) :
    (ledger.enter bookmark?).Confined := by
  cases bookmark? with
  | none => exact confined
  | some bookmark =>
      intro id mem
      rcases Pairs.mem_names_put.mp mem with rfl | mem
      · exact List.mem_cons_self
      · exact List.mem_cons_of_mem _ (confined id mem)

theorem Confined.leave (confined : ledger.Confined) : ledger.leave.Confined := by
  obtain ⟨ids, captures, bookmarks⟩ := ledger
  match ids with
  | [] => exact confined
  | none :: outer => exact confined
  | some id :: outer =>
      intro other mem
      change other ∈ (Pairs.erase id captures).map Prod.fst at mem
      rw [Pairs.map_fst_erase, List.mem_filter, decide_eq_true_iff] at mem
      exact (List.mem_cons.mp (confined other mem.1)).resolve_left mem.2

/-! ## An open bookmark -/

/-- The bookmark with a number is open: it has no label, and `text` has been recorded for it. Of
the open elements, `depth` lie around its own. -/
structure Held (depth number : Nat) (bookmark : Bookmark) (text : Text) (ledger : Ledger) :
    Prop where
  element : ∃ inner outer, ledger.ids = inner ++ some bookmark.id :: outer ∧ outer.length = depth
  recorded : ledger.captures.lookup bookmark.id = some text
  last : ∃ earlier later, ledger.bookmarks = earlier ++ bookmark :: later ∧
    earlier.length = number ∧ ∀ other ∈ later, other.id ≠ bookmark.id

/-- A bookmark is closed: it will not be the last one with the id of an open bookmark again. -/
def Settled (number : Nat) (bookmark : Bookmark) (ledger : Ledger) : Prop :=
  ∃ earlier later, ledger.bookmarks = earlier ++ bookmark :: later ∧ earlier.length = number ∧
    (bookmark.id ∈ ledger.openIds → ∃ other ∈ later, other.id = bookmark.id)

theorem Held.getElem? (held : ledger.Held depth number bookmark text) :
    ledger.bookmarks[number]? = some bookmark := by
  obtain ⟨earlier, later, bookmarks, rfl, -⟩ := held.last
  rw [bookmarks, List.getElem?_append_right (Nat.le_refl _), Nat.sub_self, List.getElem?_cons_zero]

theorem Settled.getElem? (settled : ledger.Settled number bookmark) :
    ledger.bookmarks[number]? = some bookmark := by
  obtain ⟨earlier, later, bookmarks, rfl, -⟩ := settled
  rw [bookmarks, List.getElem?_append_right (Nat.le_refl _), Nat.sub_self, List.getElem?_cons_zero]

theorem Held.start (ledger : Ledger) (bookmark : Bookmark) :
    (ledger.enter (some bookmark)).Held ledger.ids.length ledger.bookmarks.length bookmark [] where
  element := ⟨[], ledger.ids, rfl, rfl⟩
  recorded := Pairs.lookup_put_self
  last := ⟨ledger.bookmarks, [], rfl, rfl, by simp⟩

theorem Held.speak (held : ledger.Held depth number bookmark text) (more : Text) :
    (ledger.speak more).Held depth number bookmark (text ++ more) where
  element := held.element
  recorded := by
    rw [Ledger.speak, Pairs.lookup_map_snd (· ++ more), held.recorded, Option.map_some]
  last := held.last

theorem Held.depth_lt (held : ledger.Held depth number bookmark text) :
    depth < ledger.ids.length := by
  obtain ⟨inner, outer, ids, rfl⟩ := held.element
  rw [ids, List.length_append, List.length_cons]
  omega

theorem Held.mem_openIds (held : ledger.Held depth number bookmark text) :
    bookmark.id ∈ ledger.openIds := by
  obtain ⟨inner, outer, ids, -⟩ := held.element
  simp [openIds, ids]

theorem Held.enter (held : ledger.Held depth number bookmark text)
    (fresh : ∀ bookmark ∈ bookmark?, bookmark.id ∉ ledger.openIds) :
    (ledger.enter bookmark?).Held depth number bookmark text := by
  obtain ⟨inner, outer, ids, length⟩ := held.element
  obtain ⟨earlier, later, bookmarks, place, last⟩ := held.last
  cases bookmark? with
  | none =>
      exact ⟨⟨none :: inner, outer, by simp [Ledger.enter, ids], length⟩, held.recorded, held.last⟩
  | some other =>
      have different : other.id ≠ bookmark.id := fun same =>
        fresh other rfl (same ▸ held.mem_openIds)
      constructor
      · exact ⟨some other.id :: inner, outer, by simp [Ledger.enter, ids], length⟩
      · exact (Pairs.lookup_put_of_ne different.symm).trans held.recorded
      · refine ⟨earlier, later ++ [other], by simp [Ledger.enter, bookmarks], place, ?_⟩
        intro another mem
        rcases List.mem_append.mp mem with mem | mem
        · exact last another mem
        · exact List.mem_singleton.mp mem ▸ different

/-- Closing an element further inside leaves the bookmark open. -/
theorem Held.leave (held : ledger.Held depth number bookmark text) (sound : ledger.Sound)
    (inside : depth + 1 < ledger.ids.length) : ledger.leave.Held depth number bookmark text := by
  obtain ⟨inner, outer, ids, length⟩ := held.element
  obtain ⟨earlier, later, bookmarks, place, last⟩ := held.last
  have distinct := sound.distinct
  match inner with
  | [] => simp [ids, length] at inside
  | none :: inner =>
      simp only [Ledger.leave, ids, List.cons_append]
      exact ⟨⟨inner, outer, rfl, length⟩, held.recorded, held.last⟩
  | some other :: inner =>
      have different : other ≠ bookmark.id := by
        rintro rfl
        simp [openIds, ids] at distinct
      simp only [Ledger.leave, ids, List.cons_append]
      obtain ⟨earlier', later', labelled, place', same⟩ :=
        Bookmark.labelLast_of_other ((ledger.captures.lookup other).getD []) earlier
          fun own => absurd own.symm different
      refine ⟨⟨inner, outer, rfl, length⟩, ?_, earlier', later', ?_, place'.trans place, ?_⟩
      · exact (Pairs.lookup_erase_of_ne different.symm).trans held.recorded
      · rw [bookmarks, labelled]
      · intro another mem
        have found : another.id ∈ later.map Bookmark.id := same ▸ List.mem_map_of_mem mem
        obtain ⟨original, mem, found⟩ := List.mem_map.mp found
        exact found ▸ last original mem

/-- Closing its own element gives the bookmark its label, and changes no other bookmark. -/
theorem Held.settles (held : ledger.Held depth number bookmark text) (sound : ledger.Sound)
    (innermost : ledger.ids.length = depth + 1) :
    ledger.leave.Settled number { bookmark with label := text } ∧
      ledger.leave.bookmarks =
        ledger.bookmarks.modify number fun bookmark => { bookmark with label := text } := by
  obtain ⟨inner, outer, ids, length⟩ := held.element
  obtain ⟨earlier, later, bookmarks, place, last⟩ := held.last
  have distinct := sound.distinct
  obtain rfl : inner = [] := by
    rw [ids, List.length_append, List.length_cons, length] at innermost
    exact List.eq_nil_of_length_eq_zero (by omega)
  rw [List.nil_append] at ids
  have labelled : ledger.leave.bookmarks = earlier ++ { bookmark with label := text } :: later := by
    simp only [Ledger.leave, ids, held.recorded, Option.getD_some, bookmarks]
    exact Bookmark.labelLast_of_last rfl last
  refine ⟨⟨earlier, later, labelled, place, fun still => ?_⟩, ?_⟩
  · -- No other open bookmark has the id.
    have opened : ledger.openIds = bookmark.id :: ledger.leave.openIds := by
      simp [openIds, Ledger.leave, ids]
    rw [opened] at distinct
    exact absurd still (List.nodup_cons.mp distinct).1
  · rw [labelled, bookmarks, ← place, List.modify_eq_take_cons_drop (by simp)]
    simp

/-! ## A closed bookmark -/

theorem Settled.speak (settled : ledger.Settled number bookmark) (more : Text) :
    (ledger.speak more).Settled number bookmark := settled

theorem Settled.enter (settled : ledger.Settled number bookmark) :
    (ledger.enter bookmark?).Settled number bookmark := by
  obtain ⟨earlier, later, bookmarks, place, last⟩ := settled
  cases bookmark? with
  | none => exact ⟨earlier, later, bookmarks, place, last⟩
  | some other =>
      refine ⟨earlier, later ++ [other], by simp [Ledger.enter, bookmarks], place, fun open? => ?_⟩
      rcases List.mem_cons.mp open? with same | mem
      · exact ⟨other, by simp, same.symm⟩
      · obtain ⟨another, mem, same⟩ := last mem
        exact ⟨another, List.mem_append_left _ mem, same⟩

theorem Settled.leave (settled : ledger.Settled number bookmark) :
    ledger.leave.Settled number bookmark := by
  obtain ⟨ids, captures, bookmarks⟩ := ledger
  obtain ⟨earlier, later, bookmarks, place, last⟩ := settled
  match ids with
  | [] => exact ⟨earlier, later, bookmarks, place, last⟩
  | none :: outer => exact ⟨earlier, later, bookmarks, place, last⟩
  | some other :: outer =>
      have behind (own : bookmark.id = other) : ∃ another ∈ later, another.id = other :=
        own ▸ last (own ▸ List.mem_cons_self)
      obtain ⟨earlier', later', labelled, place', same⟩ :=
        Bookmark.labelLast_of_other ((captures.lookup other).getD []) earlier behind
      refine ⟨earlier', later', ?_, place'.trans place, fun open? => ?_⟩
      · simp only at bookmarks
        simp only [Ledger.leave, bookmarks, labelled]
      · obtain ⟨another, mem, found⟩ := last (List.mem_cons_of_mem _ open?)
        have found : bookmark.id ∈ later'.map Bookmark.id :=
          same ▸ found ▸ List.mem_map_of_mem mem
        exact List.mem_map.mp found

end Ledger

end PageMarkup
