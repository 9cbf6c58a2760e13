import PageMarkup.Pairs
import PageMarkup.Text.Basic

/-! The attributes of a tag: names with values, in the order in which the names first
appeared. A name written again takes the new value and keeps its place. -/

namespace PageMarkup

/-- Pairs of a name and a value, no name twice. -/
structure Attributes where
  /-- The pairs, in the order in which their names first appeared. -/
  entries : List (Text × Text)
  distinct : (entries.map Prod.fst).Nodup
deriving DecidableEq

namespace Attributes

/-- No attributes. -/
def empty : Attributes := ⟨[], by simp⟩

instance : Inhabited Attributes := ⟨empty⟩

/-- The value of a name. -/
def get? (attributes : Attributes) (name : Text) : Option Text := attributes.entries.lookup name

/-- Sets a name to a value, in its old place or at the end. -/
def put (attributes : Attributes) (name value : Text) : Attributes :=
  ⟨Pairs.put name value attributes.entries, Pairs.nodup_put attributes.distinct⟩

/-- The attributes without a name. -/
def erase (attributes : Attributes) (name : Text) : Attributes :=
  ⟨Pairs.erase name attributes.entries, Pairs.nodup_erase attributes.distinct⟩

/-- The attributes written by a list of pairs, from its first pair to its last. -/
def ofList (pairs : List (Text × Text)) : Attributes :=
  pairs.foldl (fun attributes pair => attributes.put pair.1 pair.2) empty

/-- The attribute that authors use for notes to themselves; it is never rendered. -/
def authorNote : Text := "comment".toList

/-- One attribute as written in a tag. -/
def renderEntry (entry : Text × Text) : Text :=
  ' ' :: entry.1 ++ "=\"".toList ++ entry.2 ++ ['"']

/-- All attributes as written in a tag, except author notes and the excluded names. -/
def render (attributes : Attributes) (excluded : List Text) : Text :=
  let shown := attributes.entries.filter fun entry =>
    entry.1 ≠ authorNote && !excluded.contains entry.1
  shown.flatMap renderEntry

theorem get?_put_self (attributes : Attributes) (name value : Text) :
    (attributes.put name value).get? name = some value := Pairs.lookup_put_self

theorem get?_put_of_ne (attributes : Attributes) {name other : Text} (value : Text)
    (h : other ≠ name) : (attributes.put name value).get? other = attributes.get? other :=
  Pairs.lookup_put_of_ne h

theorem get?_erase_self (attributes : Attributes) (name : Text) :
    (attributes.erase name).get? name = none := Pairs.lookup_erase_self

theorem get?_erase_of_ne (attributes : Attributes) {name other : Text} (h : other ≠ name) :
    (attributes.erase name).get? other = attributes.get? other := Pairs.lookup_erase_of_ne h

theorem eq_of_entries {one two : Attributes} (same : one.entries = two.entries) : one = two := by
  cases one
  cases two
  cases same
  rfl

theorem erase_put_self (attributes : Attributes) (name value : Text) :
    (attributes.put name value).erase name = attributes.erase name :=
  eq_of_entries Pairs.erase_put_self

theorem erase_put_of_ne (attributes : Attributes) {name other : Text} (value : Text)
    (h : other ≠ name) :
    (attributes.put name value).erase other = (attributes.erase other).put name value :=
  eq_of_entries (Pairs.erase_put_of_ne h)

theorem erase_comm (attributes : Attributes) (name other : Text) :
    (attributes.erase name).erase other = (attributes.erase other).erase name :=
  eq_of_entries (by simp only [erase, Pairs.erase, List.filter_filter, Bool.and_comm])

/-- Pairs that are put leave a name as it was, if it was put or not. -/
theorem erase_foldl_put {one two : Attributes} {name : Text} (same : one.erase name = two.erase name)
    (pairs : List (Text × Text)) :
    (pairs.foldl (fun attributes pair => attributes.put pair.1 pair.2) one).erase name =
      (pairs.foldl (fun attributes pair => attributes.put pair.1 pair.2) two).erase name := by
  induction pairs generalizing one two with
  | nil => exact same
  | cons pair pairs ih =>
      refine ih ?_
      by_cases own : name = pair.1
      · rw [own] at same ⊢
        rw [erase_put_self, erase_put_self, same]
      · rw [erase_put_of_ne _ _ own, erase_put_of_ne _ _ own, same]

/-- Without its name, it makes no difference whether a pair was written in front. -/
theorem erase_ofList_cons (pair : Text × Text) (pairs : List (Text × Text)) :
    (ofList (pair :: pairs)).erase pair.1 = (ofList pairs).erase pair.1 :=
  erase_foldl_put (erase_put_self empty pair.1 pair.2) pairs

/-- What is rendered has no author notes. -/
theorem render_erase_authorNote (attributes : Attributes) (excluded : List Text) :
    (attributes.erase authorNote).render excluded = attributes.render excluded := by
  unfold render erase Pairs.erase
  simp only [List.filter_filter]
  congr 2
  funext entry
  cases decide (entry.1 ≠ authorNote) <;> simp

/-- Pairs with new names are added at the end. -/
theorem entries_foldl_put (attributes : Attributes) (pairs : List (Text × Text))
    (distinct : ((attributes.entries ++ pairs).map Prod.fst).Nodup) :
    (pairs.foldl (fun attributes pair => attributes.put pair.1 pair.2) attributes).entries =
      attributes.entries ++ pairs := by
  induction pairs generalizing attributes with
  | nil => rw [List.foldl_nil, List.append_nil]
  | cons pair pairs ih =>
      have new : pair.1 ∉ attributes.entries.map Prod.fst := by
        rw [List.map_append, List.map_cons] at distinct
        intro mem
        exact (List.nodup_append.mp distinct).2.2 _ mem _ List.mem_cons_self rfl
      have put : (attributes.put pair.1 pair.2).entries = attributes.entries ++ [pair] :=
        Pairs.put_of_notMem new
      rw [List.foldl_cons, ih _ (by rwa [put, List.append_assoc]), put, List.append_assoc]
      rfl

/-- Pairs with distinct names are attributes as they stand. -/
theorem entries_ofList {pairs : List (Text × Text)} (distinct : (pairs.map Prod.fst).Nodup) :
    (ofList pairs).entries = pairs :=
  entries_foldl_put empty pairs distinct

/-- With no name excluded, all is rendered but author notes. -/
theorem render_nil (attributes : Attributes) :
    attributes.render [] =
      (attributes.entries.filter fun entry => entry.1 ≠ authorNote).flatMap renderEntry := by
  simp [render]

end Attributes

end PageMarkup
