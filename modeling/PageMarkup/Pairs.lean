/-! Lists of pairs read as maps: a name has the value of its pair, and names stand in the order
in which they were first set. -/

namespace PageMarkup.Pairs

/-- Sets a name to a value, in its old place or at the end. -/
def put {κ α : Type} [DecidableEq κ] (name : κ) (value : α) : List (κ × α) → List (κ × α)
  | [] => [(name, value)]
  | pair :: pairs => if pair.1 = name then (name, value) :: pairs else pair :: put name value pairs

/-- The pairs without a name. -/
def erase {κ α : Type} [DecidableEq κ] (name : κ) (pairs : List (κ × α)) : List (κ × α) :=
  pairs.filter fun pair => pair.1 ≠ name

variable {κ α : Type} [DecidableEq κ] {name other : κ} {value : α} {pairs : List (κ × α)}

theorem mem_names_put :
    other ∈ (put name value pairs).map Prod.fst ↔ other = name ∨ other ∈ pairs.map Prod.fst := by
  induction pairs with
  | nil => simp [put]
  | cons pair pairs ih =>
      by_cases h : pair.1 = name
      · simp [put, h]
      · simp only [put, h, if_false, List.map_cons, List.mem_cons, ih]
        exact or_left_comm

theorem mem_put {pair : κ × α} (mem : pair ∈ put name value pairs) :
    pair = (name, value) ∨ pair ∈ pairs := by
  induction pairs with
  | nil => exact .inl (List.mem_singleton.mp mem)
  | cons first pairs ih =>
      rw [put] at mem
      split at mem
      · exact (List.mem_cons.mp mem).imp_right (List.mem_cons_of_mem _)
      · rcases List.mem_cons.mp mem with rfl | mem
        · exact .inr List.mem_cons_self
        · exact (ih mem).imp_right (List.mem_cons_of_mem _)

/-- A new name goes to the end. -/
theorem put_of_notMem (h : name ∉ pairs.map Prod.fst) :
    put name value pairs = pairs ++ [(name, value)] := by
  induction pairs with
  | nil => rfl
  | cons pair pairs ih =>
      rw [List.map_cons, List.mem_cons, not_or] at h
      rw [put, if_neg (Ne.symm h.1), ih h.2, List.cons_append]

theorem nodup_put (distinct : (pairs.map Prod.fst).Nodup) :
    ((put name value pairs).map Prod.fst).Nodup := by
  induction pairs with
  | nil => simp [put]
  | cons pair pairs ih =>
      rw [List.map_cons, List.nodup_cons] at distinct
      by_cases h : pair.1 = name
      · rw [put, if_pos h, List.map_cons, List.nodup_cons]
        exact ⟨by simpa only [h] using distinct.1, distinct.2⟩
      · rw [put, if_neg h, List.map_cons, List.nodup_cons]
        refine ⟨fun mem => ?_, ih distinct.2⟩
        rcases mem_names_put.mp mem with same | mem
        · exact h same
        · exact distinct.1 mem

theorem erase_cons_of_eq {pair : κ × α} (h : pair.1 = name) :
    erase name (pair :: pairs) = erase name pairs :=
  List.filter_cons_of_neg (by simpa using h)

theorem erase_cons_of_ne {pair : κ × α} (h : pair.1 ≠ name) :
    erase name (pair :: pairs) = pair :: erase name pairs :=
  List.filter_cons_of_pos (by simpa using h)

theorem map_fst_erase :
    (erase name pairs).map Prod.fst = (pairs.map Prod.fst).filter (· ≠ name) := by
  rw [erase, List.filter_map]
  rfl

theorem nodup_erase (distinct : (pairs.map Prod.fst).Nodup) :
    ((erase name pairs).map Prod.fst).Nodup :=
  (List.filter_sublist.map Prod.fst).nodup distinct

omit [DecidableEq κ] in
theorem mem_of_lookup [BEq κ] [LawfulBEq κ] (found : pairs.lookup name = some value) :
    (name, value) ∈ pairs := by
  obtain ⟨before, after, rfl, -⟩ := List.lookup_eq_some_iff.mp found
  simp

omit [DecidableEq κ] in
theorem notMem_of_lookup [BEq κ] [LawfulBEq κ] (free : pairs.lookup name = none) :
    name ∉ pairs.map Prod.fst := by
  intro listed
  obtain ⟨pair, mem, rfl⟩ := List.mem_map.mp listed
  simpa using List.lookup_eq_none_iff.mp free pair mem

omit [DecidableEq κ] in
theorem lookup_eq_some_iff_mem [BEq κ] [LawfulBEq κ] (distinct : (pairs.map Prod.fst).Nodup) :
    pairs.lookup name = some value ↔ (name, value) ∈ pairs := by
  refine ⟨mem_of_lookup, fun mem => ?_⟩
  induction pairs with
  | nil => cases mem
  | cons pair pairs ih =>
      rw [List.map_cons, List.nodup_cons] at distinct
      rcases List.mem_cons.mp mem with rfl | mem
      · simp
      · have later : (name == pair.1) = false := by
          rw [beq_eq_false_iff_ne]
          rintro rfl
          exact distinct.1 (List.mem_map.mpr ⟨_, mem, rfl⟩)
        rw [List.lookup_cons, later]
        exact ih distinct.2 mem

theorem lookup_put_self [BEq κ] [LawfulBEq κ] :
    (put name value pairs).lookup name = some value := by
  induction pairs with
  | nil => simp [put]
  | cons pair pairs ih =>
      obtain ⟨key, old⟩ := pair
      by_cases h : key = name
      · simp [put, h]
      · have other : (name == key) = false := by simpa using Ne.symm h
        simp [put, h, List.lookup_cons, other, ih]

theorem lookup_put_of_ne [BEq κ] [LawfulBEq κ] (h : other ≠ name) :
    (put name value pairs).lookup other = pairs.lookup other := by
  have unequal : (other == name) = false := by simpa using h
  induction pairs with
  | nil => simp [put, List.lookup_cons, unequal]
  | cons pair pairs ih =>
      obtain ⟨key, old⟩ := pair
      by_cases same : key = name
      · subst same
        simp [put, List.lookup_cons, unequal]
      · simp [put, same, List.lookup_cons, ih]

theorem lookup_erase_self [BEq κ] [LawfulBEq κ] : (erase name pairs).lookup name = none := by
  simpa [erase, List.lookup_eq_none_iff] using fun _ _ _ other => Ne.symm other

theorem lookup_erase_of_ne [BEq κ] [LawfulBEq κ] (h : other ≠ name) :
    (erase name pairs).lookup other = pairs.lookup other := by
  induction pairs with
  | nil => rfl
  | cons pair pairs ih =>
      obtain ⟨key, old⟩ := pair
      by_cases same : key = name
      · subst same
        have unequal : (other == key) = false := by simpa using h
        have own : ((key, old) : κ × α).1 = key := rfl
        rw [erase_cons_of_eq own, List.lookup_cons, unequal]
        exact ih
      · rw [erase_cons_of_ne same, List.lookup_cons, List.lookup_cons, ih]

theorem put_put_self {later : α} :
    put name later (put name value pairs) = put name later pairs := by
  induction pairs with
  | nil => simp [put]
  | cons pair pairs ih =>
      by_cases same : pair.1 = name
      · rw [put, if_pos same, put, if_pos rfl, put, if_pos same]
      · rw [put, if_neg same, put, if_neg same, put, if_neg same, ih]

theorem erase_of_lookup_eq_none [BEq κ] [LawfulBEq κ] (h : pairs.lookup name = none) :
    erase name pairs = pairs := by
  rw [erase, List.filter_eq_self]
  intro pair mem
  have differs : name ≠ pair.1 := by simpa using List.lookup_eq_none_iff.mp h pair mem
  exact decide_eq_true (Ne.symm differs)

theorem erase_put_self : erase name (put name value pairs) = erase name pairs := by
  induction pairs with
  | nil => exact erase_cons_of_eq rfl
  | cons pair pairs ih =>
      by_cases same : pair.1 = name
      · have own : ((name, value) : κ × α).1 = name := rfl
        rw [put, if_pos same, erase_cons_of_eq own, erase_cons_of_eq same]
      · rw [put, if_neg same, erase_cons_of_ne same, erase_cons_of_ne same, ih]

theorem erase_put_of_ne (h : other ≠ name) :
    erase other (put name value pairs) = put name value (erase other pairs) := by
  induction pairs with
  | nil => exact erase_cons_of_ne h.symm
  | cons pair pairs ih =>
      by_cases same : pair.1 = name
      · have kept : pair.1 ≠ other := fun gone => h (gone.symm.trans same)
        have own : ((name, value) : κ × α).1 ≠ other := h.symm
        rw [put, if_pos same, erase_cons_of_ne own, erase_cons_of_ne kept, put, if_pos same]
      · rw [put, if_neg same]
        by_cases gone : pair.1 = other
        · rw [erase_cons_of_eq gone, erase_cons_of_eq gone, ih]
        · rw [erase_cons_of_ne gone, erase_cons_of_ne gone, put, if_neg same, ih]

omit [DecidableEq κ] in
theorem lookup_map_snd {β : Type} [BEq κ] (change : α → β) :
    (pairs.map fun pair => (pair.1, change pair.2)).lookup name =
      (pairs.lookup name).map change := by
  induction pairs with
  | nil => rfl
  | cons pair pairs ih =>
      obtain ⟨key, value⟩ := pair
      rw [List.map_cons, List.lookup_cons, List.lookup_cons, ih]
      cases name == key <;> rfl

end PageMarkup.Pairs
