import PageMarkup.Files.Resolution
import PageMarkup.Proofs.Files.Paths

/-! # Ways

Where a way leads, by rules for its first step. It is a matter of directories and links alone: files
that come and go where no directory and no link is leave all ways as they are. -/

namespace PageMarkup.FileTree

/-- A step may be taken from a place: a directory is there, which may be searched if need be. -/
structure Opens (tree : FileTree) (here : Location) (step : Path.Step Name) : Prop where
  directory : tree.lookup? here = some .directory
  searched : step = .slash ∨ here ∉ tree.locked

/-- Steps lead from a directory to a place, with so many links to follow. -/
inductive Leads (tree : FileTree) (followLast : Bool) :
    Nat → Location → List (Path.Step Name) → Location → Prop
  | ends {links here} : Leads tree followLast links here [] here
  | stay {links here step steps place} (opens : tree.Opens here step)
      (blank : step = .slash ∨ step = .dot) (later : Leads tree followLast links here steps place) :
      Leads tree followLast links here (step :: steps) place
  | up {links here steps place} (opens : tree.Opens here .up)
      (later : Leads tree followLast links here.dropLast steps place) :
      Leads tree followLast links here (.up :: steps) place
  | atLink {links here name target} (opens : tree.Opens here (.down name))
      (short : name.bytes.length ≤ maxName)
      (link : tree.lookup? (here ++ [name]) = some (.link target)) (kept : followLast = false) :
      Leads tree followLast links here [.down name] (here ++ [name])
  | follow {links here name steps target place} (opens : tree.Opens here (.down name))
      (short : name.bytes.length ≤ maxName)
      (link : tree.lookup? (here ++ [name]) = some (.link target))
      (followed : followLast = true ∨ steps ≠ [])
      (later : Leads tree followLast links (if target.fromRoot then [] else here)
        (target.steps ++ steps) place) :
      Leads tree followLast (links + 1) here (.down name :: steps) place
  | on {links here name steps place} (opens : tree.Opens here (.down name))
      (short : name.bytes.length ≤ maxName)
      (plain : ∀ target, tree.lookup? (here ++ [name]) ≠ some (.link target))
      (later : Leads tree followLast links (here ++ [name]) steps place) :
      Leads tree followLast links here (.down name :: steps) place

variable {tree other : FileTree} {followLast : Bool} {links : Nat} {here place : Location}
  {step : Path.Step Name} {steps : List (Path.Step Name)} {path : Path} {entry : Entry}
  {flaw : Path.Flaw}

theorem obstacle?_eq_none_iff : tree.obstacle? here step = none ↔ tree.Opens here step := by
  unfold obstacle?
  split
  · next found =>
      by_cases locked : step ≠ .slash ∧ here ∈ tree.locked
      · rw [if_pos (by simpa using locked)]
        refine ⟨nofun, fun opens => ?_⟩
        exact absurd opens.searched (not_or.mpr ⟨locked.1, not_not.mpr locked.2⟩)
      · rw [if_neg (by simpa using locked)]
        refine ⟨fun _ => ⟨found, ?_⟩, fun _ => rfl⟩
        rwa [not_and_or, not_not] at locked
  · next entry other found =>
      exact ⟨nofun, fun opens => absurd (Option.some.inj (found.symm.trans opens.directory)) other⟩
  · next missing => exact ⟨nofun, fun opens => by cases missing.symm.trans opens.directory⟩

theorem leads_of_walk (h : tree.walk followLast links here steps = .ok place) :
    Leads tree followLast links here steps place := by
  fun_induction walk tree followLast links here steps with
  | case1 =>
      cases h
      exact .ends
  | case2 => cases h
  | case3 links here steps free ih =>
      exact .stay (obstacle?_eq_none_iff.mp free) (.inl rfl) (ih h)
  | case4 links here steps free ih =>
      exact .stay (obstacle?_eq_none_iff.mp free) (.inr rfl) (ih h)
  | case5 links here steps free ih => exact .up (obstacle?_eq_none_iff.mp free) (ih h)
  | case6 => cases h
  | case7 links here steps name short next target link kept free =>
      have atLink : here ++ [name] = place := Except.ok.inj h
      subst atLink
      simp only [Bool.and_eq_true, Bool.not_eq_true', List.isEmpty_iff] at kept
      obtain ⟨kept, rfl⟩ := kept
      exact .atLink (obstacle?_eq_none_iff.mp free) (Nat.le_of_not_lt short) link kept
  | case8 => cases h
  | case9 here steps name short next target link followed links free ih =>
      have followed : followLast = true ∨ steps ≠ [] := by
        cases followLast <;> simp_all
      exact .follow (obstacle?_eq_none_iff.mp free) (Nat.le_of_not_lt short) link followed (ih h)
  | case10 links here steps name short next plain free ih =>
      exact .on (obstacle?_eq_none_iff.mp free) (Nat.le_of_not_lt short) plain (ih h)

theorem Leads.walk_eq (leads : Leads tree followLast links here steps place) :
    tree.walk followLast links here steps = .ok place := by
  induction leads with
  | ends => rw [walk]
  | stay opens blank _ ih =>
      rcases blank with rfl | rfl
      · rwa [walk, obstacle?_eq_none_iff.mpr opens]
      · rwa [walk, obstacle?_eq_none_iff.mpr opens]
  | up opens _ ih =>
      rw [walk, obstacle?_eq_none_iff.mpr opens]
      exact ih
  | atLink opens short link kept =>
      rw [walk, obstacle?_eq_none_iff.mpr opens]
      simp only [Nat.not_lt.mpr short, if_false, link, kept, Bool.not_false, List.isEmpty_nil,
        Bool.and_self, if_true]
  | @follow links here name steps target place opens short link followed _ ih =>
      have goesOn : (!followLast && steps.isEmpty) = false := by
        rcases followed with always | more
        · simp [always]
        · simp [more]
      rw [walk, obstacle?_eq_none_iff.mpr opens]
      simpa only [Nat.not_lt.mpr short, if_false, link, goesOn, Bool.false_eq_true] using ih
  | @on links here name steps place opens short plain _ ih =>
      rw [walk, obstacle?_eq_none_iff.mpr opens]
      simp only [Nat.not_lt.mpr short, if_false]
      exact ih

theorem walk_eq_ok_iff : tree.walk followLast links here steps = .ok place ↔
    Leads tree followLast links here steps place :=
  ⟨leads_of_walk, Leads.walk_eq⟩

/-! ## Trees with the same ways -/

/-- The trees have the same directories and links. -/
structure SameWays (tree other : FileTree) : Prop where
  here : other.here = tree.here
  locked : other.locked = tree.locked
  directory : ∀ place,
    other.lookup? place = some .directory ↔ tree.lookup? place = some .directory
  link : ∀ place target,
    other.lookup? place = some (.link target) ↔ tree.lookup? place = some (.link target)

theorem SameWays.symm (same : SameWays tree other) : SameWays other tree :=
  ⟨same.here.symm, same.locked.symm, fun place => (same.directory place).symm,
    fun place target => (same.link place target).symm⟩

theorem Opens.same (opens : tree.Opens here step) (same : SameWays tree other) :
    other.Opens here step :=
  ⟨(same.directory here).mpr opens.directory, same.locked ▸ opens.searched⟩

theorem Leads.same (leads : Leads tree followLast links here steps place)
    (same : SameWays tree other) : Leads other followLast links here steps place := by
  induction leads with
  | ends => exact .ends
  | stay opens blank _ ih => exact .stay (opens.same same) blank ih
  | up opens _ ih => exact .up (opens.same same) ih
  | atLink opens short link kept =>
      exact .atLink (opens.same same) short ((same.link _ _).mpr link) kept
  | follow opens short link followed _ ih =>
      exact .follow (opens.same same) short ((same.link _ _).mpr link) followed ih
  | on opens short plain _ ih =>
      exact .on (opens.same same) short (fun target link => plain target ((same.link _ _).mp link))
        ih

/-- Neither a directory nor a link stands at a place. -/
def Vacant (tree : FileTree) (place : Location) : Prop :=
  tree.lookup? place = none ∨
    ∃ bytes permissions, tree.lookup? place = some (.file bytes permissions)

theorem vacant_iff : tree.Vacant place ↔
    tree.lookup? place ≠ some .directory ∧ ∀ target, tree.lookup? place ≠ some (.link target) := by
  rw [Vacant]
  cases tree.lookup? place with
  | none => simp
  | some entry => cases entry <;> simp

theorem Vacant.not_directory (vacant : tree.Vacant place) :
    tree.lookup? place ≠ some .directory := (vacant_iff.mp vacant).1

theorem Vacant.not_link (vacant : tree.Vacant place) :
    ∀ target, tree.lookup? place ≠ some (.link target) := (vacant_iff.mp vacant).2

theorem Vacant.ne_root (vacant : tree.Vacant place) : place ≠ [] := by
  rintro rfl
  exact vacant.not_directory rfl

/-- A file may be put where no directory and no link is. -/
theorem sameWays_put {bytes : List UInt8} {permissions : Nat} (vacant : tree.Vacant place) :
    SameWays tree (tree.put place (.file bytes permissions)) := by
  refine ⟨rfl, rfl, fun other => ?_, fun other target => ?_⟩ <;> by_cases same : other = place
  · simp [same, lookup?_put_self tree _ vacant.ne_root, vacant.not_directory]
  · rw [lookup?_put_of_ne tree _ same]
  · simp [same, lookup?_put_self tree _ vacant.ne_root, vacant.not_link]
  · rw [lookup?_put_of_ne tree _ same]

/-! ## Paths -/

theorem locate_eq_ok_iff : tree.locate followLast path = .ok place ↔
    ∃ steps, path.steps = .ok steps ∧ path.size ≤ maxPath ∧
      Leads tree followLast maxLinks (if path.fromRoot then [] else tree.here) steps place := by
  rw [locate]
  cases path.steps with
  | error => simp
  | ok steps =>
      by_cases long : maxPath < path.size
      · simp [long, Nat.not_le.mpr long]
      · simp [long, Nat.le_of_not_lt long, walk_eq_ok_iff]

theorem walk_ne_noPath (tree : FileTree) (followLast : Bool) (links : Nat) (here : Location)
    (steps : List (Path.Step Name)) (flaw : Path.Flaw) :
    tree.walk followLast links here steps ≠ .error (.noPath flaw) := by
  fun_induction walk tree followLast links here steps with
  | case2 here links step steps obstacle barred =>
      rintro ⟨⟩
      unfold obstacle? at barred
      split at barred
      · split at barred <;> cases barred
      · cases barred
      · cases barred
  | case3 | case4 | case5 | case9 | case10 => assumption
  | case1 | case6 | case7 | case8 => rintro ⟨⟩

theorem locate_eq_noPath_iff :
    tree.locate followLast path = .error (.noPath flaw) ↔ path.flaw? = some flaw := by
  rw [locate, Path.flaw?_eq_some_iff]
  cases path.steps with
  | error => simp
  | ok steps =>
      by_cases long : maxPath < path.size
      · simp [long]
      · simp [long, walk_ne_noPath]

theorem SameWays.locate_eq_ok_iff (same : SameWays tree other) :
    other.locate followLast path = .ok place ↔ tree.locate followLast path = .ok place := by
  rw [FileTree.locate_eq_ok_iff, FileTree.locate_eq_ok_iff, same.here]
  exact exists_congr fun steps => and_congr_right' (and_congr_right'
    ⟨fun leads => leads.same same.symm, fun leads => leads.same same⟩)

/-- A way that does not end at a link leads to the same place when links are followed to the end. -/
theorem Leads.followed (leads : Leads tree false links here steps place)
    (plain : ∀ target, tree.lookup? place ≠ some (.link target)) :
    Leads tree true links here steps place := by
  induction leads with
  | ends => exact .ends
  | stay opens blank _ ih => exact .stay opens blank (ih plain)
  | up opens _ ih => exact .up opens (ih plain)
  | atLink _ _ link _ => exact absurd link (plain _)
  | follow opens short link _ _ ih => exact .follow opens short link (.inl rfl) (ih plain)
  | on opens short link _ ih => exact .on opens short link (ih plain)

theorem locate_followed (leads : tree.locate false path = .ok place)
    (plain : ∀ target, tree.lookup? place ≠ some (.link target)) :
    tree.locate true path = .ok place := by
  obtain ⟨steps, taken, short, leads⟩ := locate_eq_ok_iff.mp leads
  exact locate_eq_ok_iff.mpr ⟨steps, taken, short, leads.followed plain⟩

section Names

variable {word inner : Word} {name innerName : Name}

theorem locate_in_root (named : word.name? = some name) (short : name.bytes.length ≤ maxName)
    (size : Path.size ⟨1, [.down word]⟩ ≤ maxPath) (searched : [] ∉ tree.locked)
    (plain : ∀ target, tree.lookup? [name] ≠ some (.link target)) :
    tree.locate followLast ⟨1, [.down word]⟩ = .ok [name] := by
  have steps : Path.steps ⟨1, [.down word]⟩ = .ok [.down name] := by
    simp [Path.steps, Path.Part.step?, named]
  exact locate_eq_ok_iff.mpr ⟨_, steps, size, .on ⟨rfl, .inr searched⟩ short plain .ends⟩

theorem locate_in_directory (named : word.name? = some name)
    (namedInner : inner.name? = some innerName)
    (short : name.bytes.length ≤ maxName ∧ innerName.bytes.length ≤ maxName)
    (size : Path.size ⟨1, [.down word, .down inner]⟩ ≤ maxPath)
    (directory : tree.lookup? [name] = some .directory)
    (searched : [] ∉ tree.locked ∧ [name] ∉ tree.locked)
    (plain : ∀ target, tree.lookup? [name, innerName] ≠ some (.link target)) :
    tree.locate followLast ⟨1, [.down word, .down inner]⟩ = .ok [name, innerName] := by
  have steps : Path.steps ⟨1, [.down word, .down inner]⟩ = .ok [.down name, .down innerName] := by
    simp [Path.steps, Path.Part.step?, named, namedInner]
  have leads : Leads tree followLast maxLinks [] [.down name, .down innerName] [name, innerName] :=
    .on ⟨rfl, .inr searched.1⟩ short.1 (by simp [directory])
      (.on ⟨directory, .inr searched.2⟩ short.2 plain .ends)
  exact locate_eq_ok_iff.mpr ⟨_, steps, size, leads⟩

/-- Nobody can tell what is in a directory that may not be searched. -/
theorem probe_in_locked (named : word.name? = some name) (namedInner : inner.name? = some innerName)
    (short : name.bytes.length ≤ maxName)
    (size : Path.size ⟨1, [.down word, .down inner]⟩ ≤ maxPath)
    (directory : tree.lookup? [name] = some .directory) (searched : [] ∉ tree.locked)
    (locked : [name] ∈ tree.locked) :
    tree.probe followLast ⟨1, [.down word, .down inner]⟩ = .error .denied := by
  have steps : Path.steps ⟨1, [.down word, .down inner]⟩ = .ok [.down name, .down innerName] := by
    simp [Path.steps, Path.Part.step?, named, namedInner]
  have opens : tree.obstacle? [] (.down name) = none :=
    obstacle?_eq_none_iff.mpr ⟨rfl, .inr searched⟩
  have denied : tree.obstacle? [name] (.down innerName) = some .denied := by
    simp [obstacle?, directory, locked]
  have walked :
      tree.walk followLast maxLinks [] [.down name, .down innerName] = .error .denied := by
    rw [walk, opens]
    simp only [Nat.not_lt.mpr short, if_false, List.nil_append, directory]
    rw [walk, denied]
  have located : tree.locate followLast ⟨1, [.down word, .down inner]⟩ = .error .denied := by
    rw [locate, steps]
    exact (if_neg (Nat.not_lt.mpr size)).trans walked
  simp only [probe, entryAt, located, Obstacle.meansNothing, Bool.false_eq_true, if_false]

end Names

/-! ## What is found -/

section Found

variable {bytes : List UInt8} {bits : Nat} {word : Word} {room : Nat}

theorem entryAt_of_leads (leads : tree.locate followLast path = .ok place)
    (found : tree.lookup? place = some entry) : tree.entryAt followLast path = .ok entry := by
  simp only [entryAt, leads, found]

theorem probe_of_leads (leads : tree.locate followLast path = .ok place) :
    tree.probe followLast path = .ok (tree.lookup? place) := by
  simp only [probe, entryAt, leads]
  cases tree.lookup? place <;> rfl

theorem read?_of_leads (leads : tree.locate true path = .ok place)
    (found : tree.lookup? place = some (.file bytes bits)) (given : place ∉ tree.withheld) :
    tree.read? path = some bytes := by
  simp [read?, find?, entryAt_of_leads leads found, isWithheld, leads, given, Except.toOption]

theorem resolve_root (tree : FileTree) (room : Nat) :
    tree.resolve room ⟨1, []⟩ = .ok ⟨1, []⟩ := by
  have settled : tree.settle room [] ⟨1, []⟩ [] = .ok ⟨⟨1, []⟩, [], true⟩ := by rw [settle]
  have leads : tree.locate true ⟨1, []⟩ = .ok [] :=
    locate_eq_ok_iff.mpr ⟨[], rfl, by decide, .ends⟩
  have absolute : tree.absolute ⟨1, []⟩ = .ok ⟨1, []⟩ := rfl
  simp only [resolve, Path.fromRoot, List.map_nil]
  simp [settled, absolute, leads]

/-- A directory in the root is where it is. -/
theorem resolve_in_root (leads : tree.locate false ⟨1, [.down word]⟩ = .ok place)
    (found : tree.lookup? place = some .directory) :
    tree.resolve room ⟨1, [.down word]⟩ = .ok ⟨1, [.down word]⟩ := by
  have settled : tree.settle room [] ⟨1, []⟩ [.down word] =
      .ok ⟨⟨1, [.down word]⟩, [], true⟩ := by
    rw [settle]
    simp only [Path.child, List.nil_append, entryAt_of_leads leads found]
    rw [settle]
  have followed : tree.locate true ⟨1, [.down word]⟩ = .ok place :=
    locate_followed leads (by simp [found])
  have absolute : tree.absolute ⟨1, [.down word]⟩ = .ok ⟨1, [.down word]⟩ := rfl
  simp only [resolve, Path.fromRoot, List.map_cons, List.map_nil, Path.Part.step]
  simp [settled, absolute, followed]

end Found

end PageMarkup.FileTree
