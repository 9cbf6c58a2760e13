import Mathlib.Data.List.Nodup
import Mathlib.Data.List.Perm.Subperm
import PageMarkup.Files.Publication
import PageMarkup.Proofs.Files.Encoding
import PageMarkup.Proofs.Files.Ways

/-! # Names for new files

The new file for a page has a name of its own, and its path is none only if that of the page is. -/

namespace PageMarkup.Publication

variable {files : FileTree} {path : Path} {temporary : Location} {entry : Entry}

/-! ## Words with numbers -/

theorem ofDigitChars_eightDigits (number : Nat) :
    Nat.ofDigitChars 10 (eightDigits number) 0 = number := by
  rw [eightDigits, Nat.ofDigitChars_append, Nat.ofDigitChars_replicate_zero, Nat.mul_zero]
  exact Nat.ofDigitChars_toDigits (by decide) (by decide)

theorem encode_temporarySpelling (path : Path) (number : Nat) :
    (temporarySpelling path number).encode = Spelling.encode (.char '.' :: path.name) ++
      Text.encode ('.' :: eightDigits number ++ ".tmp".toList) := by
  rw [temporarySpelling, Spelling.encode, List.flatMap_append]
  exact congrArg _ (Spelling.encode_ofText _)

/-- Words with different numbers spell different names. -/
theorem number_eq_of_name? {first second : Nat} {name : Name}
    (one : (temporaryWord path first).name? = some name)
    (other : (temporaryWord path second).name? = some name) : first = second := by
  have same : (temporarySpelling path first).encode = (temporarySpelling path second).encode :=
    (Word.bytes_of_name? one).symm.trans (Word.bytes_of_name? other)
  rw [encode_temporarySpelling, encode_temporarySpelling, List.append_cancel_left_eq] at same
  have texts := Text.eq_of_encode same
  have digits : eightDigits first = eightDigits second := by simpa using texts
  rw [← ofDigitChars_eightDigits first, digits, ofDigitChars_eightDigits]

/-- Whether the word for a new file spells a name depends on the name of the page alone. -/
theorem name?_temporaryWord_eq_none_iff {number : Nat} :
    (temporaryWord path number).name? = none ↔
      .char '\x00' ∈ path.name ∨ ∃ sign ∈ path.name, sign.bytes? = none := by
  have plain : ∀ sign ∈ Spelling.ofText ('.' :: eightDigits number ++ ".tmp".toList),
      sign ≠ .char '\x00' ∧ sign.bytes? ≠ none := by
    intro sign held
    obtain ⟨c, mem, rfl⟩ := List.mem_map.mp held
    refine ⟨fun zero => ?_, nofun⟩
    obtain rfl := Sign.char.inj zero
    rcases List.mem_append.mp mem with mem | mem
    · rcases List.mem_cons.mp mem with dot | mem
      · cases dot
      · cases isDigit_eightDigits number _ mem
    · cases List.elem_eq_true_of_mem mem
  rw [Word.name?_eq_none_iff]
  change (_ ∈ temporarySpelling path number ∨ ∃ sign ∈ temporarySpelling path number, _) ↔ _
  rw [temporarySpelling]
  constructor
  · rintro (zero | ⟨sign, mem, none⟩)
    · rcases List.mem_append.mp zero with mem | mem
      · exact .inl (List.mem_of_ne_of_mem (by decide) mem)
      · exact absurd rfl (plain _ mem).1
    · rcases List.mem_append.mp mem with mem | mem
      · rcases List.mem_cons.mp mem with rfl | mem
        · cases none
        · exact .inr ⟨sign, mem, none⟩
      · exact absurd none (plain _ mem).2
  · rintro (zero | ⟨sign, mem, none⟩)
    · exact .inl (List.mem_append_left _ (List.mem_cons_of_mem _ zero))
    · exact .inr ⟨sign, List.mem_append_left _ (List.mem_cons_of_mem _ mem), none⟩

/-! ## Free names -/

theorem mem_names_of_lookup? {location : Location} (root : location ≠ [])
    (found : files.lookup? location = some entry) : location ∈ files.entries.map Prod.fst := by
  rw [FileTree.lookup?, if_neg root] at found
  exact List.mem_map.mpr ⟨_, Pairs.mem_of_lookup found, rfl⟩

/-- There are more names to try than entries, so that one of them is free. -/
theorem exists_freshName (files : FileTree) (directory : Location)
    (spelt : (temporaryWord path 0).name? ≠ none) :
    ∃ name, freshName? files directory path = some name ∧
      files.lookup? (directory ++ [name]) = none := by
  have all (number : Nat) : ∃ name, (temporaryWord path number).name? = some name := by
    refine Option.ne_none_iff_exists'.mp fun none => spelt ?_
    exact name?_temporaryWord_eq_none_iff.mpr (name?_temporaryWord_eq_none_iff.mp none)
  choose name spelt using all
  cases found : freshName? files directory path with
  | some fresh =>
      obtain ⟨number, -, untaken⟩ := List.exists_of_findSome?_eq_some found
      rw [spelt number, Option.filter_eq_some_iff] at untaken
      obtain ⟨same, free⟩ := untaken
      exact ⟨fresh, rfl, Option.isNone_iff_eq_none.mp free⟩
  | none =>
      let location (number : Nat) : Location := directory ++ [name number]
      have distinct : ((List.range (files.entries.length + 1)).map location).Nodup := by
        refine List.Nodup.map (fun first second same => ?_) List.nodup_range
        have same : name first = name second := by simpa [location] using same
        exact number_eq_of_name? (spelt first) (same ▸ spelt second)
      have taken : (List.range (files.entries.length + 1)).map location ⊆
          files.entries.map Prod.fst := by
        intro _ mem
        obtain ⟨number, tried, rfl⟩ := List.mem_map.mp mem
        have untried := List.findSome?_eq_none_iff.mp found number tried
        have taken : files.lookup? (location number) ≠ none := by
          simpa [spelt number, Option.filter_eq_none_iff, location] using untried
        obtain ⟨entry, there⟩ := Option.ne_none_iff_exists'.mp taken
        exact mem_names_of_lookup? (by simp [location]) there
      have few := (List.subperm_of_subset distinct taken).length_le
      simp only [List.length_map, List.length_range] at few
      omega

theorem lookup?_temporaryPlace (opened : temporaryPlace files path = .ok temporary) :
    files.lookup? temporary = none := by
  rw [temporaryPlace] at opened
  cases began : files.absolute path.parent with
  | error =>
      rw [began] at opened
      cases opened
  | ok directory =>
      simp only [began] at opened
      cases leads : files.locate false (directory.child (.down (temporaryWord path 0))) with
      | error =>
          rw [leads] at opened
          cases opened
      | ok place =>
          obtain ⟨steps, taken, -⟩ := FileTree.locate_eq_ok_iff.mp leads
          have spelt : (temporaryWord path 0).name? ≠ none := by
            intro none
            have own : Path.Part.down (temporaryWord path 0) ∈
                (directory.child (.down (temporaryWord path 0))).parts :=
              List.mem_append_right _ List.mem_cons_self
            obtain ⟨flaw, flawed⟩ := Path.exists_flaw?_iff.mpr
              ⟨_, own, Word.name?_eq_none_iff.mp none⟩
            cases (Path.flaw?_eq_some_iff.mp flawed).symm.trans taken
          obtain ⟨name, fresh, free⟩ := exists_freshName files place.dropLast spelt
          simp only [leads, fresh] at opened
          cases opened
          exact free

/-! ## Paths of new files -/

/-- Two dots only take parts away. -/
theorem mem_collapse {part : Path.Part} (mem : part ∈ path.collapse.parts) :
    part ∈ path.parts := by
  refine List.foldlRecOn path.parts _ (motive := fun parts => part ∈ parts → part ∈ path.parts)
    (fun none => absurd none List.not_mem_nil) ?_ mem
  intro parts known other there held
  cases other with
  | up => exact known ((List.dropLast_sublist _).subset held)
  | down word =>
      rcases List.mem_append.mp held with held | own
      · exact known held
      · exact List.mem_singleton.mp own ▸ there

/-- A path seen from the root has no parts but its own and those of the working directory. -/
theorem mem_absolute {directory : Path} {part : Path.Part}
    (began : files.absolute path = .ok directory) (mem : part ∈ directory.parts) :
    part ∈ (Path.ofLocation files.here).parts ∨ part ∈ path.parts := by
  rw [FileTree.absolute] at began
  split at began
  · cases began
    exact .inr (mem_collapse mem)
  · next relative =>
      split at began
      · cases began
        have mem := mem_collapse mem
        rw [Path.append, if_neg relative] at mem
        exact List.mem_append.mp mem
      · cases began

theorem absolute_ne_noPath (path : Path) (flaw : Path.Flaw) :
    files.absolute path ≠ .error (.noPath flaw) := by
  rw [FileTree.absolute]
  split
  · nofun
  · split <;> nofun

/-- Only what no path can hold in the path itself keeps the new file from having a path. -/
theorem isNone_of_temporaryPlace {flaw : Path.Flaw}
    (barred : temporaryPlace files path = .error (.noPath flaw)) : path.IsNone := by
  rw [temporaryPlace] at barred
  cases began : files.absolute path.parent with
  | error obstacle =>
      rw [began] at barred
      cases barred
      exact absurd began (absolute_ne_noPath path.parent flaw)
  | ok directory =>
      simp only [began] at barred
      cases leads : files.locate false (directory.child (.down (temporaryWord path 0))) with
      | ok place =>
          simp only [leads] at barred
          split at barred <;> cases barred
      | error obstacle =>
          rw [leads] at barred
          cases barred
          obtain ⟨part, mem, none⟩ := Path.exists_flaw?_iff.mp
            ⟨flaw, FileTree.locate_eq_noPath_iff.mp leads⟩
          rcases List.mem_append.mp mem with mem | own
          · rcases mem_absolute began mem with mem | mem
            · obtain ⟨name, -, rfl⟩ := List.mem_map.mp mem
              have unspelt := Word.name?_eq_none_iff.mpr none
              rw [Name.name?_word] at unspelt
              cases unspelt
            · exact ⟨part, (List.dropLast_sublist _).subset mem, none⟩
          · obtain rfl := List.mem_singleton.mp own
            have held := name?_temporaryWord_eq_none_iff.mp (Word.name?_eq_none_iff.mpr none)
            rw [Path.name] at held
            cases last : path.parts.getLast? with
            | none => simp [last] at held
            | some part => exact ⟨part, List.mem_of_getLast? last, by simpa [last] using held⟩

end PageMarkup.Publication
