import PageMarkup.Proofs.Settings.Nearest

/-! # Skipped files

Files of settings that cannot be used are as good as absent. A search that fails for another reason
than a table of settings fails at the first file that breaks it. -/

namespace PageMarkup.Search

variable {room : Room} {files others : FileTree} {directory start : Path} {place : Place}
  {fault : Fault} {value : Toml.Value}

/-- The fault is one of a table of settings, and not of the search. -/
def Fault.isReport : Fault → Bool
  | .notTable _ _ | .unknownKeys _ _ _ => true
  | _ => false

/-- The first place that is not passed is one in a file that breaks the search. -/
def FirstBroken (room : Room) (files : FileTree) (start : Path) (fault : Fault) : Prop :=
  ∃ before place after, places start = before ++ place :: after ∧
    (∀ other ∈ before, Passed room files other) ∧ Breaks room files place.file fault

/-! ## Faults -/

theorem isReport_of_draftIn {table : Toml.Key} {file : Path}
    (refused : draftIn table file value = .error fault) : fault.isReport = true := by
  unfold draftIn at refused
  split at refused
  · split at refused <;> cases refused
    rfl
  · cases refused
    rfl

theorem passed_of_ruling? (silent : ruling? room files place = none) : Passed room files place := by
  by_contra decides
  obtain ⟨outcome, ruled⟩ := exists_ruling decides
  rw [silent] at ruled
  cases ruled

theorem breaks_of_ruling? (ruled : ruling? room files place = some (.error fault))
    (search : fault.isReport = false) : Breaks room files place.file fault := by
  rcases file_cases room files place.file with unusable | ⟨other, breaks⟩ | ⟨document, holds⟩
  · rw [ruling?_of_unusable unusable] at ruled
    cases ruled
  · rw [ruling?_of_breaks breaks] at ruled
    cases ruled
    exact breaks
  · rw [ruling?_of_document holds] at ruled
    obtain ⟨value, -, refused⟩ := Option.map_eq_some_iff.mp ruled
    rw [isReport_of_draftIn refused] at search
    cases search

theorem load_eq_error_iff (begins : files.resolve room.links directory = .ok start)
    (search : fault.isReport = false) :
    load room files directory = .error fault ↔ FirstBroken room files start fault := by
  constructor
  · intro failed
    rw [load_eq_ruling begins] at failed
    cases found : (places start).findSome? (ruling? room files) with
    | none =>
        rw [found] at failed
        cases failed
    | some outcome =>
        rw [found] at failed
        obtain rfl : outcome = .error fault := failed
        obtain ⟨before, place, after, split, ruled, silent⟩ := List.findSome?_eq_some_iff.mp found
        exact ⟨before, place, after, split, fun other mem => passed_of_ruling? (silent other mem),
          breaks_of_ruling? ruled search⟩
  · rintro ⟨before, place, after, split, passed, breaks⟩
    exact load_of_first begins split (silent_of_passed split passed) (ruling?_of_breaks breaks)

theorem load_congr (begins : files.resolve room.links directory = .ok start)
    (beginsToo : others.resolve room.links directory = .ok start)
    (alike : ∀ place ∈ places start, ruling? room others place = ruling? room files place) :
    load room others directory = load room files directory := by
  have same := calc (places start).findSome? (ruling? room others)
    _ = ((places start).map (ruling? room others)).findSome? id := by rw [List.findSome?_map]; rfl
    _ = ((places start).map (ruling? room files)).findSome? id := by rw [List.map_congr_left alike]
    _ = (places start).findSome? (ruling? room files) := by rw [List.findSome?_map]; rfl
  rw [load_eq_ruling begins, load_eq_ruling beginsToo, same]

/-- Every search ends with a draft, with a fault of a table of settings, with the fault of the first
file that breaks it, or before it begins. Files that cannot be read or are not TOML make no more of
a difference than if they were absent. -/
theorem unusable_files_are_skipped (room : Room) (files : FileTree) (directory : Path) :
    (∀ fault : Fault, fault.isReport = false → (load room files directory = .error fault ↔
      (∃ unresolved, files.resolve room.links directory = .error unresolved ∧
        fault = .unresolved unresolved) ∨
      ∃ start, files.resolve room.links directory = .ok start ∧
        FirstBroken room files start fault)) ∧
    ∀ (others : FileTree) (start : Path), files.resolve room.links directory = .ok start →
      others.resolve room.links directory = .ok start →
      (∀ place ∈ places start, SameAt files others place.file ∨
        Unusable room files place.file ∧ Absent others place.file) →
      load room others directory = load room files directory := by
  refine ⟨fun fault search => ?_, fun others start begins beginsToo alike => ?_⟩
  · cases begins : files.resolve room.links directory with
    | error unresolved => simp [load, loadTelling, begins, eq_comm]
    | ok start => simpa using load_eq_error_iff begins search
  · refine load_congr begins beginsToo fun place mem => ?_
    rcases alike place mem with same | ⟨unusable, absent⟩
    · exact ruling?_congr same
    · rw [ruling?_of_unusable unusable, ruling?_of_unusable (unusable_of_absent absent)]

/-- A project file in the root, and a directory that may not be searched. -/
def projectAndLocked (bytes : List UInt8) : FileTree :=
  let project : Name := ⟨Text.encode "pyproject.toml".toList, by decide⟩
  let closed : Name := ⟨Text.encode "closed".toList, by decide⟩
  { entries := [([project], .file bytes 0o644), ([closed], .directory)]
    locked := [[closed]] }

/-- A project file that is not TOML is as good as none; one that is not text breaks the search, and
so does a directory that may not be searched. -/
theorem project_file_without_toml_and_without_text_and_locked_directory :
    load ⟨0, 0⟩ {} (.ofText "/".toList) =
      load ⟨0, 0⟩ (projectAndLocked (Text.encode "x".toList)) (.ofText "/".toList) ∧
    (∃ fault, load ⟨0, 0⟩ (projectAndLocked [0xff]) (.ofText "/".toList) =
      .error (.undecodable fault)) ∧
    load ⟨0, 0⟩ (projectAndLocked []) (.ofText "/closed".toList) = .error (.barred .denied) := by
  have noLock {bytes : List UInt8} : [] ∉ (projectAndLocked bytes).locked := by
    simp [projectAndLocked]
  have leads (bytes : List UInt8) :
      (projectAndLocked bytes).locate true (.ofText "/pyproject.toml".toList) = .ok _ :=
    FileTree.locate_in_root rfl (by decide) (by decide) noLock fun _ link => by cases link
  have leadsOwn (bytes : List UInt8) :
      (projectAndLocked bytes).locate true (.ofText "/.htmlplusplus.toml".toList) = .ok _ :=
    FileTree.locate_in_root rfl (by decide) (by decide) noLock fun _ link => by cases link
  have given (bytes : List UInt8) :
      (projectAndLocked bytes).read? (.ofText "/pyproject.toml".toList) = some bytes :=
    FileTree.read?_of_leads (leads bytes) rfl List.not_mem_nil
  refine ⟨?_, ?_, ?_⟩
  · have malformed : Unusable ⟨0, 0⟩ (projectAndLocked (Text.encode "x".toList))
        (.ofText "/pyproject.toml".toList) := .malformed (given _) rfl
    have elsewhere : Unusable ⟨0, 0⟩ (projectAndLocked (Text.encode "x".toList))
        (.ofText "/.htmlplusplus.toml".toList) :=
      unusable_of_absent (FileTree.probe_of_leads (leadsOwn _))
    have absentProject : Absent {} (.ofText "/pyproject.toml".toList) :=
      FileTree.probe_of_leads
        (FileTree.locate_in_root rfl (by decide) (by decide) List.not_mem_nil
          fun _ link => by cases link)
    have absentOwn : Absent {} (.ofText "/.htmlplusplus.toml".toList) :=
      FileTree.probe_of_leads
        (FileTree.locate_in_root rfl (by decide) (by decide) List.not_mem_nil
          fun _ link => by cases link)
    refine (unusable_files_are_skipped ⟨0, 0⟩
      (projectAndLocked (Text.encode "x".toList)) (.ofText "/".toList)).2 {} _
      (FileTree.resolve_root _ _) (FileTree.resolve_root _ _) fun place mem => .inr ?_
    rcases mem with _ | ⟨_, _ | ⟨_, _ | ⟨_, ⟨⟩⟩⟩⟩
    · exact ⟨malformed, absentProject⟩
    · exact ⟨elsewhere, absentOwn⟩
    · exact ⟨elsewhere, absentOwn⟩
  · have found : Text.decode [0xff] = .error ⟨.invalidStart, 0, 1, 0xff⟩ := by
      rw [Text.decode, Text.decodeFrom]
      rfl
    have noText := Text.exists_decode_error_iff.mp ⟨_, found⟩
    have broken : FirstBroken ⟨0, 0⟩ (projectAndLocked [0xff]) (.ofText "/".toList)
        (.undecodable ⟨.invalidStart, 0, 1, 0xff⟩) :=
      ⟨[], _, _, rfl, fun _ mem => absurd mem List.not_mem_nil, .undecodable (given _) noText found⟩
    exact ⟨_, ((unusable_files_are_skipped ⟨0, 0⟩ (projectAndLocked [0xff])
      (.ofText "/".toList)).1 _ rfl).mpr (.inr ⟨_, FileTree.resolve_root _ _, broken⟩)⟩
  · have begins : (projectAndLocked []).resolve 0 (.ofText "/closed".toList) =
        .ok (.ofText "/closed".toList) :=
      FileTree.resolve_in_root
        (FileTree.locate_in_root rfl (by decide) (by decide) noLock fun _ link => by cases link) rfl
    have denied : (projectAndLocked []).probe true (.ofText "/closed/pyproject.toml".toList) =
        .error .denied :=
      FileTree.probe_in_locked rfl rfl (by decide) (by decide) rfl noLock List.mem_cons_self
    have broken : FirstBroken ⟨0, 0⟩ (projectAndLocked []) (.ofText "/closed".toList)
        (.barred .denied) :=
      ⟨[], _, _, rfl, fun _ mem => absurd mem List.not_mem_nil, .barred denied⟩
    exact ((unusable_files_are_skipped ⟨0, 0⟩ (projectAndLocked []) (.ofText "/closed".toList)).1
      _ rfl).mpr (.inr ⟨_, begins, broken⟩)

end PageMarkup.Search
