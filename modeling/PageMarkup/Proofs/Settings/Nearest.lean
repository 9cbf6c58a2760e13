import PageMarkup.Proofs.Files.Encoding
import PageMarkup.Proofs.Files.Ways
import PageMarkup.Proofs.Settings.Tables

/-! # The nearest table

The search for settings, place by place: which places there are, what each says, and that the first
one that says anything decides. -/

namespace PageMarkup.Search

/-- A table in a file where settings may be. -/
structure Place where
  file : Path
  table : Toml.Key
deriving DecidableEq

/-- The places in a directory, first the one that comes first. -/
def placesIn (directory : Path) : List Place :=
  let project := directory.child (.down projectFile)
  let own := directory.child (.down ownFile)
  [⟨project, ["tool".toList, program]⟩, ⟨own, [program]⟩, ⟨own, ["tool".toList, program]⟩]

/-- The places for a directory: first its own, then those in each directory above it. -/
def places (start : Path) : List Place := (Path.ancestors start).flatMap placesIn

variable {room : Room} {files others : FileTree} {file directory start : Path} {place : Place}
  {fault : Fault} {value : Toml.Value} {text : Text} {bytes : List UInt8}

/-! ## What places say -/

/-- There is nothing to read: no file, or one that is not given out. -/
structure Unread (files : FileTree) (file : Path) : Prop where
  unread : files.read? file = none
  unbarred : ∀ obstacle, files.probe true file ≠ .error obstacle

/-- A file cannot be used: it cannot be read, or its text is not TOML. -/
inductive Unusable (room : Room) (files : FileTree) (file : Path) : Prop
  | unread (unread : Unread files file)
  | malformed {text : Text} (given : files.read? file = some (Text.encode text))
      (malformed : Toml.parse room.values text = .error .malformed)

/-- Nothing is there. -/
def Absent (files : FileTree) (file : Path) : Prop := files.probe true file = .ok none

/-- A file holds a document. -/
def HoldsDocument (room : Room) (files : FileTree) (file : Path) (document : Toml.Table) :
    Prop :=
  ∃ text, files.read? file = some (Text.encode text) ∧ Toml.parse room.values text = .ok document

/-- A place says nothing. -/
inductive Passed (room : Room) (files : FileTree) (place : Place) : Prop
  | unusable (unusable : Unusable room files place.file)
  | noTable {document : Toml.Table} (holds : HoldsDocument room files place.file document)
      (noTable : ∀ value, ¬ Toml.Stands document place.table value)

/-- A value is written at a place. -/
def Written (room : Room) (files : FileTree) (place : Place) (value : Toml.Value) : Prop :=
  ∃ document, HoldsDocument room files place.file document ∧ Toml.Stands document place.table value

/-- A file that is neither used nor passed. -/
inductive Breaks (room : Room) (files : FileTree) (file : Path) : Fault → Prop
  | barred {obstacle : FileTree.Obstacle} (barred : files.probe true file = .error obstacle) :
      Breaks room files file (.barred obstacle)
  | undecodable {bytes : List UInt8} {fault : Text.DecodeFault}
      (given : files.read? file = some bytes) (noText : ∀ text, Text.encode text ≠ bytes)
      (found : Text.decode bytes = .error fault) : Breaks room files file (.undecodable fault)
  | numeralTooLong {text : Text} {digits : Nat} (given : files.read? file = some (Text.encode text))
      (long : Toml.parse room.values text = .error (.numeralTooLong digits)) :
      Breaks room files file (.numeralTooLong digits)
  | tooDeep {text : Text} (given : files.read? file = some (Text.encode text))
      (deep : Toml.parse room.values text = .error .tooDeep) : Breaks room files file .tooDeep

/-! ## Looking at a file -/

section Look

variable {candidate : Candidate} {document : Toml.Table}

theorem probe_of_read? (given : files.read? file = some bytes) :
    ∃ bits, files.probe true file = .ok (some (.file bytes bits)) := by
  rw [FileTree.read?] at given
  split at given
  · next bits found =>
      split at given <;> cases given
      refine ⟨bits, ?_⟩
      rw [FileTree.find?] at found
      cases there : files.entryAt true file with
      | error => rw [there] at found; cases found
      | ok entry =>
          rw [there] at found
          cases found
          rw [FileTree.probe, there]
  · cases given

theorem unusable_of_absent {file : Path} (absent : Absent files file) :
    Unusable room files file := by
  refine .unread ⟨?_, fun obstacle barred => ?_⟩
  · cases given : files.read? file with
    | none => rfl
    | some bytes =>
        obtain ⟨bits, probed⟩ := probe_of_read? given
        rw [absent] at probed
        cases probed
  · rw [absent] at barred
    cases barred

theorem look_of_given (given : files.read? candidate.file = some bytes) :
    look room files candidate = consult room candidate bytes := by
  obtain ⟨bits, probed⟩ := probe_of_read? given
  rw [look, probed]
  simp only [given]

theorem look_of_unusable (unusable : Unusable room files candidate.file) :
    (look room files candidate).1 = .ok none := by
  cases unusable with
  | unread unread =>
      rw [look]
      split
      · next obstacle barred => exact absurd barred (unread.unbarred obstacle)
      · simp only [unread.unread]
      · rfl
  | malformed given malformed =>
      rw [look_of_given given, consult, Text.decode_eq_ok_iff.mpr rfl]
      simp only [malformed]

theorem look_of_breaks (breaks : Breaks room files candidate.file fault) :
    (look room files candidate).1 = .error fault := by
  cases breaks with
  | barred barred => rw [look, barred]
  | undecodable given noText found =>
      rw [look_of_given given, consult, found]
  | numeralTooLong given long =>
      rw [look_of_given given, consult, Text.decode_eq_ok_iff.mpr rfl]
      simp only [long]
  | tooDeep given deep =>
      rw [look_of_given given, consult, Text.decode_eq_ok_iff.mpr rfl]
      simp only [deep]

theorem look_of_document (holds : HoldsDocument room files candidate.file document) :
    (look room files candidate).1 = match firstTable? document candidate.tables with
      | none => .ok none
      | some (table, value) => (draftIn table candidate.file value).map some := by
  obtain ⟨text, given, parsed⟩ := holds
  rw [look_of_given given, consult, Text.decode_eq_ok_iff.mpr rfl]
  simp only [parsed]
  cases firstTable? document candidate.tables <;> rfl

/-- A file cannot be used, breaks the search or holds a document. -/
theorem file_cases (room : Room) (files : FileTree) (file : Path) :
    Unusable room files file ∨ (∃ fault, Breaks room files file fault) ∨
      ∃ document, HoldsDocument room files file document := by
  cases given : files.read? file with
  | none =>
      by_cases barred : ∃ obstacle, files.probe true file = .error obstacle
      · obtain ⟨obstacle, barred⟩ := barred
        exact .inr (.inl ⟨_, .barred barred⟩)
      · exact .inl (.unread ⟨given, fun obstacle probed => barred ⟨obstacle, probed⟩⟩)
  | some bytes =>
  cases found : Text.decode bytes with
  | error fault =>
      have not_text := Text.exists_decode_error_iff.mp ⟨fault, found⟩
      exact .inr (.inl ⟨_, .undecodable given not_text found⟩)
  | ok text =>
  rw [Text.decode_eq_ok_iff.mp found] at given
  cases parsed : Toml.parse room.values text with
  | ok document => exact .inr (.inr ⟨document, text, given, parsed⟩)
  | error fault =>
      cases fault with
      | malformed => exact .inl (.malformed given parsed)
      | numeralTooLong digits => exact .inr (.inl ⟨_, .numeralTooLong given parsed⟩)
      | tooDeep => exact .inr (.inl ⟨_, .tooDeep given parsed⟩)

end Look

/-! ## Rulings -/

/-- What a place says, if anything. -/
def ruling? (room : Room) (files : FileTree) (place : Place) : Option (Except Fault Draft) :=
  match (look room files ⟨place.file, [place.table]⟩).1 with
  | .error fault => some (.error fault)
  | .ok draft? => draft?.map .ok

theorem ruling?_of_unusable (unusable : Unusable room files place.file) :
    ruling? room files place = none := by
  have looked : (look room files ⟨place.file, [place.table]⟩).1 = _ := look_of_unusable unusable
  rw [ruling?, looked]
  rfl

theorem ruling?_of_breaks (breaks : Breaks room files place.file fault) :
    ruling? room files place = some (.error fault) := by
  have looked : (look room files ⟨place.file, [place.table]⟩).1 = _ := look_of_breaks breaks
  rw [ruling?, looked]

theorem ruling?_of_document {document : Toml.Table}
    (holds : HoldsDocument room files place.file document) :
    ruling? room files place =
      (document.get? place.table).map (draftIn place.table place.file) := by
  have looked : (look room files ⟨place.file, [place.table]⟩).1 = _ := look_of_document holds
  rw [ruling?, looked]
  cases found : document.get? place.table with
  | none => simp only [firstTable?, List.findSome?_cons, found, Option.map_none, List.findSome?_nil]
  | some value =>
      simp only [firstTable?, List.findSome?_cons, found, Option.map_some]
      cases draftIn place.table place.file value <;> rfl

/-- A table has a name. -/
theorem exists_part_of_mem_places (mem : place ∈ places start) :
    ∃ part key, place.table = part :: key := by
  obtain ⟨directory, -, mem⟩ := List.mem_flatMap.mp mem
  rcases mem with _ | ⟨_, _ | ⟨_, _ | ⟨_, ⟨⟩⟩⟩⟩ <;> exact ⟨_, _, rfl⟩

theorem ruling?_of_passed (listed : place ∈ places start) (passed : Passed room files place) :
    ruling? room files place = none := by
  cases passed with
  | unusable unusable => exact ruling?_of_unusable unusable
  | @noTable document holds noTable =>
      rw [ruling?_of_document holds, Option.map_eq_none_iff]
      obtain ⟨part, key, named⟩ := exists_part_of_mem_places listed
      cases found : document.get? place.table with
      | none => rfl
      | some value =>
          rw [named] at found noTable
          exact absurd (Toml.stands_of_get? found) (noTable value)

theorem ruling?_of_written (written : Written room files place value) :
    ∃ outcome, ruling? room files place = some outcome ∧
      Decided place.table place.file value outcome := by
  obtain ⟨document, holds, stands⟩ := written
  obtain ⟨text, given, parsed⟩ := holds
  have sound := Toml.sound_of_parse parsed
  refine ⟨_, ?_, decided_draftIn (stands.sound sound)⟩
  rw [ruling?_of_document ⟨text, given, parsed⟩, stands.get?_eq sound]
  rfl

/-- A place is passed, or a table is written there, or its file breaks the search. -/
theorem place_cases (room : Room) (files : FileTree) (place : Place) :
    Passed room files place ∨ (∃ value, Written room files place value) ∨
      ∃ fault, Breaks room files place.file fault := by
  rcases file_cases room files place.file with unusable | breaks | ⟨document, holds⟩
  · exact .inl (.unusable unusable)
  · exact .inr (.inr breaks)
  · by_cases written : ∃ value, Toml.Stands document place.table value
    · obtain ⟨value, stands⟩ := written
      exact .inr (.inl ⟨value, document, holds, stands⟩)
    · exact .inl (.noTable holds (not_exists.mp written))

/-! ## The search -/

/-- What a search has found, from the first ruling. -/
def foundOf : Option (Except Fault Draft) → Except Fault (Option Draft)
  | none => .ok none
  | some outcome => outcome.map some

theorem firstTable?_eq_foundOf {document : Toml.Table}
    (holds : HoldsDocument room files file document) (tables : List Toml.Key) :
    (match firstTable? document tables with
      | none => .ok none
      | some (table, value) => (draftIn table file value).map some) =
      foundOf ((tables.map (Place.mk file)).findSome? (ruling? room files)) := by
  induction tables with
  | nil => rfl
  | cons table tables ih =>
      have ruled : ruling? room files ⟨file, table⟩ = _ := ruling?_of_document holds
      rw [firstTable?, List.findSome?_cons, List.map_cons, List.findSome?_cons, ruled]
      cases document.get? table with
      | none => exact ih
      | some value => rfl

/-- A candidate gives what the first of its places says that says anything. -/
theorem look_eq_foundOf {candidate : Candidate} (some : candidate.tables ≠ []) :
    (look room files candidate).1 = foundOf
      ((candidate.tables.map (Place.mk candidate.file)).findSome? (ruling? room files)) := by
  rcases file_cases room files candidate.file with unusable | ⟨fault, breaks⟩ | ⟨document, holds⟩
  · have silent : (candidate.tables.map (Place.mk candidate.file)).findSome? (ruling? room files) =
        none := by
      rw [List.findSome?_eq_none_iff]
      intro place mem
      obtain ⟨table, -, rfl⟩ := List.mem_map.mp mem
      exact ruling?_of_unusable unusable
    rw [look_of_unusable unusable, silent]
    rfl
  · obtain ⟨table, tables, split⟩ := List.exists_cons_of_ne_nil some
    have ruled : ruling? room files ⟨candidate.file, table⟩ = _ := ruling?_of_breaks breaks
    rw [look_of_breaks breaks, split, List.map_cons, List.findSome?_cons, ruled]
    rfl
  · rw [look_of_document holds]
    exact firstTable?_eq_foundOf holds candidate.tables

/-- The candidates are searched place by place. -/
theorem consultAll_eq_foundOf (candidates : List Candidate)
    (some : ∀ candidate ∈ candidates, candidate.tables ≠ []) :
    (consultAll room files candidates).1 = foundOf ((candidates.flatMap fun candidate =>
      candidate.tables.map (Place.mk candidate.file)).findSome? (ruling? room files)) := by
  induction candidates with
  | nil => rfl
  | cons candidate candidates ih =>
      have first : (look room files candidate).1 = _ :=
        look_eq_foundOf (some candidate List.mem_cons_self)
      have later := ih fun other mem => some other (List.mem_cons_of_mem _ mem)
      rw [List.flatMap_cons, List.findSome?_append, consultAll]
      cases looked : look room files candidate with
      | mk result notices =>
      rw [looked] at first
      cases ruled :
        (candidate.tables.map (Place.mk candidate.file)).findSome? (ruling? room files) with
      | none =>
          obtain rfl : result = .ok none := first.trans (by rw [ruled, foundOf])
          exact later
      | some outcome =>
          obtain rfl : result = outcome.map Option.some := first.trans (by rw [ruled, foundOf])
          cases outcome <;> rfl

theorem places_eq (start : Path) : places start =
    (candidates start).flatMap fun candidate => candidate.tables.map (Place.mk candidate.file) := by
  rw [candidates, List.flatMap_assoc]
  rfl

/-- The first place that says anything decides. -/
theorem load_eq_ruling (begins : files.resolve room.links directory = .ok start) :
    load room files directory =
      ((places start).findSome? (ruling? room files)).getD (.ok Draft.standard) := by
  have some : ∀ candidate ∈ candidates start, candidate.tables ≠ [] := by
    intro candidate mem
    obtain ⟨_, -, mem⟩ := List.mem_flatMap.mp mem
    rcases mem with _ | ⟨_, _ | ⟨_, ⟨⟩⟩⟩ <;> exact List.cons_ne_nil _ _
  have found : (consultAll room files (candidates start)).1 = _ :=
    consultAll_eq_foundOf (candidates start) some
  rw [← places_eq] at found
  simp only [load, loadTelling, begins, found]
  cases (places start).findSome? (ruling? room files) with
  | none => rfl
  | some outcome => cases outcome <;> rfl

theorem load_of_passed (begins : files.resolve room.links directory = .ok start)
    (passed : ∀ place ∈ places start, Passed room files place) :
    load room files directory = .ok Draft.standard := by
  have silent := List.findSome?_eq_none_iff.mpr fun place mem =>
    ruling?_of_passed mem (passed place mem)
  rw [load_eq_ruling begins, silent]
  rfl

theorem load_of_first {before after : List Place} {outcome : Except Fault Draft}
    (begins : files.resolve room.links directory = .ok start)
    (split : places start = before ++ place :: after)
    (silent : ∀ other ∈ before, ruling? room files other = none)
    (ruled : ruling? room files place = some outcome) : load room files directory = outcome := by
  rw [load_eq_ruling begins, split, List.findSome?_append, List.findSome?_eq_none_iff.mpr silent,
    List.findSome?_cons, ruled]
  rfl

theorem silent_of_passed {before after : List Place}
    (split : places start = before ++ place :: after)
    (passed : ∀ other ∈ before, Passed room files other) :
    ∀ other ∈ before, ruling? room files other = none := by
  intro other mem
  have listed : other ∈ places start := split ▸ List.mem_append_left _ mem
  exact ruling?_of_passed listed (passed other mem)

theorem not_passed_iff (listed : place ∈ places start) : ¬ Passed room files place ↔
    (∃ value, Written room files place value) ∨ ∃ fault, Breaks room files place.file fault := by
  refine ⟨fun decides => (place_cases room files place).resolve_left decides,
    fun speaks passed => ?_⟩
  have silent := ruling?_of_passed listed passed
  rcases speaks with ⟨value, written⟩ | ⟨fault, breaks⟩
  · obtain ⟨outcome, ruled, -⟩ := ruling?_of_written written
    rw [silent] at ruled
    cases ruled
  · rw [ruling?_of_breaks breaks] at silent
    cases silent

theorem exists_ruling (decides : ¬ Passed room files place) :
    ∃ outcome, ruling? room files place = some outcome := by
  rcases place_cases room files place with passed | ⟨value, written⟩ | ⟨fault, breaks⟩
  · exact absurd passed decides
  · obtain ⟨outcome, ruled, -⟩ := ruling?_of_written written
    exact ⟨outcome, ruled⟩
  · exact ⟨_, ruling?_of_breaks breaks⟩

/-! ## Other trees -/

/-- A file reads the same in two trees. -/
structure SameAt (files others : FileTree) (file : Path) : Prop where
  read : others.read? file = files.read? file
  barred : ∀ obstacle,
    others.probe true file = .error obstacle ↔ files.probe true file = .error obstacle

theorem ruling?_congr (same : SameAt files others place.file) :
    ruling? room others place = ruling? room files place := by
  cases given : files.read? place.file with
  | some bytes =>
      have givenToo : others.read? place.file = some bytes := same.read.trans given
      have looked : look room files ⟨place.file, [place.table]⟩ = _ := look_of_given given
      have lookedToo : look room others ⟨place.file, [place.table]⟩ = _ := look_of_given givenToo
      rw [ruling?, ruling?, looked, lookedToo]
  | none =>
      have noneToo : others.read? place.file = none := same.read.trans given
      by_cases barred : ∃ obstacle, files.probe true place.file = .error obstacle
      · obtain ⟨obstacle, barred⟩ := barred
        rw [ruling?_of_breaks (.barred barred),
          ruling?_of_breaks (.barred ((same.barred obstacle).mpr barred))]
      · push Not at barred
        rw [ruling?_of_unusable (.unread ⟨given, barred⟩), ruling?_of_unusable (.unread ⟨noneToo,
          fun obstacle probed => barred obstacle ((same.barred obstacle).mp probed)⟩)]

/-! ## The nearest table -/

/-- The places are gone through in their order: in the nearer directory first, and in each directory
in the order of its places. A place is passed if its file cannot be read, is not TOML or has no such
table; when all are passed, the standard draft holds. The first that is not passed decides. Where a
table is written, the draft is the standard one with exactly the values of the table, or there is a
fault because of its unknown keys or because it is no table. Where a file breaks the search, that is
the fault. Whatever the files after it hold makes no difference. -/
theorem nearest_table_decides (room : Room) (files : FileTree) (directory start : Path)
    (begins : files.resolve room.links directory = .ok start) :
    ((∀ place ∈ places start, Passed room files place) →
      load room files directory = .ok Draft.standard) ∧
    (∀ place ∈ places start, ¬ Passed room files place ↔
      (∃ value, Written room files place value) ∨ ∃ fault, Breaks room files place.file fault) ∧
    ∀ (before after : List Place) (place : Place), places start = before ++ place :: after →
      (∀ other ∈ before, Passed room files other) →
      (∀ value, Written room files place value → ∀ outcome,
        load room files directory = outcome ↔ Decided place.table place.file value outcome) ∧
      (∀ fault, Breaks room files place.file fault → load room files directory = .error fault) ∧
      (¬ Passed room files place → ∀ others : FileTree,
        others.resolve room.links directory = .ok start →
        (∀ other ∈ before ++ [place], SameAt files others other.file) →
          load room others directory = load room files directory) := by
  refine ⟨load_of_passed begins, fun _ => not_passed_iff, ?_⟩
  intro before after place split passed
  have silent := silent_of_passed split passed
  refine ⟨fun value written outcome => ?_, fun fault breaks => ?_,
    fun decides others beginsToo same => ?_⟩
  · obtain ⟨decided, ruled, shown⟩ := ruling?_of_written written
    rw [load_of_first begins split silent ruled]
    exact ⟨fun eq => eq ▸ shown, fun other => shown.unique other⟩
  · exact load_of_first begins split silent (ruling?_of_breaks breaks)
  · obtain ⟨outcome, ruled⟩ := exists_ruling decides
    have alike : ∀ other ∈ before ++ [place],
        ruling? room others other = ruling? room files other :=
      fun other mem => ruling?_congr (same other mem)
    have silentToo : ∀ other ∈ before, ruling? room others other = none := fun other mem =>
      (alike other (List.mem_append_left _ mem)).trans (silent other mem)
    have ruledToo : ruling? room others place = some outcome :=
      (alike place (List.mem_append_right _ List.mem_cons_self)).trans ruled
    rw [load_of_first begins split silent ruled, load_of_first beginsToo split silentToo ruledToo]

/-! ### Settings in a directory and above it -/

/-- A directory with settings, one without, and settings above them. -/
def nestedSettings : FileTree :=
  let near : Name := ⟨Text.encode "d".toList, by decide⟩
  let bare : Name := ⟨Text.encode "e".toList, by decide⟩
  let own : Name := ⟨Text.encode ".htmlplusplus.toml".toList, by decide⟩
  { entries := [([near], .directory), ([bare], .directory),
      ([near, own], .file (Text.encode "htmlplusplus.tab_size = 2".toList) 0o644),
      ([own], .file (Text.encode "htmlplusplus.tab_size = 8".toList) 0o644)] }

theorem parse_tabSize {line written : Text} {size : Int}
    (begins : Toml.skipSpaces (Toml.joinLineEnds ('h' :: line)) = 'h' :: line)
    (assigned : Toml.readAssignment ('h' :: line) = .ok ([program, "tab_size".toList], written))
    (read : Toml.readValue 0 (2 * written.length + 2) written = .ok (.integer size, [])) :
    Toml.parse 0 ('h' :: line) = .ok [(program, .table [("tab_size".toList, .integer size)])] :=
  Toml.parse_of_assignment begins (by decide) assigned read rfl

/-- What a table with one setting comes to. -/
theorem decided_of_parse {depth : Nat} {size : Int}
    (parsed : Toml.parse depth text =
      .ok [(program, .table [("tab_size".toList, .integer size)])]) :
    Decided [program] file (.table [("tab_size".toList, .integer size)])
      (.ok (Draft.standard.put .tabSize (.integer size))) := by
  have sound := (Toml.sound_of_parse parsed).values _ List.mem_cons_self
  have named : Setting.ofKey? "tab_size".toList = some .tabSize := rfl
  have known : unknownKeys [("tab_size".toList, .integer size)] = [] := by
    simp only [unknownKeys, List.map_cons, List.map_nil, List.filter_cons, named,
      Option.isNone_some, Bool.false_eq_true, if_false, List.filter_nil, List.mergeSort_nil]
  have drafted : draftIn [program] file (.table [("tab_size".toList, .integer size)]) =
      .ok (Draft.standard.put .tabSize (.integer size)) := by
    rw [draftIn, known]
    rfl
  exact drafted ▸ decided_draftIn sound

/-- Settings in a directory are taken before those above it, and those above it where a directory
has none. -/
theorem near_table_decides_and_far_one_behind_none :
    load ⟨0, 0⟩ nestedSettings (.ofText "/d".toList) =
      .ok (Draft.standard.put .tabSize (.integer 2)) ∧
    load ⟨0, 0⟩ nestedSettings (.ofText "/e".toList) =
      .ok (Draft.standard.put .tabSize (.integer 8)) := by
  have absent {file : Path} {place : Location} (table : Toml.Key)
      (leads : nestedSettings.locate true file = .ok place)
      (free : nestedSettings.lookup? place = none) :
      Passed ⟨0, 0⟩ nestedSettings ⟨file, table⟩ :=
    .unusable (unusable_of_absent ((FileTree.probe_of_leads leads).trans (congrArg _ free)))
  have beginsNear : nestedSettings.resolve 0 (.ofText "/d".toList) = .ok (.ofText "/d".toList) :=
    FileTree.resolve_in_root
      (FileTree.locate_in_root rfl (by decide) (by decide) List.not_mem_nil nofun) rfl
  have beginsBare : nestedSettings.resolve 0 (.ofText "/e".toList) = .ok (.ofText "/e".toList) :=
    FileTree.resolve_in_root
      (FileTree.locate_in_root rfl (by decide) (by decide) List.not_mem_nil nofun) rfl
  have nearProject : nestedSettings.locate true (.ofText "/d/pyproject.toml".toList) = .ok _ :=
    FileTree.locate_in_directory rfl rfl (by decide) (by decide) rfl (by decide) nofun
  have nearOwn : nestedSettings.locate true (.ofText "/d/.htmlplusplus.toml".toList) = .ok _ :=
    FileTree.locate_in_directory rfl rfl (by decide) (by decide) rfl (by decide) nofun
  have bareProject : nestedSettings.locate true (.ofText "/e/pyproject.toml".toList) = .ok _ :=
    FileTree.locate_in_directory rfl rfl (by decide) (by decide) rfl (by decide) nofun
  have bareOwn : nestedSettings.locate true (.ofText "/e/.htmlplusplus.toml".toList) = .ok _ :=
    FileTree.locate_in_directory rfl rfl (by decide) (by decide) rfl (by decide) nofun
  have rootProject : nestedSettings.locate true (.ofText "/pyproject.toml".toList) = .ok _ :=
    FileTree.locate_in_root rfl (by decide) (by decide) List.not_mem_nil nofun
  have rootOwn : nestedSettings.locate true (.ofText "/.htmlplusplus.toml".toList) = .ok _ :=
    FileTree.locate_in_root rfl (by decide) (by decide) List.not_mem_nil nofun
  constructor
  · have assigned : Toml.readAssignment "htmlplusplus.tab_size = 2".toList =
        .ok ([program, "tab_size".toList], ['2']) := rfl
    have read : Toml.readValue 0 4 ['2'] = .ok (.integer 2, []) := rfl
    have parsed := parse_tabSize rfl assigned read
    have given := FileTree.read?_of_leads nearOwn rfl List.not_mem_nil
    have written : Written ⟨0, 0⟩ nestedSettings
        ⟨.ofText "/d/.htmlplusplus.toml".toList, [program]⟩ _ :=
      ⟨_, ⟨_, given, parsed⟩, .here List.mem_cons_self⟩
    have decides := (nearest_table_decides ⟨0, 0⟩ nestedSettings _ _ beginsNear).2.2
      [⟨.ofText "/d/pyproject.toml".toList, _⟩] _ _ rfl fun other mem =>
        List.mem_singleton.mp mem ▸ absent _ nearProject rfl
    exact (decides.1 _ written _).mpr (decided_of_parse parsed)
  · have assigned : Toml.readAssignment "htmlplusplus.tab_size = 8".toList =
        .ok ([program, "tab_size".toList], ['8']) := rfl
    have read : Toml.readValue 0 4 ['8'] = .ok (.integer 8, []) := rfl
    have parsed := parse_tabSize rfl assigned read
    have given := FileTree.read?_of_leads rootOwn rfl List.not_mem_nil
    have written : Written ⟨0, 0⟩ nestedSettings
        ⟨.ofText "/.htmlplusplus.toml".toList, [program]⟩ _ :=
      ⟨_, ⟨_, given, parsed⟩, .here List.mem_cons_self⟩
    have decides := (nearest_table_decides ⟨0, 0⟩ nestedSettings _ _ beginsBare).2.2
      [⟨.ofText "/e/pyproject.toml".toList, _⟩, ⟨.ofText "/e/.htmlplusplus.toml".toList, _⟩,
        ⟨.ofText "/e/.htmlplusplus.toml".toList, _⟩, ⟨.ofText "/pyproject.toml".toList, _⟩]
      _ _ rfl fun other mem => by
        rcases mem with _ | ⟨_, _ | ⟨_, _ | ⟨_, _ | ⟨_, ⟨⟩⟩⟩⟩⟩
        · exact absent _ bareProject rfl
        · exact absent _ bareOwn rfl
        · exact absent _ bareOwn rfl
        · exact absent _ rootProject rfl
    exact (decides.1 _ written _).mpr (decided_of_parse parsed)

end PageMarkup.Search
