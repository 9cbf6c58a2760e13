import PageMarkup.CommandLine
import PageMarkup.Proofs.Files.FreshNames

/-! # Publishing

A published page takes its place whole, or its place and everything else stays as it was. The one
exception is a path that is none, for which the new file may stay behind. -/

namespace PageMarkup.Publication

variable {fails : Step → Bool} {files after : FileTree} {path : Path} {page : Text}
  {place temporary : Location} {entry : Entry} {flaw : Path.Flaw}

/-! ## Moving -/

theorem moveTo_of_flaw (flawed : path.flaw? = some flaw) :
    moveTo files temporary path entry = .error (.barred (.noPath flaw)) := by
  rw [moveTo, FileTree.locate_eq_noPath_iff.mpr flawed]

theorem moveTo_of_leads (leads : files.locate false path = .ok place)
    (noDirectory : files.lookup? place ≠ some .directory) :
    moveTo files temporary path entry = .ok ((files.erase temporary).put place entry) := by
  rw [moveTo, leads]
  dsimp only
  split
  · contradiction
  · rfl

theorem moveTo_of_unreached (whole : path.flaw? = none)
    (unreached : ∀ place, files.locate false path = .ok place →
      files.lookup? place = some .directory) :
    moveTo files temporary path entry = .error .notWritten := by
  rw [moveTo]
  split
  · next flaw barred =>
      rw [FileTree.locate_eq_noPath_iff, whole] at barred
      cases barred
  · rfl
  · next place leads => rw [unreached place leads]

/-! ## Replacing -/

theorem replace_of_fails (free : files.lookup? temporary = none)
    (stops : fails .write = true ∨ fails .permit = true) :
    replace fails files path page temporary = (.error .notWritten, files) := by
  cases write : fails .write with
  | true => simp only [replace, write, if_true, FileTree.erase_put_self _ free]
  | false =>
      have permit : fails .permit = true := by simpa [write] using stops
      simp only [replace, write, permit, Bool.false_eq_true, if_true, if_false,
        FileTree.put_put_self, FileTree.erase_put_self _ free]

/-- Nothing takes the new file away when its path turns out to be none. -/
theorem replace_of_flaw (write : fails .write = false) (permit : fails .permit = false)
    (flawed : path.flaw? = some flaw) :
    replace fails files path page temporary = (.error (.barred (.noPath flaw)),
      files.put temporary (.file (Text.encode page) (permissions files path))) := by
  simp only [replace, write, permit, Bool.false_eq_true, if_false, FileTree.put_put_self,
    moveTo_of_flaw flawed]

theorem replace_of_unreached (free : files.lookup? temporary = none)
    (write : fails .write = false) (permit : fails .permit = false)
    (whole : path.flaw? = none)
    (unreached : ∀ place, files.locate false path = .ok place →
      files.lookup? place = some .directory) :
    replace fails files path page temporary = (.error .notWritten, files) := by
  have same : FileTree.SameWays files
      (files.put temporary (.file (Text.encode page) (permissions files path))) :=
    FileTree.sameWays_put (.inl free)
  have unreachedNow : moveTo
      (files.put temporary (.file (Text.encode page) (permissions files path))) temporary path
      (.file (Text.encode page) (permissions files path)) = .error .notWritten :=
    moveTo_of_unreached whole fun place leads =>
      (same.directory place).mpr (unreached place (same.locate_eq_ok_iff.mp leads))
  simp only [replace, write, permit, Bool.false_eq_true, if_false, FileTree.put_put_self,
    unreachedNow, FileTree.erase_put_self _ free]

theorem replace_of_leads (free : files.lookup? temporary = none)
    (write : fails .write = false) (permit : fails .permit = false)
    (leads : files.locate false path = .ok place)
    (noDirectory : files.lookup? place ≠ some .directory) :
    replace fails files path page temporary =
      if fails .move then (.error .notWritten, files)
      else (.ok (), files.put place (.file (Text.encode page) (permissions files path))) := by
  have same : FileTree.SameWays files
      (files.put temporary (.file (Text.encode page) (permissions files path))) :=
    FileTree.sameWays_put (.inl free)
  have moved : moveTo
      (files.put temporary (.file (Text.encode page) (permissions files path))) temporary path
      (.file (Text.encode page) (permissions files path)) =
        .ok (files.put place (.file (Text.encode page) (permissions files path))) := by
    rw [moveTo_of_leads (same.locate_eq_ok_iff.mpr leads) fun directory =>
      noDirectory ((same.directory place).mp directory), FileTree.erase_put_self _ free]
  simp only [replace, write, permit, Bool.false_eq_true, if_false, FileTree.put_put_self, moved,
    FileTree.erase_put_self _ free]

/-! ## Looking before writing -/

theorem leads_of_probe {found : Entry} (probed : files.probe false path = .ok (some found)) :
    ∃ place, files.locate false path = .ok place ∧ files.lookup? place = some found := by
  cases located : files.locate false path with
  | ok place =>
      rw [FileTree.probe_of_leads located] at probed
      exact ⟨place, rfl, Except.ok.inj probed⟩
  | error obstacle =>
      simp only [FileTree.probe, FileTree.entryAt, located] at probed
      split at probed <;> cases probed

theorem locate_of_probe {obstacle : FileTree.Obstacle}
    (barred : files.probe false path = .error obstacle) :
    obstacle.meansNothing = false ∧ files.locate false path = .error obstacle := by
  cases located : files.locate false path with
  | ok place =>
      rw [FileTree.probe_of_leads located] at barred
      cases barred
  | error other =>
      simp only [FileTree.probe, FileTree.entryAt, located] at barred
      split at barred
      · cases barred
      · next tells =>
          cases barred
          exact ⟨by simpa using tells, rfl⟩

theorem find?_of_error {obstacle : FileTree.Obstacle}
    (barred : files.locate true path = .error obstacle) : files.find? path = none := by
  simp only [FileTree.find?, FileTree.entryAt, barred, Except.toOption]

theorem permissions_of_flaw (flawed : path.flaw? = some flaw) :
    permissions files path = newPermissions := by
  rw [permissions, find?_of_error (FileTree.locate_eq_noPath_iff.mpr flawed)]

/-- The permissions of a page at a place: those of the file that is there, if one is. -/
def Keeps (files : FileTree) (place : Location) (bits : Nat) : Prop :=
  files.lookup? place = none ∧ bits = newPermissions ∨
    ∃ bytes, files.lookup? place = some (.file bytes bits)

theorem keeps_permissions (leads : files.locate false path = .ok place)
    (vacant : files.Vacant place) : Keeps files place (permissions files path) := by
  have followed := FileTree.locate_followed leads vacant.not_link
  rcases vacant with free | ⟨bytes, bits, file⟩
  · refine .inl ⟨free, ?_⟩
    simp only [permissions, FileTree.find?, FileTree.entryAt, followed, free, Except.toOption]
  · refine .inr ⟨bytes, ?_⟩
    simp only [permissions, FileTree.find?, FileTree.entryAt, followed, file, Except.toOption]

/-! ## Outcomes -/

/-- A page stands at a place to which a path leads, and everything else is as it was. -/
structure Replaced (files : FileTree) (path : Path) (page : Text) (place : Location)
    (after : FileTree) : Prop where
  leads : files.locate false path = .ok place
  stands : ∃ bits, Keeps files place bits ∧
    after.entryAt false path = .ok (.file (Text.encode page) bits)
  others : ∀ other, other ≠ place → after.lookup? other = files.lookup? other
  here : after.here = files.here
  withheld : after.withheld = files.withheld
  locked : after.locked = files.locked

/-- A path leads to where a page can stand, and there is a place for the new file. -/
def Ready (files : FileTree) (path : Path) : Prop :=
  (∃ place, files.locate false path = .ok place ∧ files.Vacant place) ∧
    ∃ temporary, temporaryPlace files path = .ok temporary

/-- The new file is made for a path that is none. -/
def Leaves (fails : Step → Bool) (files : FileTree) (path : Path) : Prop :=
  path.IsNone ∧ (∃ temporary, temporaryPlace files path = .ok temporary) ∧
    ∀ step, step ≠ .move → fails step = false

/-- The fault is one of the files or of the system, and not that a path is none. -/
def Fault.isReport : Fault → Bool
  | .barred (.noPath _) => false
  | _ => true

theorem replaced_put (leads : files.locate false path = .ok place) (vacant : files.Vacant place) :
    Replaced files path page place
      (files.put place (.file (Text.encode page) (permissions files path))) := by
  refine ⟨leads, ⟨_, keeps_permissions leads vacant, ?_⟩, fun other differs => ?_, rfl, rfl, rfl⟩
  · exact FileTree.entryAt_of_leads ((FileTree.sameWays_put vacant).locate_eq_ok_iff.mpr leads)
      (FileTree.lookup?_put_self files _ vacant.ne_root)
  · exact FileTree.lookup?_put_of_ne files _ differs

/-- How publishing a page ends. -/
inductive Ending (fails : Step → Bool) (files : FileTree) (path : Path) (page : Text) :
    Except Fault Unit × FileTree → Prop
  | replaced {place : Location} {after : FileTree} (works : ∀ step, fails step = false)
      (ready : Ready files path) (replaced : Replaced files path page place after) :
      Ending fails files path page (.ok (), after)
  | unchanged {fault : Fault} (unable : ¬ ((∀ step, fails step = false) ∧ Ready files path))
      (clean : ¬ Leaves fails files path)
      (reason : fault.isReport = true ∨ path.IsNone) :
      Ending fails files path page (.error fault, files)
  | left {temporary : Location} {flaw : Path.Flaw} (leaves : Leaves fails files path)
      (flawed : path.flaw? = some flaw) (free : files.lookup? temporary = none) :
      Ending fails files path page (.error (.barred (.noPath flaw)),
        files.put temporary (.file (Text.encode page) newPermissions))

theorem not_isNone_of_whole (whole : path.flaw? = none) : ¬ path.IsNone := by
  intro none
  obtain ⟨flaw, flawed⟩ := Path.exists_flaw?_iff.mpr none
  cases whole.symm.trans flawed

theorem not_leaves_of_whole (whole : path.flaw? = none) : ¬ Leaves fails files path :=
  fun leaves => not_isNone_of_whole whole leaves.1

theorem whole_of_leads (leads : files.locate false path = .ok place) : path.flaw? = none := by
  obtain ⟨steps, taken, -⟩ := FileTree.locate_eq_ok_iff.mp leads
  exact Path.flaw?_eq_none_iff.mpr ⟨steps, taken⟩

theorem ending_of_fails {fault : Fault} {step : Step} (stops : fails step = true)
    (early : step ≠ .move) (report : fault.isReport = true) :
    Ending fails files path page (.error fault, files) :=
  .unchanged (fun able => by simp [able.1 step] at stops)
    (fun leaves => by simp [leaves.2.2 step early] at stops) (.inl report)

theorem ending_replace (opened : temporaryPlace files path = .ok temporary)
    (create : fails .create = false)
    (noLink : ∀ place target, files.locate false path = .ok place →
      files.lookup? place ≠ some (.link target)) :
    Ending fails files path page (replace fails files path page temporary) := by
  have free := lookup?_temporaryPlace opened
  cases write : fails .write with
  | true =>
      rw [replace_of_fails free (.inl write)]
      exact ending_of_fails write nofun rfl
  | false =>
  cases permit : fails .permit with
  | true =>
      rw [replace_of_fails free (.inr permit)]
      exact ending_of_fails permit nofun rfl
  | false =>
  cases whole : path.flaw? with
  | some flaw =>
      rw [replace_of_flaw write permit whole, permissions_of_flaw whole]
      refine .left ⟨Path.exists_flaw?_iff.mp ⟨flaw, whole⟩, ⟨temporary, opened⟩,
        fun step early => ?_⟩ whole free
      cases step <;> first | assumption | contradiction
  | none =>
  by_cases reached : ∃ place, files.locate false path = .ok place ∧
      files.lookup? place ≠ some .directory
  · obtain ⟨place, leads, noDirectory⟩ := reached
    have vacant : files.Vacant place :=
      FileTree.vacant_iff.mpr ⟨noDirectory, fun target => noLink place target leads⟩
    rw [replace_of_leads free write permit leads noDirectory]
    cases move : fails .move with
    | true =>
        exact .unchanged (fun able => by simp [able.1 .move] at move)
          (not_leaves_of_whole whole) (.inl rfl)
    | false =>
        refine .replaced (fun step => ?_) ⟨⟨place, leads, vacant⟩, temporary, opened⟩
          (replaced_put leads vacant)
        cases step <;> assumption
  · push Not at reached
    rw [replace_of_unreached free write permit whole reached]
    refine .unchanged ?_ (not_leaves_of_whole whole) (.inl rfl)
    rintro ⟨-, ⟨place, leads, vacant⟩, -⟩
    exact vacant.not_directory (reached place leads)

theorem ending_publish (fails : Step → Bool) (files : FileTree) (path : Path) (page : Text) :
    Ending fails files path page (publish fails files path page) := by
  rw [publish]
  split
  · next obstacle probed =>
      obtain ⟨tells, barred⟩ := locate_of_probe probed
      refine .unchanged ?_ ?_ (.inl ?_)
      · rintro ⟨-, ⟨place, leads, -⟩, -⟩
        cases barred.symm.trans leads
      · rintro ⟨none, -⟩
        obtain ⟨flaw, flawed⟩ := Path.exists_flaw?_iff.mpr none
        rw [FileTree.locate_eq_noPath_iff.mpr flawed] at barred
        cases barred
        cases tells
      · cases obstacle <;> first | rfl | cases tells
  · next target probed =>
      obtain ⟨place, leads, link⟩ := leads_of_probe probed
      refine .unchanged ?_ (not_leaves_of_whole (whole_of_leads leads)) (.inl rfl)
      rintro ⟨-, ⟨other, led, vacant⟩, -⟩
      obtain rfl : place = other := by simpa [leads] using led
      exact vacant.not_link target link
  · next found noLink probed =>
      split
      · next obstacle barred =>
          refine .unchanged ?_ ?_ ?_
          · rintro ⟨-, -, temporary, opened⟩
            simp [barred] at opened
          · rintro ⟨-, ⟨temporary, opened⟩, -⟩
            simp [barred] at opened
          · cases obstacle with
            | noPath flaw => exact .inr (isNone_of_temporaryPlace barred)
            | missing | notDirectory | tooManyLinks | tooLong | denied => exact .inl rfl
      · next temporary opened =>
          split
          · next create => exact ending_of_fails create nofun rfl
          · next create =>
              refine ending_replace opened (by simpa using create) fun place target leads link => ?_
              rw [FileTree.probe_of_leads leads, link] at probed
              exact noLink target (Except.ok.inj probed).symm

/-! ## Runs -/

section Runs

open CommandLine

variable {world : World} {options : Options} {output? : Option Text} {source : Path}
  {draft : Draft} {settings : Settings}

theorem status_telling (verbose : Bool) (notices : List Notice) (outcome : Outcome) :
    (outcome.telling verbose notices).status = outcome.status := by
  cases verbose <;> rfl

theorem world_of_deliver (whole : ∀ written ∈ output?, (Path.ofText written).flaw? = none)
    (failed : (deliver fails world output? page).1.status ≠ 0) :
    (deliver fails world output? page).2 = world := by
  cases output? with
  | none => rfl
  | some written =>
      have ended := ending_publish fails world.files (Path.ofText written) page
      simp only [deliver] at failed ⊢
      generalize publish fails world.files (Path.ofText written) page = ending at ended failed
      cases ended with
      | replaced => exact absurd rfl failed
      | unchanged => rfl
      | left leaves => exact absurd leaves (not_leaves_of_whole (whole written rfl))

theorem world_of_compileAndDeliver
    (whole : ∀ written ∈ options.output?, (Path.ofText written).flaw? = none)
    (failed : (compileAndDeliver fails world options source draft settings).1.1.status ≠ 0) :
    (compileAndDeliver fails world options source draft settings).1.2 = world := by
  rw [compileAndDeliver] at failed ⊢
  cases limited : SizeLimit.resolve world.sizeLimit? settings.maxFileSize with
  | error => rfl
  | ok limit =>
  simp only [limited] at failed ⊢
  cases fits : Source.checkSize world.files source limit with
  | error => rfl
  | ok =>
  simp only [fits] at failed ⊢
  cases compiled : Source.compileTelling world.files source draft with
  | mk result notices =>
  cases result with
  | error => rfl
  | ok page =>
      rw [compiled] at failed
      exact world_of_deliver whole failed

theorem world_of_run (failed : (run fails world options).1.status ≠ 0) :
    (run fails world options).2 = world := by
  rw [run] at failed ⊢
  cases flawed : options.flaw? with
  | some flaw => rfl
  | none =>
      have whole : ∀ written ∈ options.output?, (Path.ofText written).flaw? = none := by
        intro written given
        refine List.findSome?_eq_none_iff.mp flawed written (List.mem_cons_of_mem _ ?_)
        exact Option.mem_toList.mpr given
      simp only [flawed] at failed ⊢
      cases located : Source.locate world options.source with
      | error => rfl
      | ok source =>
      simp only [located] at failed ⊢
      cases built : Search.buildTelling world.room world.files source.parent
          options.overrides with
      | mk result notices =>
      cases result with
      | error => rfl
      | ok settled =>
          simp only [built, status_telling] at failed
          exact world_of_compileAndDeliver whole failed

end Runs

/-! ## All or nothing -/

/-- The new file that stays behind is one entry more. -/
theorem put_ne_self (free : files.lookup? temporary = none) :
    files.put temporary entry ≠ files := by
  intro same
  have vacant : files.Vacant temporary := .inl free
  rw [← same, FileTree.lookup?_put_self files _ vacant.ne_root] at free
  cases free

/-- Whichever steps fail, the page takes its place and everything else is as it was, or there is a
report and nothing has changed. It takes its place whenever no step fails, nothing but a file is
there and there is room for the new file. Only a path that is none, with room for the new file,
leaves that file behind; on the command line such paths are refused beforehand, so that a run that
fails changes nothing. -/
theorem publishing_is_all_or_nothing (fails : Step → Bool) (files : FileTree) (path : Path)
    (page : Text) :
    ((∃ place after, publish fails files path page = (.ok (), after) ∧
        Replaced files path page place after) ∨
      (∃ fault, publish fails files path page = (.error fault, files) ∧
        (fault.isReport = true ∨ path.IsNone)) ∨
      ∃ flaw temporary, path.flaw? = some flaw ∧ files.lookup? temporary = none ∧
        publish fails files path page = (.error (.barred (.noPath flaw)),
          files.put temporary (.file (Text.encode page) newPermissions))) ∧
    ((publish fails files path page).1 = .ok () ↔
      (∀ step, fails step = false) ∧ Ready files path) ∧
    ((∃ fault after, publish fails files path page = (.error fault, after) ∧ after ≠ files) ↔
      Leaves fails files path) ∧
    ∀ (world : World) (options : CommandLine.Options),
      (CommandLine.run fails world options).1.status ≠ 0 →
        (CommandLine.run fails world options).2 = world := by
  have ended := ending_publish fails files path page
  refine ⟨?_, ?_, ?_, fun world options => world_of_run⟩ <;>
    generalize publish fails files path page = ending at ended
  · cases ended with
    | replaced _ _ replaced => exact .inl ⟨_, _, rfl, replaced⟩
    | unchanged _ _ reason => exact .inr (.inl ⟨_, rfl, reason⟩)
    | left _ flawed free => exact .inr (.inr ⟨_, _, flawed, free, rfl⟩)
  · cases ended with
    | replaced works ready => exact ⟨fun _ => ⟨works, ready⟩, fun _ => rfl⟩
    | unchanged unable => exact ⟨nofun, fun able => absurd able unable⟩
    | left leaves =>
        refine ⟨nofun, fun able => ?_⟩
        obtain ⟨-, ⟨place, leads, -⟩, -⟩ := able
        exact absurd leaves (not_leaves_of_whole (whole_of_leads leads))
  · cases ended with
    | replaced works ready replaced =>
        refine ⟨?_, fun leaves => ?_⟩
        · rintro ⟨_, _, ⟨⟩, _⟩
        · exact absurd leaves (not_leaves_of_whole (whole_of_leads replaced.leads))
    | unchanged unable clean =>
        refine ⟨?_, fun leaves => absurd leaves clean⟩
        rintro ⟨_, _, ⟨⟩, changed⟩
        exact absurd rfl changed
    | left leaves _ free => exact ⟨fun _ => leaves, fun _ => ⟨_, _, rfl, put_ne_self free⟩⟩

/-- A page goes where nothing was, a run for a user who does not exist changes nothing, and a page
for a path that is none stays in the new file. -/
theorem page_in_root_and_page_left_behind :
    (publish (fun _ => false) {} (.ofText "/p".toList) "a".toList).1 = .ok () ∧
    (CommandLine.run (fun _ => false) { room := ⟨0, 0⟩ }
      { source := "~u/s.txt".toList, output? := some "p".toList }).2.files = {} ∧
    ∃ fault after, publish (fun _ => false) {} (.ofText "/d\x00/../p".toList) "a".toList =
      (.error fault, after) ∧ after ≠ {} := by
  have leads : FileTree.locate {} false (.ofText "/p".toList) =
      .ok [⟨Text.encode "p".toList, by decide⟩] :=
    FileTree.locate_in_root rfl (by decide) (by decide) List.not_mem_nil nofun
  have opens : FileTree.locate {} false
      (Path.child ⟨1, []⟩ (.down (temporaryWord (.ofText "/p".toList) 0))) =
      .ok [⟨Text.encode ".p.00000000.tmp".toList, by decide⟩] :=
    FileTree.locate_in_root rfl (by decide) (by decide) List.not_mem_nil nofun
  have opened (path : Path) (inRoot : FileTree.absolute {} path.parent = .ok ⟨1, []⟩)
      (named : temporaryWord path 0 = temporaryWord (.ofText "/p".toList) 0) :
      ∃ temporary, temporaryPlace {} path = .ok temporary := by
    rw [temporaryPlace, inRoot, named]
    simp only [opens]
    split <;> exact ⟨_, rfl⟩
  have ready : Ready {} (.ofText "/p".toList) := ⟨⟨_, leads, .inl rfl⟩, opened _ rfl rfl⟩
  have leaves : Leaves (fun _ => false) {} (.ofText "/d\x00/../p".toList) :=
    ⟨⟨_, List.mem_cons_self, .inl (by decide)⟩, opened _ rfl rfl, fun _ _ => rfl⟩
  refine ⟨?_, ?_, ?_⟩
  · exact (publishing_is_all_or_nothing _ _ _ _).2.1.mpr ⟨fun _ => rfl, ready⟩
  · rw [(publishing_is_all_or_nothing (fun _ => false) {} ⟨1, []⟩ []).2.2.2 _ _ (by decide)]
  · exact (publishing_is_all_or_nothing _ _ _ _).2.2.1.mpr leaves

end PageMarkup.Publication
