import PageMarkup.Files.Source
import PageMarkup.Proofs.Code.Tidied
import PageMarkup.Proofs.Faults
import PageMarkup.Proofs.Files.Encoding
import PageMarkup.Proofs.Files.Ways

/-! # Compiled files

What comes of compiling a file, told by its text, without the order in which settings, access,
encoding and markup are looked at. -/

namespace PageMarkup.Source

variable {files : FileTree} {path : Path} {draft : Draft} {settings : Settings} {text : Text}

/-- A path leads to a file that can be read and holds the bytes of a text, line ends apart. -/
def HoldsText (files : FileTree) (path : Path) (text : Text) : Prop :=
  ∃ written, files.read? path = some (Text.encode written) ∧ text = Text.unifyLineEnds written

/-- The fault is one to report about the settings, the file or its text. -/
def CompileFault.isReport : CompileFault → Bool
  | .settings _ | .access (.inaccessible _) | .undecodable _ _ | .malformed _ _ _ => true
  | .access _ | .beyond _ => false

/-- What comes of compiling a file. -/
inductive Outcome (files : FileTree) (path : Path) (draft : Draft) :
    Except CompileFault Text → Prop
  | refused {objection : Objection} (unusable : draft.check = .error objection) :
      Outcome files path draft (.error (.settings objection))
  | unread {settings : Settings} (checked : draft.check = .ok settings)
      (whole : path.flaw? = none) (unread : files.read? path = none) :
      Outcome files path draft (.error (.access (.inaccessible path)))
  | undecodable {settings : Settings} {bytes : List UInt8} {fault : Text.DecodeFault}
      (checked : draft.check = .ok settings) (given : files.read? path = some bytes)
      (noText : ∀ text, Text.encode text ≠ bytes) (found : Text.decode bytes = .error fault) :
      Outcome files path draft (.error (.undecodable path fault))
  | malformed {settings : Settings} {text : Text} {report : Report}
      (checked : draft.check = .ok settings) (holds : HoldsText files path text)
      (failed : compile settings text = .error report) (found : report.FoundIn { settings } text) :
      Outcome files path draft (.error (.malformed path report settings.contextRadius))
  | noPath {settings : Settings} {flaw : Path.Flaw} (checked : draft.check = .ok settings)
      (flawed : path.flaw? = some flaw) :
      Outcome files path draft (.error (.access (.noPath flaw)))
  | tooWide {settings : Settings} {text : Text} {report : Report}
      (checked : draft.check = .ok settings) (holds : HoldsText files path text)
      (failed : compile settings text = .error report) (wide : settings.TooWide report.cause) :
      Outcome files path draft (.error (.beyond report.cause))
  | page {settings : Settings} {text page : Text} (checked : draft.check = .ok settings)
      (holds : HoldsText files path text) (compiled : compile settings text = .ok page) :
      Outcome files path draft (.ok page)

/-! ## Reading -/

theorem textOf_encode (written : Text) :
    textOf (Text.encode written) = .ok (Text.unifyLineEnds written) := by
  rw [textOf, Text.decode_eq_ok_iff.mpr rfl]
  rfl

theorem read_of_flaw {flaw : Path.Flaw} (flawed : path.flaw? = some flaw) :
    read files path = .error (.access (.noPath flaw)) := by
  rw [read, flawed]

theorem read_of_unread (whole : path.flaw? = none) (unread : files.read? path = none) :
    read files path = .error (.access (.inaccessible path)) := by
  rw [read, whole, unread]

theorem read_of_given {bytes : List UInt8} (given : files.read? path = some bytes) :
    read files path = (textOf bytes).mapError .undecodable := by
  simp only [read, FileTree.flaw?_of_read? given, given]
  cases textOf bytes <;> rfl

theorem read_of_holdsText (holds : HoldsText files path text) : read files path = .ok text := by
  obtain ⟨written, given, rfl⟩ := holds
  rw [read_of_given given, textOf_encode]
  rfl

theorem read_of_undecodable {bytes : List UInt8} {fault : Text.DecodeFault}
    (given : files.read? path = some bytes) (found : Text.decode bytes = .error fault) :
    read files path = .error (.undecodable fault) := by
  rw [read_of_given given, textOf, found]
  rfl

/-! ## Compiling -/

theorem compileFile_of_refused {objection : Objection} (refused : draft.check = .error objection) :
    compileFile files path draft = .error (.settings objection) := by
  simp only [compileFile, compileTelling, refused]

theorem compileFile_of_access {fault : AccessFault} (checked : draft.check = .ok settings)
    (unread : read files path = .error (.access fault)) :
    compileFile files path draft = .error (.access fault) := by
  simp only [compileFile, compileTelling, checked, unread]

theorem compileFile_of_undecodable {fault : Text.DecodeFault}
    (checked : draft.check = .ok settings)
    (unread : read files path = .error (.undecodable fault)) :
    compileFile files path draft = .error (.undecodable path fault) := by
  simp only [compileFile, compileTelling, checked, unread]

theorem compileFile_of_text (checked : draft.check = .ok settings)
    (given : read files path = .ok text) :
    compileFile files path draft = (compile settings text).mapError (ofReport path settings) := by
  simp only [compileFile, compileTelling, checked, given, compile]

theorem ofReport_of_foundIn {report : Report} (found : report.FoundIn { settings } text) :
    ofReport path settings report = .malformed path report settings.contextRadius :=
  if_pos found.inSource

theorem ofReport_of_tooWide {report : Report} (wide : settings.TooWide report.cause) :
    ofReport path settings report = .beyond report.cause := by
  obtain ⟨width, -, -, cause⟩ := wide
  simp only [ofReport, cause, Cause.inSource, Bool.false_eq_true, if_false]

/-- The rules say what comes of every file. -/
theorem outcome_compileFile (files : FileTree) (path : Path) (draft : Draft) :
    Outcome files path draft (compileFile files path draft) := by
  cases checked : draft.check with
  | error objection => exact compileFile_of_refused checked ▸ .refused checked
  | ok settings =>
  cases whole : path.flaw? with
  | some flaw =>
      rw [compileFile_of_access checked (read_of_flaw whole)]
      exact .noPath checked whole
  | none =>
  cases given : files.read? path with
  | none =>
      rw [compileFile_of_access checked (read_of_unread whole given)]
      exact .unread checked whole given
  | some bytes =>
  cases found : Text.decode bytes with
  | error fault =>
      rw [compileFile_of_undecodable checked (read_of_undecodable given found)]
      exact .undecodable checked given (Text.exists_decode_error_iff.mp ⟨fault, found⟩) found
  | ok written =>
  rw [Text.decode_eq_ok_iff.mp found] at given
  have holds : HoldsText files path (Text.unifyLineEnds written) := ⟨written, given, rfl⟩
  rw [compileFile_of_text checked (read_of_holdsText holds)]
  cases compiled : compile settings (Text.unifyLineEnds written) with
  | ok page => exact .page checked holds compiled
  | error report =>
      rw [mapError_error]
      rcases foundIn_or_tooWide_of_compile (Draft.valid_of_check checked) compiled with
        inside | ⟨wide, -⟩
      · rw [ofReport_of_foundIn inside]
        exact .malformed checked holds compiled inside
      · rw [ofReport_of_tooWide wide]
        exact .tooWide checked holds compiled wide

/-- Nothing else comes of a file than the rules say. -/
theorem Outcome.eq {outcome : Except CompileFault Text} (h : Outcome files path draft outcome) :
    compileFile files path draft = outcome := by
  cases h with
  | refused refused => exact compileFile_of_refused refused
  | unread checked whole unread =>
      exact compileFile_of_access checked (read_of_unread whole unread)
  | undecodable checked given _ found =>
      exact compileFile_of_undecodable checked (read_of_undecodable given found)
  | malformed checked holds failed found =>
      rw [compileFile_of_text checked (read_of_holdsText holds), failed, mapError_error,
        ofReport_of_foundIn found]
  | noPath checked flawed => exact compileFile_of_access checked (read_of_flaw flawed)
  | tooWide checked holds failed wide =>
      rw [compileFile_of_text checked (read_of_holdsText holds), failed, mapError_error,
        ofReport_of_tooWide wide]
  | page checked holds compiled =>
      rw [compileFile_of_text checked (read_of_holdsText holds), compiled, mapError_ok]

/-! ## Line ends -/

/-- A file that holds the same text compiles alike. -/
theorem compileFile_of_holdsText {others : FileTree} (holds : HoldsText files path text)
    (other : HoldsText others path text) :
    compileFile others path draft = compileFile files path draft := by
  cases checked : draft.check with
  | error objection => rw [compileFile_of_refused checked, compileFile_of_refused checked]
  | ok settings =>
      rw [compileFile_of_text checked (read_of_holdsText holds),
        compileFile_of_text checked (read_of_holdsText other)]

/-- A tree with one file, at its root. -/
def fileInRoot (bytes : List UInt8) : FileTree :=
  { entries := [([⟨Text.encode "p".toList, by decide⟩], .file bytes 0o644)] }

theorem read?_fileInRoot (bytes : List UInt8) :
    (fileInRoot bytes).read? (.ofText "/p".toList) = some bytes := by
  have leads : (fileInRoot bytes).locate true (.ofText "/p".toList) =
      .ok [⟨Text.encode "p".toList, by decide⟩] :=
    FileTree.locate_in_root rfl (by decide) (by decide) List.not_mem_nil nofun
  exact FileTree.read?_of_leads leads rfl List.not_mem_nil

/-! ## The outcomes of files -/

/-- Two things that can be wrong are not reported: that a path is none for the system, and that tabs
are too wide for a listing in the text, which the check of the settings lets pass. -/
theorem unreported_iff :
    (∃ fault, compileFile files path draft = .error fault ∧ fault.isReport = false) ↔
      ∃ settings, draft.check = .ok settings ∧ (path.IsNone ∨
        ∃ text, HoldsText files path text ∧
          (∃ width ∈ settings.tabSize?, Text.isLength width = false) ∧
            ListsCode { settings } text) := by
  constructor
  · rintro ⟨fault, stopped, unreported⟩
    have told := outcome_compileFile files path draft
    generalize compileFile files path draft = outcome at stopped told
    cases told with
    | noPath checked flawed => exact ⟨_, checked, .inl (Path.exists_flaw?_iff.mp ⟨_, flawed⟩)⟩
    | @tooWide settings text report checked holds failed wide =>
        obtain ⟨-, lists⟩ := (foundIn_or_tooWide_of_compile (Draft.valid_of_check checked)
          failed).resolve_left fun found => found.not_tooWide wide
        obtain ⟨width, given, narrow, -⟩ := wide
        exact ⟨settings, checked, .inr ⟨text, holds, ⟨width, given, narrow⟩, lists⟩⟩
    | refused | unread | undecodable | malformed =>
        cases stopped
        cases unreported
    | page => cases stopped
  · rintro ⟨settings, checked, none | ⟨text, holds, ⟨width, given, narrow⟩, lists⟩⟩
    · obtain ⟨flaw, flawed⟩ := Path.exists_flaw?_iff.mpr none
      exact ⟨_, (Outcome.noPath checked flawed).eq, rfl⟩
    · obtain ⟨report, failed, wide⟩ := exists_report_of_listsCode given narrow lists
      exact ⟨_, (Outcome.tooWide checked holds failed wide).eq, rfl⟩

/-- A file is compiled like the text that it holds, or the report is that its settings are refused,
that it cannot be read, that its bytes are those of no text, or what is wrong in its text. Something
else comes only of what is no path, and of tabs that are too wide for a listing. How the lines of a
text end in its file makes no difference. -/
theorem file_is_compiled_like_its_text (files : FileTree) (path : Path) (draft : Draft) :
    (∀ outcome, compileFile files path draft = outcome ↔ Outcome files path draft outcome) ∧
    ((∃ fault, compileFile files path draft = .error fault ∧ fault.isReport = false) ↔
      ∃ settings, draft.check = .ok settings ∧ (path.IsNone ∨
        ∃ text, HoldsText files path text ∧
          (∃ width ∈ settings.tabSize?, Text.isLength width = false) ∧
            ListsCode { settings } text)) ∧
    ∀ (others : FileTree) (written mark : Text), mark = ['\r', '\n'] ∨ mark = ['\r'] →
      '\r' ∉ written → files.read? path = some (Text.encode written) →
      others.read? path = some (Text.encode (Text.replace '\n' mark written)) →
      compileFile others path draft = compileFile files path draft := by
  refine ⟨fun outcome => ⟨fun same => same ▸ outcome_compileFile files path draft, Outcome.eq⟩,
    unreported_iff, ?_⟩
  intro others written mark returned plain given other
  refine compileFile_of_holdsText ⟨written, given, rfl⟩ ⟨_, other, ?_⟩
  rw [Text.unifyLineEnds_of_notMem plain, Text.unifyLineEnds_replace plain returned]

/-- The lines of a file may end in carriage returns; tabs of a size that no text has are not
reported with its file, and neither is half of a surrogate pair in its path. -/
theorem lines_with_returns_and_overwide_tab_and_half_in_path :
    (compileFile (fileInRoot (Text.encode "a\r\nb".toList)) (.ofText "/p".toList)
        Draft.standard =
      compileFile (fileInRoot (Text.encode "a\nb".toList)) (.ofText "/p".toList) Draft.standard) ∧
    (∃ fault, compileFile (fileInRoot (Text.encode "<code></code>".toList)) (.ofText "/p".toList)
        (Draft.standard.put .tabSize (.integer 1180591620717411303424)) = .error fault ∧
      fault.isReport = false) ∧
    ∃ fault, compileFile {} (.ofSpelling [.half 0]) Draft.standard = .error fault ∧
      fault.isReport = false := by
  have checked : (Draft.standard.put .tabSize (.integer 1180591620717411303424)).check =
      .ok { tabSize? := some 1180591620717411303424 } := rfl
  refine ⟨?_, ?_, ?_⟩
  · exact (file_is_compiled_like_its_text (fileInRoot (Text.encode "a\nb".toList))
      (.ofText "/p".toList) Draft.standard).2.2 _ "a\nb".toList ['\r', '\n'] (.inl rfl)
      (by decide) (read?_fileInRoot _) (read?_fileInRoot _)
  · refine (file_is_compiled_like_its_text _ _ _).2.1.mpr ⟨_, checked, .inr
      ⟨"<code></code>".toList, ⟨"<code></code>".toList, read?_fileInRoot _, rfl⟩,
        ⟨_, rfl, by decide⟩, ?_⟩⟩
    exact listsCode_of_empty (Draft.valid_of_check checked)
  · exact (file_is_compiled_like_its_text _ _ _).2.1.mpr ⟨_, rfl, .inl
      ⟨_, List.mem_cons_self, .inr ⟨_, List.mem_cons_self, rfl⟩⟩⟩

end PageMarkup.Source
