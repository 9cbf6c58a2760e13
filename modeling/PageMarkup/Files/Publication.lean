import PageMarkup.Files.Tree
import PageMarkup.Text.Utf8

/-! Publishing a page: it is written to a new file beside its place, which then takes the place
in one move, so that readers see the old page or the new one and nothing between. Each step on
the files may fail; then the new file is removed again. -/

namespace PageMarkup.Publication

/-- The steps on the files. -/
inductive Step
  /-- Makes the new file. -/
  | create
  /-- Writes the page to it. -/
  | write
  /-- Gives it the permissions of the page. -/
  | permit
  /-- Moves it to its place. -/
  | move
deriving DecidableEq, Repr

/-- Why a page is not published. -/
inductive Fault
  /-- A link stands at the place. -/
  | throughLink
  /-- Something bars the way to the place or to its directory. -/
  | barred (obstacle : FileTree.Obstacle)
  /-- The new file could not be made. -/
  | notCreated
  /-- A later step failed. -/
  | notWritten
deriving DecidableEq

/-- The wording of a fault. What the system alone can say is left to it. -/
def Fault.message (path : Path) : Fault → Text
  | .throughLink => "Refusing to write through symlink: ".toList ++ path.toText
  | .notWritten => "Error writing ".toList ++ path.toText ++ ": ".toList
  | .barred obstacle => obstacle.message
  | .notCreated => []

/-- The permissions of a page that was not there before. -/
def newPermissions : Nat := 0o644

/-- The permissions that a page keeps. -/
def permissions (files : FileTree) (path : Path) : Nat :=
  match files.find? path with
  | some (.file _ permissions) => permissions
  | _ => newPermissions

/-- A number in eight digits, or more if it needs them. -/
def eightDigits (number : Nat) : Text :=
  let digits := Text.ofNat number
  List.replicate (8 - digits.length) '0' ++ digits

theorem isDigit_eightDigits (number : Nat) : ∀ c ∈ eightDigits number, c.isDigit = true := by
  intro c mem
  rcases List.mem_append.mp mem with zero | digit
  · rw [List.eq_of_mem_replicate zero]
    rfl
  · exact Nat.isDigit_of_mem_toDigits (b := 10) (by decide) (by decide) digit

/-- What the word for a new file is spelt with, for the page at a path and a number. -/
def temporarySpelling (path : Path) (number : Nat) : Spelling :=
  .char '.' :: path.name ++ .ofText ('.' :: eightDigits number ++ ".tmp".toList)

theorem proper_temporarySpelling (path : Path) (number : Nat) :
    Word.Proper (temporarySpelling path number) := by
  have long : 2 < (temporarySpelling path number).length := by
    simp [temporarySpelling, Spelling.ofText]
    omega
  refine ⟨?_, ?_, ?_, fun mem => ?_⟩
  · exact List.ne_nil_of_length_pos (by omega)
  · exact fun short => absurd long (by simp [short])
  · exact fun short => absurd long (by simp [short])
  · rcases List.mem_append.mp mem with mem | mem
    · rcases List.mem_cons.mp mem with dot | mem
      · cases dot
      · exact path.slash_notMem_name mem
    · obtain ⟨c, mem, slash⟩ := List.mem_map.mp mem
      cases slash
      rcases List.mem_append.mp mem with mem | mem
      · rcases List.mem_cons.mp mem with dot | mem
        · cases dot
        · cases isDigit_eightDigits number _ mem
      · cases List.elem_eq_true_of_mem mem

/-- The word for a new file. -/
def temporaryWord (path : Path) (number : Nat) : Word :=
  ⟨temporarySpelling path number, proper_temporarySpelling path number⟩

/-- A name for a new file that nothing in a directory has yet. -/
def freshName? (files : FileTree) (directory : Location) (path : Path) : Option Name :=
  (List.range (files.entries.length + 1)).findSome? fun number =>
    (temporaryWord path number).name?.filter fun name =>
      (files.lookup? (directory ++ [name])).isNone

/-- The permissions of the new file until it gets its own. -/
def temporaryPermissions : Nat := 0o600

/-- The place of the new file. Its directory is the one to which the path leads when two dots take
back the name before them. -/
def temporaryPlace (files : FileTree) (path : Path) : Except FileTree.Obstacle Location :=
  match files.absolute path.parent with
  | .error obstacle => .error obstacle
  | .ok directory =>
    match files.locate false (directory.child (.down (temporaryWord path 0))) with
    | .error obstacle => .error obstacle
    | .ok place =>
      match freshName? files place.dropLast path with
      | some name => .ok (place.dropLast ++ [name])
      | none => .ok place

/-- Moves a file to where a path leads, unless a directory stands there. -/
def moveTo (files : FileTree) (source : Location) (path : Path) (entry : Entry) :
    Except Fault FileTree :=
  match files.locate false path with
  | .error (.noPath flaw) => .error (.barred (.noPath flaw))
  | .error _ => .error .notWritten
  | .ok place =>
    match files.lookup? place with
    | some .directory => .error .notWritten
    | _ => .ok ((files.erase source).put place entry)

/-- Writes a page to a new file and moves that to its place, with some steps failing. A path that
is none at all is found out only where the new file should be moved there, which then stays
behind. -/
def replace (fails : Step → Bool) (files : FileTree) (path : Path) (page : Text)
    (temporary : Location) : Except Fault Unit × FileTree :=
  let bytes := Text.encode page
  let kept := permissions files path
  let created := files.put temporary (.file [] temporaryPermissions)
  if fails .write then (.error .notWritten, created.erase temporary)
  else
    let written := created.put temporary (.file bytes temporaryPermissions)
    if fails .permit then (.error .notWritten, written.erase temporary)
    else
      let permitted := written.put temporary (.file bytes kept)
      match moveTo permitted temporary path (.file bytes kept) with
      | .error (.barred obstacle) => (.error (.barred obstacle), permitted)
      | .error fault => (.error fault, permitted.erase temporary)
      | .ok moved =>
        if fails .move then (.error .notWritten, permitted.erase temporary) else (.ok (), moved)

/-- Writes a page to a place, with some steps failing. -/
def publish (fails : Step → Bool) (files : FileTree) (path : Path) (page : Text) :
    Except Fault Unit × FileTree :=
  match files.probe false path with
  | .error obstacle => (.error (.barred obstacle), files)
  | .ok (some (.link _)) => (.error .throughLink, files)
  | .ok _ =>
    match temporaryPlace files path with
    | .error obstacle => (.error (.barred obstacle), files)
    | .ok temporary =>
      if fails .create then (.error .notCreated, files)
      else replace fails files path page temporary

end PageMarkup.Publication
