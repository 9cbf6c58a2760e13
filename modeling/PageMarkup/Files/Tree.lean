import PageMarkup.Files.Path
import PageMarkup.Pairs

/-! A tree of files, directories and symbolic links, and where paths lead in it. A path is gone
step by step, and whatever bars the way is told. -/

namespace PageMarkup

/-- What a symbolic link stands for, step by step: the text of a link is not empty, and it begins
at the root if it begins with a slash. -/
structure Target where
  steps : List (Path.Step Name)
  nonempty : steps ≠ [] ∧ steps ≠ [.slash]
deriving DecidableEq

namespace Target

/-- The link begins at the root. -/
def fromRoot (target : Target) : Bool := target.steps.head? = some .slash

/-- The target that a text writes, if it writes one. -/
def ofText? (text : Text) : Option Target :=
  match ((Text.encode text).splitOn 0x2f).mapM Path.Step.ofBytes? with
  | none => none
  | some steps =>
    if nonempty : steps ≠ [] ∧ steps ≠ [.slash] then some ⟨steps, nonempty⟩ else none

end Target

/-- What stands at a place. -/
inductive Entry
  /-- A file with its permission bits. -/
  | file (bytes : List UInt8) (permissions : Nat)
  | directory
  | link (target : Target)
deriving DecidableEq

/-- Entries by their places. The root is a directory and not listed. -/
structure FileTree where
  entries : List (Location × Entry) := []
  /-- The working directory, in which paths begin that do not begin at the root. -/
  here : Location := []
  /-- The places of files that are there but are not given out. -/
  withheld : List Location := []
  /-- The places of directories that may not be searched, so that no way leads on from them. -/
  locked : List Location := []

namespace FileTree

/-- What stands at a place. -/
def lookup? (tree : FileTree) (location : Location) : Option Entry :=
  if location = [] then some .directory else tree.entries.lookup location

/-- The tree with another entry at a place. -/
def put (tree : FileTree) (location : Location) (entry : Entry) : FileTree :=
  { tree with entries := Pairs.put location entry tree.entries }

/-- The tree without the entry at a place. -/
def erase (tree : FileTree) (location : Location) : FileTree :=
  { tree with entries := Pairs.erase location tree.entries }

/-! ### What changes do -/

theorem lookup?_put_self (tree : FileTree) {location : Location} (entry : Entry)
    (root : location ≠ []) : (tree.put location entry).lookup? location = some entry := by
  simp [lookup?, put, root, Pairs.lookup_put_self]

theorem lookup?_put_of_ne (tree : FileTree) {location other : Location} (entry : Entry)
    (h : other ≠ location) : (tree.put location entry).lookup? other = tree.lookup? other := by
  simp [lookup?, put, Pairs.lookup_put_of_ne h]

theorem lookup?_erase_self (tree : FileTree) {location : Location} (root : location ≠ []) :
    (tree.erase location).lookup? location = none := by
  simp [lookup?, erase, root, Pairs.lookup_erase_self]

theorem lookup?_erase_of_ne (tree : FileTree) {location other : Location} (h : other ≠ location) :
    (tree.erase location).lookup? other = tree.lookup? other := by
  simp [lookup?, erase, Pairs.lookup_erase_of_ne h]

theorem put_put_self (tree : FileTree) (location : Location) (entry later : Entry) :
    (tree.put location entry).put location later = tree.put location later := by
  simp [put, Pairs.put_put_self]

theorem erase_of_free {tree : FileTree} {location : Location}
    (free : tree.lookup? location = none) : tree.erase location = tree := by
  have root : location ≠ [] := by
    rintro rfl
    cases free
  rw [lookup?, if_neg root] at free
  simp [erase, Pairs.erase_of_lookup_eq_none free]

/-- What is put where nothing was leaves nothing behind when it is taken away. -/
theorem erase_put_self {tree : FileTree} {location : Location} (entry : Entry)
    (free : tree.lookup? location = none) : (tree.put location entry).erase location = tree :=
  calc (tree.put location entry).erase location
    _ = tree.erase location := by simp [put, erase, Pairs.erase_put_self]
    _ = tree := erase_of_free free

/-! ### Following paths -/

/-- What bars the way to a place. -/
inductive Obstacle
  /-- A name that has to lead on leads nowhere. -/
  | missing
  /-- What has to be a directory is something else. -/
  | notDirectory
  /-- The way goes over more links than may be followed, perhaps in a circle. -/
  | tooManyLinks
  /-- A name or the whole path has too many bytes. -/
  | tooLong
  /-- A directory may not be searched. -/
  | denied
  /-- The path is none for the system. -/
  | noPath (flaw : Path.Flaw)
deriving DecidableEq

namespace Obstacle

/-- The wording of an obstacle. All but those of the path itself are left to the system. -/
def message : Obstacle → Text
  | .noPath flaw => flaw.message
  | _ => []

/-- Whoever asks what is there takes the obstacle for the answer that there is nothing. -/
def meansNothing : Obstacle → Bool
  | .missing | .notDirectory | .tooManyLinks | .noPath _ => true
  | .tooLong | .denied => false

end Obstacle

/-- How many bytes a name may have. -/
def maxName : Nat := 255

/-- How many bytes a path may have. -/
def maxPath : Nat := 4095

/-- How many links may be followed on one way. -/
def maxLinks : Nat := 40

/-- What keeps a step from being taken from a place, if anything does. Every step asks for a
directory, and every step but a slash searches it. -/
def obstacle? (tree : FileTree) (here : Location) (step : Path.Step Name) : Option Obstacle :=
  match tree.lookup? here with
  | some .directory =>
    if step ≠ .slash && tree.locked.contains here then some .denied else none
  | some _ => some .notDirectory
  | none => some .missing

/-- The place where steps lead from a directory, when no more than `links` links may be followed
on the way. A link at its end is followed too, if `followLast` says so. -/
def walk (tree : FileTree) (followLast : Bool) (links : Nat) (here : Location) :
    List (Path.Step Name) → Except Obstacle Location
  | [] => .ok here
  | step :: steps =>
    match tree.obstacle? here step with
    | some obstacle => .error obstacle
    | none =>
      match step with
      | .slash | .dot => walk tree followLast links here steps
      | .up => walk tree followLast links here.dropLast steps
      | .down name =>
        if maxName < name.bytes.length then .error .tooLong
        else
          let next := here ++ [name]
          match tree.lookup? next with
          | some (.link target) =>
            if !followLast && steps.isEmpty then .ok next
            else match links with
              | 0 => .error .tooManyLinks
              | links + 1 =>
                walk tree followLast links (if target.fromRoot then [] else here)
                  (target.steps ++ steps)
          | _ => walk tree followLast links next steps
termination_by steps => (links, steps.length)

/-- The place where a path leads. -/
def locate (tree : FileTree) (followLast : Bool) (path : Path) : Except Obstacle Location :=
  match path.steps with
  | .error flaw => .error (.noPath flaw)
  | .ok steps =>
    if maxPath < path.size then .error .tooLong
    else tree.walk followLast maxLinks (if path.fromRoot then [] else tree.here) steps

/-- What a path leads to. -/
def entryAt (tree : FileTree) (followLast : Bool) (path : Path) : Except Obstacle Entry :=
  match tree.locate followLast path with
  | .error obstacle => .error obstacle
  | .ok place =>
    match tree.lookup? place with
    | some entry => .ok entry
    | none => .error .missing

/-- What a path leads to, links followed, if anything. -/
def find? (tree : FileTree) (path : Path) : Option Entry := (tree.entryAt true path).toOption

/-- A path leads to a file that is not given out. -/
def isWithheld (tree : FileTree) (path : Path) : Bool :=
  (tree.locate true path).toOption.any tree.withheld.contains

/-- The content of the file that a path leads to, if it leads to one that can be read. -/
def read? (tree : FileTree) (path : Path) : Option (List UInt8) :=
  match tree.find? path with
  | some (.file bytes _) => if tree.isWithheld path then none else some bytes
  | _ => none

/-- A path that is none leads to no content. -/
theorem flaw?_of_read? {tree : FileTree} {path : Path} {bytes : List UInt8}
    (given : tree.read? path = some bytes) : path.flaw? = none := by
  cases taken : path.steps with
  | ok => simp [Path.flaw?, taken]
  | error => simp [read?, find?, entryAt, locate, taken, Except.toOption] at given

/-- What a path leads to, if anything. Some of what bars the way means that there is nothing, and
of the rest no answer can be had. -/
def probe (tree : FileTree) (followLast : Bool) (path : Path) : Except Obstacle (Option Entry) :=
  match tree.entryAt followLast path with
  | .ok entry => .ok (some entry)
  | .error obstacle => if obstacle.meansNothing then .ok none else .error obstacle

/-- A path from the root without two dots in it, as it is written: links do not count. -/
def absolute (tree : FileTree) (path : Path) : Except Obstacle Path :=
  if path.fromRoot then .ok path.collapse
  else if tree.lookup? tree.here = some .directory then
    .ok ((Path.ofLocation tree.here).append path).collapse
  else .error .missing

/-- The names in a directory. -/
def list (tree : FileTree) (directory : Location) : List Name :=
  tree.entries.filterMap fun (location, _) =>
    if location ≠ [] && location.dropLast = directory then location.getLast? else none

end FileTree

end PageMarkup
