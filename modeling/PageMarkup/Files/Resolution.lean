import PageMarkup.Files.Tree

/-! Resolving paths: the links that there are on a way are followed, and words that lead nowhere
are kept as they stand. -/

namespace PageMarkup

namespace Path

/-- The path one step up. Two dots are kept where there is nothing to take back. -/
def up (path : Path) : Path :=
  match path.parts.getLast? with
  | some (.down _) => path.parent
  | some .up => path.child .up
  | none => if path.fromRoot then path else path.child .up

/-- How many slashes are written where steps begin. The last of the steps ends nothing. -/
def leadingSlashes (steps : List (Step Word)) : Nat :=
  min (steps.takeWhile (· = .slash)).length (steps.length - 1)

/-- The part that a step goes to, if it leads anywhere. -/
def Step.part? : Step Word → Option Part
  | .slash | .dot => none
  | .up => some .up
  | .down word => some (.down word)

/-- The path with more steps behind it as they are written. They begin anew at the root if a slash
is written before them. -/
def extend (path : Path) (steps : List (Step Word)) : Path :=
  path.append ⟨slashesFor (leadingSlashes steps), steps.filterMap Step.part?⟩

end Path

namespace FileTree

/-- Why a path cannot be resolved. -/
inductive Unresolved
  | noPath (flaw : Path.Flaw)
  /-- Links lead to links too many times over. -/
  | tooDeep
  /-- The path begins in the working directory, which is no longer there. -/
  | astray
  /-- Links lead in a circle, or over too many others. -/
  | circle (path : Path)
deriving DecidableEq

/-- The wording of a fault. What the system alone can say is left to it. -/
def Unresolved.message : Unresolved → Text
  | .noPath flaw => flaw.message
  | .tooDeep => "maximum recursion depth exceeded".toList
  | .astray => []
  | .circle path => "Symlink loop from ".toList ++ path.spelling.quoted

/-- How far the steps of a path have been gone. -/
structure Progress where
  reached : Path
  /-- The links on the way by the paths to them, with the paths to which they lead as far as those
  are known. -/
  known : List (Path × Option Path)
  /-- No link was met again on its own way. -/
  complete : Bool

/-- Goes steps from a path, with so much room for links in links. Behind a link that is met again on
its own way the steps are taken as they are written. -/
def settle (tree : FileTree) (room : Nat) (known : List (Path × Option Path)) (reached : Path) :
    List (Path.Step Word) → Except Unresolved Progress
  | [] => .ok ⟨reached, known, true⟩
  | .slash :: steps | .dot :: steps => settle tree room known reached steps
  | .up :: steps => settle tree room known reached.up steps
  | .down word :: steps =>
    let next := reached.child (.down word)
    match tree.entryAt false next with
    | .error (.noPath flaw) => .error (.noPath flaw)
    | .ok (.link target) =>
      match known.lookup next with
      | some (some place) => settle tree room known place steps
      | some none => .ok ⟨next.extend steps, known, false⟩
      | none =>
        match room with
        | 0 => .error .tooDeep
        | room + 1 =>
          match settle tree room ((next, none) :: known)
            (if target.fromRoot then ⟨1, []⟩ else reached)
            (target.steps.map (.map Name.word)) with
          | .error fault => .error fault
          | .ok ⟨place, known, false⟩ => .ok ⟨place.extend steps, known, false⟩
          | .ok ⟨place, known, true⟩ =>
            settle tree (room + 1) ((next, some place) :: known) place steps
    | _ => settle tree room known next steps
termination_by steps => (room, steps.length)

/-- The path from the root to which a path comes, whether there is anything or not. -/
def resolve (tree : FileTree) (room : Nat) (path : Path) : Except Unresolved Path :=
  match tree.settle room [] (if path.fromRoot then ⟨1, []⟩ else ⟨0, []⟩)
    (path.parts.map Path.Part.step) with
  | .error fault => .error fault
  | .ok ⟨reached, _, _⟩ =>
    match tree.absolute reached with
    | .error _ => .error .astray
    | .ok place =>
      match tree.locate true place with
      | .error .tooManyLinks => .error (.circle place)
      | .error (.noPath flaw) => .error (.noPath flaw)
      | _ => .ok place

end FileTree

end PageMarkup
