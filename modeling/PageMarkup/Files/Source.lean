import PageMarkup.Compilation
import PageMarkup.Files.Resolution
import PageMarkup.Files.World
import PageMarkup.Settings.Draft
import PageMarkup.Text.Utf8

/-! Source files: which files hold pages, how they are read and compiled. -/

namespace PageMarkup.Source

/-- The suffixes of source files. -/
def suffixes : List Text := [".hpp", ".htmlpp", ".html", ".txt"].map String.toList

/-- Why a path does not lead to a source file. -/
inductive Rejection
  /-- The path begins in the home directory of a user who does not exist. -/
  | homeless
  | unresolved (fault : FileTree.Unresolved)
  /-- Nothing can be said of what is there. -/
  | barred (obstacle : FileTree.Obstacle)
  | missing (path : Path)
  | notRegular (path : Path)
  | wrongSuffix (name : Text)
deriving DecidableEq

/-- The wording of a rejection. -/
def Rejection.message : Rejection → Text
  | .homeless => "Could not determine home directory.".toList
  | .unresolved fault => fault.message
  | .barred obstacle => obstacle.message
  | .missing path => path.toText ++ " does not exist.".toList
  | .notRegular path => path.toText ++ " is not a regular file.".toList
  | .wrongSuffix name =>
    name ++ " is not an HTML++ file (expected one of: ".toList ++
      Text.join ", ".toList suffixes ++ ").".toList

/-- The path from the root that a text names. The name of a user may hold nothing that no path can
hold. -/
def resolve (world : World) (written : Text) : Except Rejection Path :=
  let path := Path.ofText written
  if !path.fromRoot && path.parts.head?.any (·.step?.isNone) then
    .error (.unresolved (.noPath .zeroCharacter))
  else
    match world.expandHome? path with
    | none => .error .homeless
    | some path =>
      match world.files.resolve world.room.links path with
      | .error fault => .error (.unresolved fault)
      | .ok path => .ok path

/-- The path of the source file that a text names. -/
def locate (world : World) (written : Text) : Except Rejection Path :=
  match resolve world written with
  | .error rejection => .error rejection
  | .ok path =>
    match world.files.probe true path with
    | .error obstacle => .error (.barred obstacle)
    | .ok none => .error (.missing path)
    | .ok (some (.file _ _)) =>
      if suffixes.contains (Text.toLower path.suffix) then .ok path
      else .error (.wrongSuffix path.name.shown)
    | .ok (some _) => .error (.notRegular path)

/-- Why a file cannot be used as a source. -/
inductive AccessFault
  /-- The path is none for the system. -/
  | noPath (flaw : Path.Flaw)
  /-- The system does not give it out. -/
  | inaccessible (path : Path)
  | tooLarge (path : Path) (size : Nat) (limit : Int)
deriving DecidableEq

namespace AccessFault

/-- The wording of a fault. The reason that the system has for a refusal is left to it. -/
def message : AccessFault → Text
  | .noPath flaw => flaw.message
  | .inaccessible path => "Error accessing ".toList ++ path.toText ++ ": ".toList
  | .tooLarge path size limit =>
    path.toText ++ " is ".toList ++ Text.ofNat size ++ " bytes, over the limit of ".toList ++
      Text.ofInt limit ++ " bytes.".toList

/-- The fault that an obstacle on the way to a file makes. -/
def ofObstacle (path : Path) : FileTree.Obstacle → AccessFault
  | .noPath flaw => .noPath flaw
  | _ => .inaccessible path

end AccessFault

/-- The size that the system gives for directories. -/
def directorySize : Nat := 4096

/-- Accepts files up to a size in bytes. -/
def checkSize (files : FileTree) (path : Path) (limit : Int) : Except AccessFault Unit :=
  let checked (size : Nat) :=
    if limit < size then .error (.tooLarge path size limit) else .ok ()
  match files.entryAt true path with
  | .error obstacle => .error (.ofObstacle path obstacle)
  | .ok (.file bytes _) => checked bytes.length
  | .ok .directory => checked directorySize
  | .ok (.link _) => .error (.inaccessible path)

/-- Why no text can be read from a file. -/
inductive ReadFault
  | access (fault : AccessFault)
  | undecodable (fault : Text.DecodeFault)
deriving DecidableEq

/-- The text that bytes hold: they are decoded, and every line end becomes a line feed. -/
def textOf (bytes : List UInt8) : Except Text.DecodeFault Text :=
  (Text.decode bytes).map Text.unifyLineEnds

/-- The text of a file. -/
def read (files : FileTree) (path : Path) : Except ReadFault Text :=
  match path.flaw?, files.read? path with
  | some flaw, _ => .error (.access (.noPath flaw))
  | none, none => .error (.access (.inaccessible path))
  | none, some bytes =>
    match textOf bytes with
    | .ok text => .ok text
    | .error fault => .error (.undecodable fault)

/-- Why a file cannot be compiled. -/
inductive CompileFault
  | settings (objection : Objection)
  | access (fault : AccessFault)
  | undecodable (path : Path) (fault : Text.DecodeFault)
  | malformed (path : Path) (report : Report) (radius : Int)
  /-- The source is not to blame. -/
  | beyond (cause : Cause)

/-- The wording of a fault. -/
def CompileFault.message : CompileFault → Text
  | .settings objection => objection.message
  | .access fault => fault.message
  | .undecodable path fault =>
    "Invalid UTF-8 sequence in ".toList ++ path.toText ++ ": ".toList ++ fault.message
  | .malformed path report radius => path.toText ++ ": ".toList ++ report.format radius
  | .beyond cause => cause.message

/-- What a report about the text of a file means for the file. -/
def ofReport (path : Path) (settings : Settings) (report : Report) : CompileFault :=
  if report.cause.inSource then .malformed path report settings.contextRadius
  else .beyond report.cause

/-- The page that a file describes, and what there is to tell. -/
def compileTelling (files : FileTree) (path : Path) (draft : Draft) :
    Except CompileFault Text × List Notice :=
  match draft.check with
  | .error objection => (.error (.settings objection), [])
  | .ok settings =>
    match read files path with
    | .error (.access fault) => (.error (.access fault), [])
    | .error (.undecodable fault) => (.error (.undecodable path fault), [])
    | .ok text =>
      let (result, session) := (Session.start settings text).parse { settings }
      ((result.mapError session.report).mapError (ofReport path settings),
        session.compilation.document.notices)

/-- The page that a file describes. -/
def compileFile (files : FileTree) (path : Path) (draft : Draft) : Except CompileFault Text :=
  (compileTelling files path draft).1

end PageMarkup.Source
