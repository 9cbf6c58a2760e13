import PageMarkup.CommandLine

/-! The program. It takes a picture of the files that its answer can depend on, lets the
command line answer on that picture, and carries out what the answer changed. -/

namespace PageMarkup.Program

/-- A text as a string. -/
def string (text : Text) : String := String.ofList text

/-- The bytes of a file, if it is a regular file that can be read. -/
def bytesAt? (path : Path) : IO (Option (List UInt8)) := do
  try
    return some (← IO.FS.readBinFile (string path.toText)).toList
  catch _ => return none

/-- Where a path leads, links followed, or the path as it is when nothing is there. -/
def settle (path : Path) : IO Path := do
  try
    return Path.ofText (← IO.FS.realPath (string path.toText)).toString.toList
  catch _ => return path

/-- The place that a path names when no link is on it. -/
def placeOf (path : Path) : Location := path.parts.filterMap fun
  | .up => none
  | .down word => word.name?

/-- The picture with what a path leads to, if anything. -/
def addEntry (files : FileTree) (path : Path) : IO FileTree := do
  if let some bytes ← bytesAt? path then
    return files.put (placeOf path) (.file bytes Publication.newPermissions)
  let there := (← IO.currentDir) / string path.toText
  if ← there.isDir then return files.put (placeOf path) .directory
  if ← there.pathExists then
    let unread := files.put (placeOf path) (.file [] Publication.newPermissions)
    return { unread with withheld := placeOf path :: unread.withheld }
  return files

/-- The picture with a path and the directories above it. -/
def addPath (files : FileTree) (path : Path) : IO FileTree := do
  let directories := path.parent.ancestors.foldl
    (fun files directory =>
      if directory.parts.isEmpty then files else files.put (placeOf directory) .directory)
    files
  addEntry directories path

/-- The picture with a link where a path leads. -/
def addLink (files : FileTree) (path : Path) : FileTree :=
  files.put (placeOf path) (.link ⟨[.dot], by decide⟩)

/-- The path itself is a link. -/
def isLink (path : Path) : IO Bool := do
  try
    let here ← IO.currentDir
    return (← (here / string path.toText).symlinkMetadata).type == .symlink
  catch _ => return false

/-- The path at which a page is to be published: its directory settled, its name as given. -/
def publicationPath (path : Path) : IO Path := do
  let directory ← settle path.parent
  return { directory with parts := directory.parts ++ path.parts.getLast?.toList }

/-- The home directories of all users, as far as they are listed. -/
def homes : IO (List (Text × Text)) := do
  match ← bytesAt? (Path.ofText "/etc/passwd".toList) with
  | none => return []
  | some bytes =>
    return World.homesIn ((Text.decode bytes).toOption.getD [])

/-- The picture for a run: the source, the files of settings above it and the place of the
page. -/
def picture (empty : FileTree) (source : Path) (page? : Option Path) : IO FileTree := do
  let mut files ← addPath empty source
  for candidate in Search.candidates source.parent do
    files ← addPath files candidate.file
  if let some page := page? then
    files ← addPath files page
    if ← isLink page then files := addLink files page
  return files

/-- Puts a page at its place. A page that is there already is written over, which keeps its
permissions; a new one is written to a file beside its place and moved. -/
def carryOut (page : Path) (bytes : List UInt8) : IO Unit := do
  let content := ByteArray.mk bytes.toArray
  let place := string page.toText
  if (← bytesAt? page).isSome then IO.FS.writeBinFile place content
  else
    let temporary :=
      string (page.parent.child (.down (Publication.temporaryWord page 0))).toText
    try
      IO.FS.writeBinFile temporary content
      IO.FS.rename temporary place
    catch fault =>
      try IO.FS.removeFile temporary catch _ => pure ()
      throw fault

/-- Prints the outcome of a run. -/
def report (outcome : CommandLine.Outcome) : IO UInt32 := do
  IO.print (string outcome.output)
  IO.eprint (string outcome.errors)
  if let some fault := outcome.crash? then IO.eprintln (string fault.message)
  return outcome.status.toUInt32

/-- The room that is left where the program is called. -/
def room : Room := { values := 982, links := 982 }

/-- Runs with options: the source is named by where it leads, the page by where it goes. -/
def run (options : CommandLine.Options) : IO UInt32 := do
  let here := (← IO.currentDir).toString.toList
  let home := ((← IO.getEnv "HOME").getD "").toList
  let sizeLimit? := (← IO.getEnv (string SizeLimit.variableName)).map String.toList
  let world : World :=
    { files := { here := placeOf (Path.ofText here) }, room, home, homes := ← homes, sizeLimit? }
  let source ← match world.expandHome? (Path.ofText options.source) with
    | some path => settle (world.absolute path)
    | none => return ← report (.rejected .homeless)
  let page? ← options.output?.mapM fun written =>
    publicationPath (world.absolute (Path.ofText written))
  let files ← picture world.files source page?
  let settled := { options with
    source := source.toText
    output? := page?.map Path.toText }
  let (outcome, after) := CommandLine.run (fun _ => false) { world with files } settled
  if outcome.status = 0 then
    if let some page := page? then
      if let some (.file bytes _) := after.files.find? page then
        try carryOut page bytes
        catch fault =>
          return ← report (.failed (Publication.Fault.message page .notWritten ++
            fault.toString.toList))
  report outcome

end PageMarkup.Program

/-- Compiles the source that the arguments name. -/
def main (arguments : List String) : IO UInt32 :=
  match PageMarkup.CommandLine.Options.ofArguments? (arguments.map String.toList) with
  | some options => PageMarkup.Program.run options
  | none => do
    IO.eprint (PageMarkup.Program.string PageMarkup.CommandLine.Outcome.usage)
    return 2
