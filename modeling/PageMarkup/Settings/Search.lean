import PageMarkup.Files.Resolution
import PageMarkup.Files.World
import PageMarkup.Notice
import PageMarkup.Settings.Draft
import PageMarkup.Text.Utf8
import PageMarkup.Toml.Document

/-! Where settings come from. From the directory of a page upwards, two files may hold a table
of settings; the first table found decides alone. -/

namespace PageMarkup.Search

/-- A file that may hold settings, and the tables in it, first the one that comes first. -/
structure Candidate where
  file : Path
  tables : List Toml.Key
deriving DecidableEq

/-- The name of the program in tables. -/
def program : Text := "htmlplusplus".toList

/-- The table for tools, shared with others. -/
def toolTable : Toml.Key := ["tool".toList, program]

/-- The file that describes the project in a directory. -/
def projectFile : Word := ⟨.ofText "pyproject.toml".toList, by decide⟩

/-- The file with nothing but settings in a directory. -/
def ownFile : Word := ⟨.ofText ".htmlplusplus.toml".toList, by decide⟩

/-- The candidates in one directory. -/
def candidatesIn (directory : Path) : List Candidate :=
  [⟨directory.child (.down projectFile), [toolTable]⟩,
    ⟨directory.child (.down ownFile), [[program], toolTable]⟩]

/-- All candidates for a directory, nearest first. -/
def candidates (start : Path) : List Candidate :=
  (Path.ancestors start).flatMap candidatesIn

/-- Why no settings can be taken from the files. -/
inductive Fault
  /-- The settings are not a table. -/
  | notTable (table : Toml.Key) (file : Path)
  /-- The table has keys that are no settings. -/
  | unknownKeys (table : Toml.Key) (file : Path) (keys : List Text)
  /-- A file is not text. -/
  | undecodable (fault : Text.DecodeFault)
  /-- A file holds an integer with too many digits. -/
  | numeralTooLong (digits : Nat)
  /-- A file holds values inside values too many times over. -/
  | tooDeep
  /-- The directory is no place where a search can begin. -/
  | unresolved (fault : FileTree.Unresolved)
  /-- Nothing can be said of what stands where a file of settings might. -/
  | barred (obstacle : FileTree.Obstacle)
deriving DecidableEq

/-- A dotted key as it is written. -/
def tableName (table : Toml.Key) : Text := Text.join ['.'] table

/-- How a message about a table begins. -/
def aboutTable (table : Toml.Key) (file : Path) : Text :=
  "Invalid `[".toList ++ tableName table ++ "]` settings in ".toList ++ file.toText ++ ": ".toList

/-- The wording of a fault. -/
def Fault.message : Fault → Text
  | .notTable table file => aboutTable table file ++ "expected a table".toList
  | .unknownKeys table file keys =>
    aboutTable table file ++ "unknown key(s) ".toList ++ Text.join ", ".toList keys
  | .undecodable fault => fault.message
  | .numeralTooLong digits => Text.tooManyDigits digits
  | .tooDeep => "maximum recursion depth exceeded".toList
  | .unresolved fault => fault.message
  | .barred obstacle => obstacle.message

/-- What a TOML value is for a setting. -/
def settingValue : Toml.Value → Setting.Value
  | .text value => .text value
  | .integer value => .integer value
  | .boolean value => .boolean value
  | .float => .foreign .float
  | .date => .foreign .date
  | .list _ => .foreign .list
  | .table _ => .foreign .table

/-- The keys of a table that are no settings, in the order of their code points. -/
def unknownKeys (entries : Toml.Table) : List Text :=
  ((entries.map Prod.fst).filter fun key => (Setting.ofKey? key).isNone).mergeSort Text.le

/-- The draft that a table writes. -/
def draftOf (entries : Toml.Table) : Draft :=
  Draft.standard.putAll (entries.filterMap fun entry =>
    (Setting.ofKey? entry.1).map fun setting => (setting, settingValue entry.2))

/-- The draft in the value of a table. -/
def draftIn (table : Toml.Key) (file : Path) : Toml.Value → Except Fault Draft
  | .table entries =>
    match unknownKeys entries with
    | [] => .ok (draftOf entries)
    | key :: keys => .error (.unknownKeys table file (key :: keys))
  | _ => .error (.notTable table file)

/-- The first of some tables that a document has, with its value. -/
def firstTable? (document : Toml.Table) (tables : List Toml.Key) : Option (Toml.Key × Toml.Value) :=
  tables.findSome? fun table => (Toml.Table.get? table document).map fun value => (table, value)

/-- What a search has come to, and what there is to tell. -/
abbrev Finding := Except Fault (Option Draft) × List Notice

/-- What the content of a candidate gives. A file that is no document gives nothing. -/
def consult (room : Room) (candidate : Candidate) (bytes : List UInt8) : Finding :=
  match Text.decode bytes with
  | .error fault => (.error (.undecodable fault), [])
  | .ok text =>
    match Toml.parse room.values text with
    | .error .malformed => (.ok none, [.skipped candidate.file.toText])
    | .error (.numeralTooLong digits) => (.error (.numeralTooLong digits), [])
    | .error .tooDeep => (.error .tooDeep, [])
    | .ok document =>
      match firstTable? document candidate.tables with
      | none => (.ok none, [])
      | some (table, value) =>
        ((draftIn table candidate.file value).map some,
          [.using (tableName table) candidate.file.toText])

/-- What a candidate among files gives. A file that is not there or cannot be read gives nothing. -/
def look (room : Room) (files : FileTree) (candidate : Candidate) : Finding :=
  match files.probe true candidate.file with
  | .error obstacle => (.error (.barred obstacle), [])
  | .ok (some (.file _ _)) =>
    match files.read? candidate.file with
    | some bytes => consult room candidate bytes
    | none => (.ok none, [.skipped candidate.file.toText])
  | .ok _ => (.ok none, [])

/-- What the first candidate gives that gives anything. -/
def consultAll (room : Room) (files : FileTree) : List Candidate → Finding
  | [] => (.ok none, [])
  | candidate :: others =>
    match look room files candidate with
    | (.ok none, notices) =>
      let (found, later) := consultAll room files others
      (found, notices ++ later)
    | decided => decided

/-- The draft that holds for a directory: the nearest one, or the standard one if there is none. -/
def loadTelling (room : Room) (files : FileTree) (directory : Path) :
    Except Fault Draft × List Notice :=
  match files.resolve room.links directory with
  | .error fault => (.error (.unresolved fault), [])
  | .ok start =>
    let (found, notices) := consultAll room files (candidates start)
    (found.map fun draft? => draft?.getD Draft.standard, notices)

/-- The draft that holds for a directory. -/
def load (room : Room) (files : FileTree) (directory : Path) : Except Fault Draft :=
  (loadTelling room files directory).1

/-- Why there are no settings for a directory. -/
inductive BuildFault
  | unusable (fault : Fault)
  | refused (objection : Objection)
deriving DecidableEq

/-- The wording of a fault. -/
def BuildFault.message : BuildFault → Text
  | .unusable fault => fault.message
  | .refused objection => objection.message

/-- The draft for a directory with some values replaced. Values that are absent replace nothing. -/
def override (draft : Draft) (values : List (Setting × Setting.Value)) : Draft :=
  draft.putAll (values.filter fun entry => entry.2 ≠ .absent)

/-- A checked draft for a directory, with some values replaced. -/
def buildTelling (room : Room) (files : FileTree) (directory : Path)
    (values : List (Setting × Setting.Value)) :
    Except BuildFault (Draft × Settings) × List Notice :=
  let (found, notices) := loadTelling room files directory
  (match found with
    | .error fault => .error (.unusable fault)
    | .ok draft =>
      let draft := override draft values
      match draft.check with
      | .error objection => .error (.refused objection)
      | .ok settings => .ok (draft, settings), notices)

end PageMarkup.Search
