import PageMarkup.Toml.Scalar

/-! TOML documents. A document is read line by line into one table; headers and dotted keys may
add to tables that are already there, but nothing may be written twice, and lists and tables
written as values are complete. -/

namespace PageMarkup.Toml

/-- The text after all blanks, line ends and comments at its start; the fuel is the number of
comments that there may be. -/
def skipLines : Nat → Text → Except Fault Text
  | 0, _ => .error .malformed
  | fuel + 1, text =>
    match text.dropWhile fun c => isSpace c || c = '\n' with
    | '#' :: rest =>
      match skipComment ('#' :: rest) with
      | .ok rest => skipLines fuel rest
      | .error fault => .error fault
    | rest => .ok rest

/-- The text after blanks, line ends and comments inside a list. -/
def skipInList (text : Text) : Except Fault Text := skipLines (text.length + 1) text

/-- A key is closed to additions if it, or a table around it, was written as a value. -/
def isFrozen (frozen : List Key) (key : Key) : Bool := frozen.any (·.isPrefixOf key)

/-- A key with an equals sign, and the text at its value. -/
def readAssignment (text : Text) : Read Key :=
  match readKey text with
  | .error fault => .error fault
  | .ok (key, '=' :: rest) => .ok (key, skipSpaces rest)
  | .ok _ => .error .malformed

/-- Adds a value under a dotted key to a table that is being written as a value. -/
def addField (frozen : List Key) (key : Key) (value : Value) (table : Table) : Option Table :=
  if isFrozen frozen key then none
  else match key.getLast? with
    | none => none
    | some name => Table.modify false key.dropLast (Table.insert name value) table

/-- The room that a list takes for its items. -/
def listRoom : Nat := 2

/-- The room that a table takes for its values. -/
def tableRoom : Nat := 3

mutual

/-- A value, with so much room for values inside it. The fuel bounds how deep values stand inside
values and how many stand side by side; the length of the text is enough. -/
def readValue (room : Nat) : Nat → Text → Read Value
  | 0, _ => .error .malformed
  | fuel + 1, text =>
    match text with
    | '[' :: rest =>
      if room < listRoom then .error .tooDeep else readItems (room - listRoom) fuel [] rest
    | '{' :: rest =>
      match skipSpaces rest with
      | '}' :: rest => .ok (.table [], rest)
      | rest =>
        if room < tableRoom then .error .tooDeep
        else readFields (room - tableRoom) fuel [] [] rest
    | _ => readScalar text

/-- The rest of a list, after its opening bracket or a comma. -/
def readItems (room : Nat) : Nat → List Value → Text → Read Value
  | 0, _, _ => .error .malformed
  | fuel + 1, items, text =>
    match skipInList text with
    | .error fault => .error fault
    | .ok (']' :: rest) => .ok (.list items, rest)
    | .ok rest =>
      match readValue room fuel rest with
      | .error fault => .error fault
      | .ok (value, rest) =>
        match skipInList rest with
        | .ok (']' :: rest) => .ok (.list (items ++ [value]), rest)
        | .ok (',' :: rest) => readItems room fuel (items ++ [value]) rest
        | .ok _ => .error .malformed
        | .error fault => .error fault

/-- The rest of a table, at a key. -/
def readFields (room : Nat) : Nat → Table → List Key → Text → Read Value
  | 0, _, _, _ => .error .malformed
  | fuel + 1, table, frozen, text =>
    match readAssignment text with
    | .error fault => .error fault
    | .ok (key, rest) =>
      match readValue room fuel rest with
      | .error fault => .error fault
      | .ok (value, rest) =>
        match addField frozen key value table, skipSpaces rest with
        | some table, '}' :: rest => .ok (.table table, rest)
        | some table, ',' :: rest =>
          readFields room fuel table (if value.isContainer then key :: frozen else frozen)
            (skipSpaces rest)
        | _, _ => .error .malformed

end

/-- A document that is being read. -/
structure Draft where
  root : Table := []
  /-- The key of the header above. -/
  header : Key := []
  /-- Keys written as lists or tables. -/
  frozen : List Key := []
  /-- Keys of tables that no header may name again. -/
  declared : List Key := []
  /-- Keys that join those at the next header. -/
  pending : List Key := []

namespace Draft

/-- The tables that dotted keys have made can no longer be named by a header. -/
def settle (draft : Draft) : Draft :=
  { draft with declared := draft.pending ++ draft.declared, pending := [] }

/-- Begins a table. -/
def openTable (key : Key) (draft : Draft) : Option Draft :=
  if draft.declared.contains key || isFrozen draft.frozen key then none
  else (Table.modify true key some draft.root).map fun root =>
    { draft with root, header := key, declared := key :: draft.declared }

/-- Begins another table of a list of tables; what the table before it declared is free again. -/
def openListed (key : Key) (draft : Draft) : Option Draft :=
  if isFrozen draft.frozen key then none
  else
    match key.getLast? with
    | none => none
    | some name =>
      (Table.modify true key.dropLast (Table.extend name) draft.root).map fun root =>
        { draft with
          root
          header := key
          frozen := draft.frozen.filter fun other => !key.isPrefixOf other
          declared := key :: draft.declared.filter fun other => !key.isPrefixOf other }

/-- Adds a value under a dotted key to the table of the header above. -/
def assign (key : Key) (value : Value) (draft : Draft) : Option Draft :=
  let opened := (List.range key.length).tail.map fun count => draft.header ++ key.take count
  let parent := draft.header ++ key.dropLast
  if opened.any draft.declared.contains || isFrozen draft.frozen parent then none
  else match key.getLast? with
    | none => none
    | some name =>
      (Table.modify true parent (Table.insert name value) draft.root).map fun root =>
        { draft with
          root
          pending := opened ++ draft.pending
          frozen := if value.isContainer then (draft.header ++ key) :: draft.frozen
            else draft.frozen }

end Draft

/-- What a reader of an optional draft gives. -/
def orMalformed (draft? : Option Draft) (rest : Text) : Read Draft :=
  match draft? with
  | some draft => .ok (draft, rest)
  | none => .error .malformed

/-- A header or an assignment, or nothing, with so much room for values inside the value. -/
def readStatement (room : Nat) (draft : Draft) (text : Text) : Read Draft :=
  match text with
  | '[' :: '[' :: rest =>
    match readKey (skipSpaces rest) with
    | .ok (key, ']' :: ']' :: rest) => orMalformed (draft.settle.openListed key) rest
    | .ok _ => .error .malformed
    | .error fault => .error fault
  | '[' :: rest =>
    match readKey (skipSpaces rest) with
    | .ok (key, ']' :: rest) => orMalformed (draft.settle.openTable key) rest
    | .ok _ => .error .malformed
    | .error fault => .error fault
  | [] => .ok (draft, [])
  | c :: _ =>
    if c = '#' || c = '\n' then .ok (draft, text)
    else
      match readAssignment text with
      | .error fault => .error fault
      | .ok (key, rest) =>
        match readValue room (2 * rest.length + 2) rest with
        | .error fault => .error fault
        | .ok (value, rest) => orMalformed (draft.assign key value) rest

/-- The lines of a document; the fuel is their number. -/
def readLines (room : Nat) : Nat → Draft → Text → Except Fault Table
  | 0, _, _ => .error .malformed
  | fuel + 1, draft, text =>
    match readStatement room draft (skipSpaces text) with
    | .error fault => .error fault
    | .ok (draft, rest) =>
      match skipComment (skipSpaces rest) with
      | .error fault => .error fault
      | .ok [] => .ok draft.root
      | .ok ('\n' :: rest) => readLines room fuel draft rest
      | .ok _ => .error .malformed

/-- Line feeds after carriage returns stand for both. -/
def joinLineEnds : Text → Text
  | [] => []
  | '\r' :: '\n' :: text => '\n' :: joinLineEnds text
  | c :: text => c :: joinLineEnds text

/-- The table that a document describes, with so much room for values inside values. -/
def parse (room : Nat) (document : Text) : Except Fault Table :=
  let text := joinLineEnds document
  readLines room (text.length + 1) {} text

end PageMarkup.Toml
