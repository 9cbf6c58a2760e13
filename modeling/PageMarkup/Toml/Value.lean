import PageMarkup.Pairs
import PageMarkup.Text.Basic

/-! TOML values and tables. Of numbers with a fraction and of dates only the kind is kept,
because nothing asks for more. -/

namespace PageMarkup.Toml

/-- A value. -/
inductive Value
  | text (value : Text)
  | integer (value : Int)
  | float
  | boolean (value : Bool)
  | date
  | list (items : List Value)
  | table (entries : List (Text × Value))

/-- Values by their keys. -/
abbrev Table := List (Text × Value)

/-- The parts of a dotted key. -/
abbrev Key := List Text

/-- Why a text is not a TOML document. -/
inductive Fault
  /-- It breaks the rules of the format. -/
  | malformed
  /-- A decimal integer has too many digits. -/
  | numeralTooLong (digits : Nat)
  /-- Values stand inside values too many times over. -/
  | tooDeep
deriving DecidableEq

/-- A list or a table: once written it cannot grow. -/
def Value.isContainer : Value → Bool
  | .list _ | .table _ => true
  | _ => false

namespace Table

/-- Changes the table under a key, which is made if it is missing. A list of tables stands for
its last table if `throughLists` holds; any other value in the way is refused. -/
def modify (throughLists : Bool) : Key → (Table → Option Table) → Table → Option Table
  | [], change, table => change table
  | name :: key, change, table =>
    match table.lookup name with
    | none => (modify throughLists key change []).map fun inner =>
        Pairs.put name (.table inner) table
    | some (.table inner) => (modify throughLists key change inner).map fun inner =>
        Pairs.put name (.table inner) table
    | some (.list items) =>
      if throughLists then
        match items.getLast? with
        | some (.table inner) => (modify throughLists key change inner).map fun inner =>
            Pairs.put name (.list (items.dropLast ++ [.table inner])) table
        | _ => none
      else none
    | some _ => none

/-- Adds a value under a name that has none. -/
def insert (name : Text) (value : Value) (table : Table) : Option Table :=
  match table.lookup name with
  | none => some (table ++ [(name, value)])
  | some _ => none

/-- Adds an empty table to the list of tables under a name. -/
def extend (name : Text) (table : Table) : Option Table :=
  match table.lookup name with
  | none => some (table ++ [(name, .list [.table []])])
  | some (.list items) => some (Pairs.put name (.list (items ++ [.table []])) table)
  | some _ => none

/-- The value under a dotted key, through tables only. -/
def get? : Key → Table → Option Value
  | [], table => some (.table table)
  | name :: key, table =>
    match key, table.lookup name with
    | [], found => found
    | _ :: _, some (.table inner) => get? key inner
    | _ :: _, _ => none

end Table

end PageMarkup.Toml
