import PageMarkup.Files.Spelling

/-! Paths: where they begin, and the words between their slashes. Empty words and single dots are
left out; two dots stay, because where they lead depends on the links before them. -/

namespace PageMarkup

/-! ### Names and words -/

/-- Bytes that may be the name of something in a directory. -/
def Name.Proper (bytes : List UInt8) : Prop :=
  bytes ≠ [] ∧ bytes ≠ [0x2e] ∧ bytes ≠ [0x2e, 0x2e] ∧ 0 ∉ bytes ∧ 0x2f ∉ bytes

instance (bytes : List UInt8) : Decidable (Name.Proper bytes) :=
  inferInstanceAs (Decidable (_ ∧ _))

/-- The name of something in a directory. -/
structure Name where
  bytes : List UInt8
  proper : Name.Proper bytes
deriving DecidableEq

/-- The place of something: the names that lead to it from the root, without links on the way. -/
abbrev Location := List Name

/-- A spelling that may stand between slashes and is neither a dot nor two. -/
def Word.Proper (spelling : Spelling) : Prop :=
  spelling ≠ [] ∧ spelling ≠ [.char '.'] ∧ spelling ≠ [.char '.', .char '.'] ∧
    .char '/' ∉ spelling

instance (spelling : Spelling) : Decidable (Word.Proper spelling) :=
  inferInstanceAs (Decidable (_ ∧ _))

/-- A name in a path, as it is spelt there. -/
structure Word where
  spelling : Spelling
  proper : Word.Proper spelling
deriving DecidableEq

/-- The name that a word spells, if it spells one. -/
def Word.name? (word : Word) : Option Name :=
  if proper : Name.Proper word.spelling.encode then
    if word.spelling.isEncodable then some ⟨word.spelling.encode, proper⟩ else none
  else none

theorem Word.proper_decode {bytes : List UInt8} (proper : Name.Proper bytes) :
    Word.Proper (Spelling.decode bytes) := by
  have same := Spelling.encode_decode bytes
  obtain ⟨nonempty, ne_dot, ne_dots, -, slash⟩ := proper
  refine ⟨?_, ?_, ?_, fun mem => slash ?_⟩
  · exact fun spelt => nonempty (by rw [← same, spelt]; rfl)
  · exact fun spelt => ne_dot (by rw [← same, spelt]; decide)
  · exact fun spelt => ne_dots (by rw [← same, spelt]; decide)
  · rw [← same]
    exact Spelling.mem_encode mem rfl (by decide)

/-- The word that spells a name. -/
def Name.word (name : Name) : Word := ⟨Spelling.decode name.bytes, Word.proper_decode name.proper⟩

theorem Name.name?_word (name : Name) : name.word.name? = some name := by
  have same : name.word.spelling.encode = name.bytes := Spelling.encode_decode name.bytes
  have whole : name.word.spelling.isEncodable = true := Spelling.isEncodable_decode name.bytes
  rw [Word.name?, dif_pos (same ▸ name.proper), if_pos whole]
  simp only [same]

/-! ### Steps -/

/-- A step on a way through directories. -/
inductive Path.Step (α : Type)
  /-- Between two slashes, or behind the last one. -/
  | slash
  /-- A dot. -/
  | dot
  /-- Two dots. -/
  | up
  | down (name : α)
deriving DecidableEq

namespace Path.Step

/-- The step with its name in another form. -/
def map {α β : Type} (form : α → β) : Step α → Step β
  | .slash => .slash
  | .dot => .dot
  | .up => .up
  | .down name => .down (form name)

/-- The step that bytes without a slash stand for, if they stand for one. -/
def ofBytes? (bytes : List UInt8) : Option (Step Name) :=
  if bytes = [] then some .slash
  else if bytes = [0x2e] then some .dot
  else if bytes = [0x2e, 0x2e] then some .up
  else if proper : Name.Proper bytes then some (.down ⟨bytes, proper⟩)
  else none

end Path.Step

/-! ### Paths -/

/-- What stands between the slashes of a path. -/
inductive Path.Part
  /-- Two dots. -/
  | up
  | down (word : Word)
deriving DecidableEq

/-- A path. It begins at the root if it begins with a slash, and in the working directory if not.
Two slashes are kept at its beginning, more than two are one. -/
structure Path where
  slashes : Fin 3
  parts : List Path.Part
deriving DecidableEq

namespace Path

namespace Part

/-- What a part is spelt with. -/
def spelling : Part → Spelling
  | .up => [.char '.', .char '.']
  | .down word => word.spelling

/-- The part that stands between slashes, if it leads anywhere. -/
def ofSpelling? (spelling : Spelling) : Option Part :=
  if spelling = [.char '.', .char '.'] then some .up
  else if proper : Word.Proper spelling then some (.down ⟨spelling, proper⟩)
  else none

/-- The part as a step. -/
def step : Part → Step Word
  | .up => .up
  | .down word => .down word

/-- The step that the system takes for a part, if it can take one. -/
def step? : Part → Option (Step Name)
  | .up => some .up
  | .down word => word.name?.map .down

theorem slash_notMem_spelling (part : Part) : .char '/' ∉ part.spelling := by
  cases part with
  | up => decide
  | down word => exact word.proper.2.2.2

end Part

/-- How many slashes a path begins with, when so many are written. -/
def slashesFor : (written : Nat) → Fin 3
  | 0 => 0
  | 2 => 2
  | _ => 1

/-- The path with a spelling. -/
def ofSpelling (spelling : Spelling) : Path :=
  ⟨slashesFor (spelling.takeWhile (· = .char '/')).length,
    (spelling.splitOn (.char '/')).filterMap Part.ofSpelling?⟩

/-- The path that a text writes. -/
def ofText (text : Text) : Path := ofSpelling (.ofText text)

/-- The path to a place. -/
def ofLocation (location : Location) : Path := ⟨1, location.map fun name => .down name.word⟩

/-- The path begins at the root. -/
def fromRoot (path : Path) : Bool := path.slashes ≠ 0

/-- How a path is spelt. -/
def spelling (path : Path) : Spelling :=
  if !path.fromRoot && path.parts.isEmpty then [.char '.']
  else List.replicate path.slashes (.char '/') ++
    [.char '/'].intercalate (path.parts.map Part.spelling)

/-- A path as it is shown. -/
def toText (path : Path) : Text := path.spelling.shown

/-- The last part as it is spelt. -/
def name (path : Path) : Spelling := (path.parts.getLast?.map Part.spelling).getD []

/-- The path without its last part. -/
def parent (path : Path) : Path := { path with parts := path.parts.dropLast }

/-- One more part. -/
def child (path : Path) (part : Part) : Path := { path with parts := path.parts ++ [part] }

/-- One path after another, unless the second begins at the root. -/
def append (first second : Path) : Path :=
  if second.fromRoot then second else { first with parts := first.parts ++ second.parts }

/-- A path and those that are left when parts are taken from its end, nearest first. -/
def ancestors (path : Path) : List Path :=
  (List.range (path.parts.length + 1)).reverse.map fun count =>
    { path with parts := path.parts.take count }

/-- The path without two dots, which take back the part before them. -/
def collapse (path : Path) : Path :=
  let without (parts : List Part) : Part → List Part
    | .up => parts.dropLast
    | .down word => parts ++ [.down word]
  { path with parts := path.parts.foldl without [] }

/-- The end of a name from its last dot on; a dot at either end of the name does not count. -/
def suffixOf (name : Text) : Text :=
  let after := Text.afterLast '.' name
  if after.isEmpty || name.length ≤ after.length + 1 then [] else '.' :: after

/-- The suffix of the last part. -/
def suffix (path : Path) : Text := suffixOf path.name.shown

theorem slash_notMem_name (path : Path) : .char '/' ∉ path.name := by
  rw [name]
  cases path.parts.getLast? with
  | none => exact List.not_mem_nil
  | some part => exact part.slash_notMem_spelling

/-! ### What the system makes of a path -/

/-- Why a path is none for the system. -/
inductive Flaw
  /-- It holds the character that ends all names. -/
  | zeroCharacter
  /-- It holds halves that stand for no bytes. -/
  | unencodable (fault : Spelling.EncodeFault)
deriving DecidableEq

/-- The wording of a flaw. -/
def Flaw.message : Flaw → Text
  | .zeroCharacter => "embedded null byte".toList
  | .unencodable fault => fault.message

/-- The steps that the system takes on a path, unless it is none. -/
def steps (path : Path) : Except Flaw (List (Step Name)) :=
  if !path.fromRoot && path.parts.isEmpty then .ok [.dot]
  else
    match path.parts.mapM Part.step?, path.spelling.fault? 0 with
    | some steps, _ => .ok steps
    | none, none => .error .zeroCharacter
    | none, some fault => .error (.unencodable fault)

/-- Why the path is none, if it is none. -/
def flaw? (path : Path) : Option Flaw :=
  match path.steps with
  | .ok _ => none
  | .error flaw => some flaw

/-- How many bytes a path has. -/
def size (path : Path) : Nat := path.spelling.encode.length

end Path

end PageMarkup
