import PageMarkup.Toml.Document

/-! # Documents

In the table that a document describes no key stands twice, at any depth. What stands under a dotted
key can therefore be told without the order of the entries. -/

namespace PageMarkup.Toml

/-- No table in a value has a key twice. -/
inductive Value.Sound : Value → Prop
  | text (value : Text) : Sound (.text value)
  | integer (value : Int) : Sound (.integer value)
  | float : Sound .float
  | boolean (value : Bool) : Sound (.boolean value)
  | date : Sound .date
  | list {items : List Value} (sound : ∀ item ∈ items, Sound item) : Sound (.list items)
  | table {entries : Table} (distinct : (entries.map Prod.fst).Nodup)
      (sound : ∀ entry ∈ entries, Sound entry.2) : Sound (.table entries)

namespace Table

variable {table after : Table} {name : Text} {key : Key} {value : Value} {items : List Value}
  {throughLists : Bool} {change : Table → Option Table}

/-- No table in a table, itself included, has a key twice. -/
abbrev Sound (table : Table) : Prop := (Value.table table).Sound

theorem Sound.distinct (sound : Sound table) : (table.map Prod.fst).Nodup := by
  cases sound
  assumption

theorem Sound.values (sound : Sound table) : ∀ entry ∈ table, entry.2.Sound := by
  cases sound
  assumption

theorem sound_nil : Sound [] := .table List.nodup_nil nofun

theorem Sound.lookup (sound : Sound table) (found : table.lookup name = some value) :
    value.Sound := sound.values _ (Pairs.mem_of_lookup found)

theorem Sound.put (sound : Sound table) (new : value.Sound) :
    Sound (Pairs.put name value table) := by
  refine .table (Pairs.nodup_put sound.distinct) fun entry mem => ?_
  rcases Pairs.mem_put mem with rfl | mem
  · exact new
  · exact sound.values entry mem

theorem Sound.append (sound : Sound table) (free : table.lookup name = none) (new : value.Sound) :
    Sound (table ++ [(name, value)]) :=
  Pairs.put_of_notMem (Pairs.notMem_of_lookup free) ▸ sound.put new

/-! ## Changes -/

theorem sound_of_insert (sound : Sound table) (new : value.Sound)
    (inserted : insert name value table = some after) : Sound after := by
  rw [insert] at inserted
  split at inserted
  · next free =>
      cases inserted
      exact sound.append free new
  · cases inserted

theorem sound_of_extend (sound : Sound table) (extended : extend name table = some after) :
    Sound after := by
  rw [extend] at extended
  split at extended
  · next free =>
      cases extended
      refine sound.append free (.list fun item mem => ?_)
      rw [List.mem_singleton.mp mem]
      exact sound_nil
  · next items found =>
      cases extended
      refine sound.put (.list fun item mem => ?_)
      rcases List.mem_append.mp mem with mem | mem
      · cases sound.lookup found with
        | list old => exact old item mem
      · rw [List.mem_singleton.mp mem]
        exact sound_nil
  · cases extended

/-- A change that leaves tables sound does so wherever it is made. -/
theorem sound_of_modify
    (keeps : ∀ table after, Sound table → change table = some after → Sound after)
    (sound : Sound table) (modified : modify throughLists key change table = some after) :
    Sound after := by
  induction key generalizing table after with
  | nil => exact keeps table after sound modified
  | cons name key ih =>
      rw [modify] at modified
      split at modified
      · obtain ⟨inner, made, rfl⟩ := Option.map_eq_some_iff.mp modified
        exact sound.put (ih sound_nil made)
      · next found =>
          obtain ⟨inner, made, rfl⟩ := Option.map_eq_some_iff.mp modified
          exact sound.put (ih (sound.lookup found) made)
      · next items found =>
          split at modified
          · split at modified
            · next last =>
                obtain ⟨inner, made, rfl⟩ := Option.map_eq_some_iff.mp modified
                have old : ∀ item ∈ items, item.Sound := by
                  cases sound.lookup found with
                  | list old => exact old
                refine sound.put (.list fun item mem => ?_)
                rcases List.mem_append.mp mem with mem | mem
                · exact old item ((List.dropLast_sublist _).subset mem)
                · rw [List.mem_singleton.mp mem]
                  exact ih (old _ (List.mem_of_getLast? last)) made
            · cases modified
          · cases modified
      · cases modified

end Table

/-! ## Values -/

variable {table after : Table} {name : Text} {key : Key} {frozen : List Key} {value : Value}
  {text rest : Text}

theorem sound_of_addField (sound : Table.Sound table) (new : value.Sound)
    (added : addField frozen key value table = some after) : Table.Sound after := by
  rw [addField] at added
  split at added
  · cases added
  · split at added
    · cases added
    · exact Table.sound_of_modify (fun _ _ sound => Table.sound_of_insert sound new) sound added

theorem sound_of_readDate {read : Read Value} (dated : readDate? text = some read)
    (given : read = .ok (value, rest)) : value.Sound := by
  obtain ⟨⟨⟨year, month, day⟩, later⟩, -, rfl⟩ := Option.map_eq_some_iff.mp dated
  dsimp only at given
  split at given
  · repeat' split at given
    all_goals
      cases given
      exact .date
  · cases given

theorem sound_of_readBased (based : readBased? text = some (value, rest)) : value.Sound := by
  unfold readBased? at based
  split at based
  · obtain ⟨⟨base, isDigit⟩, -, read⟩ := Option.bind_eq_some_iff.mp based
    obtain ⟨⟨digits, later⟩, -, same⟩ := Option.map_eq_some_iff.mp read
    cases same
    exact .integer _
  · cases based

theorem sound_of_readDecimal {read : Read Value} (decimal : readDecimal? text = some read)
    (given : read = .ok (value, rest)) : value.Sound := by
  obtain ⟨⟨digits, later⟩, -, rfl⟩ := Option.map_eq_some_iff.mp decimal
  dsimp only at given
  split at given
  · cases given
    exact .float
  · cases given
    exact .float
  · split at given
    · cases given
    · cases given
      exact .integer _

theorem sound_of_readSpecial (special : readSpecial? text = some (value, rest)) : value.Sound := by
  obtain ⟨later, -, same⟩ := Option.map_eq_some_iff.mp special
  cases same
  exact .float

theorem sound_of_readScalar (read : readScalar text = .ok (value, rest)) : value.Sound := by
  rw [readScalar] at read
  split at read
  · cases given : readAnyString text with
    | error => rw [given] at read; cases read
    | ok pair =>
        rw [given] at read
        cases read
        exact .text _
  split at read
  · cases read
    exact .boolean true
  · cases read
    exact .boolean false
  split at read
  · next dated => exact sound_of_readDate dated read
  split at read
  · cases read
    exact .date
  split at read
  · next based =>
      cases read
      exact sound_of_readBased based
  split at read
  · next decimal => exact sound_of_readDecimal decimal read
  split at read
  · next special =>
      cases read
      exact sound_of_readSpecial special
  · cases read

/-- Lists and tables are made of what has been read. The induction is on the fuel, for the three
readers together. -/
theorem sound_of_reads (fuel : Nat) :
    (∀ room text value rest, readValue room fuel text = .ok (value, rest) → value.Sound) ∧
    (∀ room items text value rest, (∀ item ∈ items, item.Sound) →
      readItems room fuel items text = .ok (value, rest) → value.Sound) ∧
    ∀ room table frozen text value rest, Table.Sound table →
      readFields room fuel table frozen text = .ok (value, rest) → value.Sound := by
  induction fuel with
  | zero => exact ⟨nofun, nofun, nofun⟩
  | succ fuel ih =>
      obtain ⟨ofValue, ofItems, ofFields⟩ := ih
      refine ⟨fun room text value rest read => ?_, fun room items text value rest old read => ?_,
        fun room table frozen text value rest sound read => ?_⟩
      · unfold readValue at read
        split at read
        · split at read
          · cases read
          · exact ofItems _ [] _ _ _ nofun read
        · split at read
          · cases read
            exact Table.sound_nil
          · split at read
            · cases read
            · exact ofFields _ _ _ _ _ _ Table.sound_nil read
        · exact sound_of_readScalar read
      · rw [readItems] at read
        split at read
        · cases read
        · cases read
          exact .list old
        · split at read
          · cases read
          · next item later given =>
              have grown : ∀ member ∈ items ++ [item], member.Sound := by
                intro member mem
                rcases List.mem_append.mp mem with mem | mem
                · exact old member mem
                · rw [List.mem_singleton.mp mem]
                  exact ofValue _ _ _ _ given
              split at read
              · cases read
                exact .list grown
              · exact ofItems _ _ _ _ _ grown read
              · cases read
              · cases read
      · rw [readFields] at read
        split at read
        · cases read
        · split at read
          · cases read
          · next given =>
              have new := ofValue _ _ _ _ given
              split at read
              · next added _ =>
                  cases read
                  exact sound_of_addField sound new added
              · next added _ =>
                  exact ofFields _ _ _ _ _ _ (sound_of_addField sound new added) read
              · cases read

theorem sound_of_readValue {room fuel : Nat} (read : readValue room fuel text = .ok (value, rest)) :
    value.Sound := (sound_of_reads fuel).1 _ _ _ _ read

/-! ## Statements -/

namespace Draft

variable {draft next : Draft}

theorem sound_of_openTable (sound : draft.root.Sound) (opened : draft.openTable key = some next) :
    next.root.Sound := by
  rw [openTable] at opened
  split at opened
  · cases opened
  · obtain ⟨root, modified, rfl⟩ := Option.map_eq_some_iff.mp opened
    refine Table.sound_of_modify (fun _ _ sound same => ?_) sound modified
    cases same
    exact sound

theorem sound_of_openListed (sound : draft.root.Sound)
    (opened : draft.openListed key = some next) : next.root.Sound := by
  rw [openListed] at opened
  split at opened
  · cases opened
  · split at opened
    · cases opened
    · obtain ⟨root, modified, rfl⟩ := Option.map_eq_some_iff.mp opened
      exact Table.sound_of_modify (fun _ _ => Table.sound_of_extend) sound modified

theorem sound_of_assign (sound : draft.root.Sound) (new : value.Sound)
    (assigned : draft.assign key value = some next) : next.root.Sound := by
  rw [assign] at assigned
  split at assigned
  · cases assigned
  · split at assigned
    · cases assigned
    · obtain ⟨root, modified, rfl⟩ := Option.map_eq_some_iff.mp assigned
      exact Table.sound_of_modify (fun _ _ sound => Table.sound_of_insert sound new) sound modified

end Draft

variable {draft next : Draft}

theorem eq_some_of_orMalformed {draft? : Option Draft} {given : Text}
    (read : orMalformed draft? given = .ok (next, rest)) : draft? = some next := by
  unfold orMalformed at read
  split at read <;> cases read
  rfl

theorem sound_of_readStatement {room : Nat} (sound : draft.root.Sound)
    (read : readStatement room draft text = .ok (next, rest)) : next.root.Sound := by
  have settled : draft.settle.root.Sound := sound
  unfold readStatement at read
  split at read
  · split at read
    · exact Draft.sound_of_openListed settled (eq_some_of_orMalformed read)
    · cases read
    · cases read
  · split at read
    · exact Draft.sound_of_openTable settled (eq_some_of_orMalformed read)
    · cases read
    · cases read
  · cases read
    exact sound
  · split at read
    · cases read
      exact sound
    · split at read
      · cases read
      · split at read
        · cases read
        · next given =>
            exact Draft.sound_of_assign sound (sound_of_readValue given)
              (eq_some_of_orMalformed read)

theorem sound_of_readLines {room fuel : Nat} (sound : draft.root.Sound)
    (read : readLines room fuel draft text = .ok table) : table.Sound := by
  induction fuel generalizing draft text with
  | zero => cases read
  | succ fuel ih =>
      rw [readLines] at read
      split at read
      · cases read
      · next stated =>
          have kept := sound_of_readStatement sound stated
          split at read
          · cases read
          · cases read
            exact kept
          · exact ih kept read
          · cases read

/-- No table of a document has a key twice. -/
theorem sound_of_parse {room : Nat} (parsed : parse room text = .ok table) : table.Sound :=
  sound_of_readLines Table.sound_nil parsed

/-- A document of one line that assigns a value. -/
theorem parse_of_assignment {room : Nat} {document line written : Text} {c : Char} {key : Key}
    {value : Value} {draft : Draft} (begins : skipSpaces (joinLineEnds document) = c :: line)
    (plain : c ∉ ['[', '#', '\n']) (assigned : readAssignment (c :: line) = .ok (key, written))
    (read : readValue room (2 * written.length + 2) written = .ok (value, []))
    (added : Draft.assign key value {} = some draft) : parse room document = .ok draft.root := by
  simp only [List.mem_cons, List.not_mem_nil, or_false, not_or] at plain
  have stated : readStatement room {} (c :: line) = .ok (draft, []) := by
    unfold readStatement
    split
    · next same => exact absurd (List.cons.inj same).1 plain.1
    · next same => exact absurd (List.cons.inj same).1 plain.1
    · next same => cases same
    · next same =>
        cases same
        simp only [plain.2.1, plain.2.2, decide_false, Bool.or_self, Bool.false_eq_true, if_false,
          assigned, read, added, orMalformed]
  rw [parse, readLines, begins, stated]
  rfl

/-! ## Dotted keys -/

/-- A value stands under a dotted key, through tables only. -/
inductive Stands : Table → Key → Value → Prop
  | here {table : Table} {name : Text} {value : Value} (entry : (name, value) ∈ table) :
      Stands table [name] value
  | inside {table inner : Table} {name : Text} {key : Key} {value : Value}
      (entry : (name, .table inner) ∈ table) (later : Stands inner key value) :
      Stands table (name :: key) value

theorem stands_of_get? {part : Text} (found : Table.get? (part :: key) table = some value) :
    Stands table (part :: key) value := by
  induction key generalizing part table with
  | nil => exact .here (Pairs.mem_of_lookup found)
  | cons next key ih =>
      cases there : table.lookup part with
      | none => simp [Table.get?, there] at found
      | some entry =>
          cases entry with
          | table inner =>
              simp only [Table.get?, there] at found
              exact .inside (Pairs.mem_of_lookup there) (ih found)
          | text | integer | float | boolean | date | list => simp [Table.get?, there] at found

theorem Stands.get?_eq (stands : Stands table key value) (sound : table.Sound) :
    table.get? key = some value := by
  induction stands with
  | here entry => exact (Pairs.lookup_eq_some_iff_mem sound.distinct).mpr entry
  | @inside table inner name key value entry later ih =>
      have there := (Pairs.lookup_eq_some_iff_mem sound.distinct).mpr entry
      cases key with
      | nil => cases later
      | cons next key =>
          simp only [Table.get?, there]
          exact ih (sound.values _ entry)

theorem Stands.sound (stands : Stands table key value) (sound : table.Sound) : value.Sound := by
  induction stands with
  | here entry => exact sound.values _ entry
  | inside entry _ ih => exact ih (sound.values _ entry)

end PageMarkup.Toml
