import PageMarkup.Fault

/-! A cursor stands between what has been read of a source and what has not. Every reader
moves it forward over a stretch of the source, and `Reads` says over which. -/

namespace PageMarkup

/-- The part of the source still to be read, and how many characters stand before it. -/
structure Cursor where
  rest : Text
  offset : Nat
deriving DecidableEq

/-- A fault met while reading, and the place where reading stopped. -/
structure Stop where
  fault : Fault
  cursor : Cursor
deriving DecidableEq

/-- What a reader gives after a change of its result comes from what it gave before. -/
theorem Stop.eq_ok_of_map {α β : Type} {read : Except Stop α} {change : α → β} {result : β}
    (h : read.map change = .ok result) : ∃ given, read = .ok given ∧ change given = result := by
  cases read with
  | error stop => cases h
  | ok given => exact ⟨given, rfl, Except.ok.inj h⟩

/-- A change of the result changes no failure. -/
theorem Stop.eq_error_of_map {α β : Type} {read : Except Stop α} {change : α → β} {stop : Stop}
    (h : read.map change = .error stop) : read = .error stop := by
  cases read with
  | error met => exact congrArg Except.error (Except.error.inj h)
  | ok given => cases h

namespace Cursor

/-- The cursor before the first character of a source. -/
def start (source : Text) : Cursor := ⟨source, 0⟩

/-- Reading `read` leads from one cursor to another. -/
structure Reads (before : Cursor) (read : Text) (after : Cursor) : Prop where
  rest : before.rest = read ++ after.rest
  offset : after.offset = before.offset + read.length

/-- Blanks inside tags. -/
def isTagBlank (c : Char) : Bool := c = ' ' || c = '\t' || c = '\r' || c = '\n'

/-- A letter of the English alphabet: the name of a tag in the text begins with one. -/
def isTagStart (c : Char) : Bool := c.isAlpha

/-- The characters of names and of values without quotes. -/
def isNameChar (c : Char) : Bool := c.isAlphanum || c = '.' || c = '-' || c = '_'

/-- The longest run of characters with a property, which may be empty, and the cursor after it. -/
def span (p : Char → Bool) (cursor : Cursor) : Text × Cursor :=
  let run := cursor.rest.takeWhile p
  (run, ⟨cursor.rest.dropWhile p, cursor.offset + run.length⟩)

/-- Moves over blanks inside a tag. -/
def skipBlanks (cursor : Cursor) : Cursor := (cursor.span isTagBlank).2

/-- The longest run of name characters. -/
def word (cursor : Cursor) : Text × Cursor := cursor.span isNameChar

/-- Moves over `literal`, when it comes next. -/
def take? (cursor : Cursor) (literal : Text) : Option Cursor :=
  (Text.after? literal cursor.rest).map fun rest => ⟨rest, cursor.offset + literal.length⟩

/-- Stops here with a fault that shows here. -/
def stop (cursor : Cursor) (cause : Cause) : Stop := ⟨⟨cause, cursor.offset⟩, cursor⟩

/-- Moves over `literal`, which has to come next. -/
def expect (cursor : Cursor) (literal : Text) : Except Stop Cursor :=
  match cursor.take? literal with
  | some after => .ok after
  | none => .error (cursor.stop (.literalExpected literal))

/-- A word, which has to come next; `cause` is the fault if there is none. -/
def expectWord (cursor : Cursor) (cause : Cause) : Except Stop (Text × Cursor) :=
  match cursor.word with
  | ([], _) => .error (cursor.stop cause)
  | (c :: word, after) => .ok (c :: word, after)

/-! ### What is read -/

namespace Reads

theorem refl (cursor : Cursor) : cursor.Reads [] cursor := ⟨rfl, rfl⟩

theorem trans {a b c : Cursor} {x y : Text} (first : a.Reads x b) (second : b.Reads y c) :
    a.Reads (x ++ y) c :=
  ⟨by rw [first.rest, second.rest, List.append_assoc],
    by rw [second.offset, first.offset, List.length_append, Nat.add_assoc]⟩

theorem length_rest {a b : Cursor} {x : Text} (h : a.Reads x b) :
    a.rest.length = x.length + b.rest.length := by
  rw [h.rest, List.length_append]

/-- Reading something leaves less to read. -/
theorem shorter {a b : Cursor} {x : Text} (h : a.Reads x b) (nonempty : x ≠ []) :
    b.rest.length < a.rest.length := by
  have := h.length_rest
  have := List.length_pos_iff.mpr nonempty
  omega

end Reads

theorem reads_span (p : Char → Bool) (cursor : Cursor) :
    cursor.Reads (cursor.span p).1 (cursor.span p).2 :=
  ⟨List.takeWhile_append_dropWhile.symm, rfl⟩

theorem reads_skipBlanks (cursor : Cursor) : ∃ read, cursor.Reads read cursor.skipBlanks :=
  ⟨_, reads_span _ _⟩

theorem reads_word (cursor : Cursor) : cursor.Reads cursor.word.1 cursor.word.2 :=
  reads_span _ _

theorem reads_take? {cursor after : Cursor} {literal : Text}
    (h : cursor.take? literal = some after) : cursor.Reads literal after := by
  obtain ⟨rest, found, rfl⟩ := Option.map_eq_some_iff.mp h
  exact ⟨Text.after?_eq_some_iff.mp found, rfl⟩

theorem reads_expect {cursor after : Cursor} {literal : Text}
    (h : cursor.expect literal = .ok after) : cursor.Reads literal after := by
  unfold expect at h
  split at h
  · next found =>
      cases h
      exact reads_take? found
  · cases h

theorem reads_expectWord {cursor after : Cursor} {cause : Cause} {word : Text}
    (h : cursor.expectWord cause = .ok (word, after)) : word ≠ [] ∧ cursor.Reads word after := by
  have reads := cursor.reads_word
  unfold expectWord at h
  split at h
  · cases h
  · next found =>
      cases h
      rw [found] at reads
      exact ⟨by simp, reads⟩

end Cursor

end PageMarkup
