/-! Texts are lists of code points, so that every offset and length of the library counts
code points. Here are the cuts and joins that the other modules share. -/

namespace PageMarkup

/-- A text, one entry per code point. -/
abbrev Text := List Char

namespace Text

/-- The decimal digits of a natural number. -/
def ofNat (n : Nat) : Text := Nat.toDigits 10 n

/-- The decimal digits of an integer, after a minus sign when it is negative. -/
def ofInt : Int → Text
  | .ofNat n => ofNat n
  | .negSucc n => '-' :: ofNat (n + 1)

/-- A number that fits where lengths are kept, as a length or as less than one. -/
def isLength (n : Int) : Bool := -0x8000000000000000 ≤ n && n < 0x8000000000000000

/-- What follows `lead`, when the text begins with it. -/
def after? : (lead text : Text) → Option Text
  | [], text => some text
  | _ :: _, [] => none
  | a :: lead, b :: text => if a = b then after? lead text else none

/-- The text begins with `lead`. -/
def beginsWith (lead text : Text) : Bool := (after? lead text).isSome

/-- The text before the first occurrence of `mark`, and the rest from that occurrence on; the
rest is empty when there is none. -/
def breakOn (mark : Text) : Text → Text × Text
  | [] => ([], [])
  | c :: text =>
    if beginsWith mark (c :: text) then ([], c :: text)
    else ((c :: (breakOn mark text).1), (breakOn mark text).2)

/-- The pieces between the characters equal to `mark`: always one more than there are marks. -/
def splitOn (mark : Char) : Text → List Text
  | [] => [[]]
  | c :: text =>
    if c = mark then [] :: splitOn mark text
    else match splitOn mark text with
      | [] => [[c]]
      | piece :: pieces => (c :: piece) :: pieces

/-- The pieces with `mark` between neighbours. -/
def join (mark : Text) (pieces : List Text) : Text := mark.intercalate pieces

/-- What stands after the last `mark`, or the whole text when there is none. -/
def afterLast (mark : Char) (text : Text) : Text := ((splitOn mark text).getLast?).getD []

/-- Every character equal to `old` becomes `new`. -/
def replace (old : Char) (new : Text) (text : Text) : Text :=
  text.flatMap fun c => if c = old then new else [c]

/-- Order by code points, a text before its continuations. -/
def le (a b : Text) : Bool := !decide (b < a)

/-- Carriage returns, alone or before a line feed, become line feeds. -/
def unifyLineEnds : Text → Text
  | [] => []
  | '\r' :: '\n' :: text => '\n' :: unifyLineEnds text
  | c :: text => (if c = '\r' then '\n' else c) :: unifyLineEnds text

/-- ASCII capitals become small letters. -/
def toLower (text : Text) : Text := text.map Char.toLower

/-! ### Laws -/

theorem le_iff {a b : Text} : le a b = true ↔ List.instLE.le a b := by
  rw [le, Bool.not_eq_true', decide_eq_false_iff_not]
  exact Iff.rfl

theorem le_trans (a b c : Text) (first : le a b = true) (second : le b c = true) :
    le a c = true := le_iff.mpr (List.le_trans (le_iff.mp first) (le_iff.mp second))

theorem le_total (a b : Text) : (le a b || le b a) = true := by
  rw [Bool.or_eq_true, le_iff, le_iff]
  exact List.le_total a b

theorem le_antisymm {a b : Text} (first : le a b = true) (second : le b a = true) : a = b :=
  List.le_antisymm (le_iff.mp first) (le_iff.mp second)

/-- A run of characters with a property ends before the first character without it. -/
theorem takeWhile_append_of_ends {p : Char → Bool} {run rest : Text}
    (belong : ∀ c ∈ run, p c = true) (ends : ∀ c ∈ rest.head?, p c = false) :
    (run ++ rest).takeWhile p = run ∧ (run ++ rest).dropWhile p = rest := by
  rw [List.takeWhile_append_of_pos belong, List.dropWhile_append_of_pos belong]
  cases rest with
  | nil => simp
  | cons c rest => simp [ends c rfl]

theorem after?_eq_some_iff {lead text rest : Text} :
    after? lead text = some rest ↔ text = lead ++ rest := by
  induction lead generalizing text with
  | nil => simp [after?]
  | cons a lead ih =>
      cases text with
      | nil => simp [after?]
      | cons b text =>
          by_cases h : a = b
          · simp [after?, h, ih]
          · simp [after?, h, Ne.symm h]

theorem length_after? {lead text rest : Text} (h : after? lead text = some rest) :
    text.length = lead.length + rest.length := by
  rw [after?_eq_some_iff.mp h, List.length_append]

theorem breakOn_append (mark text : Text) :
    (breakOn mark text).1 ++ (breakOn mark text).2 = text := by
  induction text with
  | nil => rfl
  | cons c text ih =>
      by_cases h : beginsWith mark (c :: text) = true
      · simp [breakOn, h]
      · simp [breakOn, h, ih]

/-- The cut is at an occurrence of the mark, or at the end. -/
theorem breakOn_rest (mark text : Text) :
    (breakOn mark text).2 = [] ∨ beginsWith mark (breakOn mark text).2 = true := by
  induction text with
  | nil => exact .inl rfl
  | cons c text ih =>
      by_cases h : beginsWith mark (c :: text) = true
      · exact .inr (by simp [breakOn, h])
      · simpa [breakOn, h] using ih

end Text

end PageMarkup
