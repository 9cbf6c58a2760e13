import PageMarkup.Text.Basic

/-! Control sequences, by which a text tells a terminal to change colours or move about. A text
that is not for a terminal goes without them. -/

namespace PageMarkup.Text

/-- The characters of the first part of a control sequence, its parameters. -/
def isParameter (c : Char) : Bool := '0' ≤ c && c ≤ '?'

/-- The characters between the parameters and the end. -/
def isIntermediate (c : Char) : Bool := ' ' ≤ c && c ≤ '/'

/-- The character that ends a control sequence and says what to do. -/
def isFinal (c : Char) : Bool := '@' ≤ c && c ≤ '~'

/-- How a control sequence begins: with an escape and a bracket. -/
def controlStart : Text := ['\x1b', '[']

/-- The text after a control sequence, when it begins with one that is complete. -/
def afterControl? (text : Text) : Option Text :=
  match after? controlStart text with
  | none => none
  | some inside =>
    match (inside.dropWhile isParameter).dropWhile isIntermediate with
    | [] => none
    | c :: rest => if isFinal c then some rest else none

theorem length_afterControl? {text rest : Text} (h : afterControl? text = some rest) :
    rest.length < text.length := by
  unfold afterControl? at h
  split at h
  · cases h
  next inside start =>
  have whole := length_after? start
  have first := (inside.dropWhile_suffix isParameter).length_le
  have second := ((inside.dropWhile isParameter).dropWhile_suffix isIntermediate).length_le
  split at h
  · cases h
  next c after ends =>
  split at h
  · cases h
    rw [ends, List.length_cons] at second
    omega
  · cases h

/-- The text without its control sequences. What stands around one is not joined to another. -/
def withoutControls (text : Text) : Text :=
  match _found : afterControl? text with
  | some rest => withoutControls rest
  | none =>
    match text with
    | [] => []
    | c :: text => c :: withoutControls text
termination_by text.length
decreasing_by
  · exact length_afterControl? _found
  · simp

end PageMarkup.Text
