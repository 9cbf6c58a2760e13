import PageMarkup.Text.Basic

/-! Escaping for element content and attribute values: the five characters with a meaning of
their own in HTML are written as entities. -/

namespace PageMarkup.Text

/-- How a character is written in escaped text. -/
def escapeChar : Char → Text
  | '&' => "&amp;".toList
  | '<' => "&lt;".toList
  | '>' => "&gt;".toList
  | '"' => "&quot;".toList
  | '\'' => "&#x27;".toList
  | c => [c]

/-- The text with every special character as an entity. -/
def escape (text : Text) : Text := text.flatMap escapeChar

@[simp] theorem escape_nil : escape [] = [] := rfl

@[simp] theorem escape_append (a b : Text) : escape (a ++ b) = escape a ++ escape b := by
  simp [escape]

end PageMarkup.Text
