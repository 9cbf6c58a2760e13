import PageMarkup.Text.Printable

/-! Quoted texts: a text between quotes, with an escape for everything that would not show. -/

namespace PageMarkup.Text

/-- The last `width` hexadecimal digits of a number. -/
def hexDigits : (width number : Nat) → Text
  | 0, _ => []
  | width + 1, number => hexDigits width (number / 16) ++ [Nat.digitChar (number % 16)]

/-- How a character is written between `quote`s: quotes and backslashes after a backslash, line
ends and tabs by their letters, what does not show by its number in two, four or eight digits. -/
def quoteChar (quote c : Char) : Text :=
  if c = quote || c = '\\' then ['\\', c]
  else if c = '\n' then "\\n".toList
  else if c = '\r' then "\\r".toList
  else if c = '\t' then "\\t".toList
  else if isPrintable c then [c]
  else if c.toNat ≤ 0xFF then "\\x".toList ++ hexDigits 2 c.toNat
  else if c.toNat ≤ 0xFFFF then "\\u".toList ++ hexDigits 4 c.toNat
  else "\\U".toList ++ hexDigits 8 c.toNat

/-- Single quotes stand around a text unless it holds one and no double quote. -/
def quoteFor (text : Text) : Char :=
  if text.contains '\'' && !text.contains '"' then '"' else '\''

/-- The text between quotes. -/
def quoted (text : Text) : Text :=
  quoteFor text :: text.flatMap (quoteChar (quoteFor text)) ++ [quoteFor text]

end PageMarkup.Text
