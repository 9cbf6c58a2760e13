import PageMarkup.Text.Basic

/-! Blank characters: the white space of the Unicode standard together with the four
information separators. Trimming removes them from the ends of a text. -/

namespace PageMarkup.Text

/-- White space. -/
def isWhite (c : Char) : Bool :=
  let n := c.toNat
  (0x09 ≤ n && n ≤ 0x0D) || n == 0x20 || n == 0x85 || n == 0xA0 || n == 0x1680 ||
    (0x2000 ≤ n && n ≤ 0x200A) || n == 0x2028 || n == 0x2029 || n == 0x202F || n == 0x205F ||
    n == 0x3000

/-- White space, or one of the separators U+001C to U+001F. -/
def isBlank (c : Char) : Bool := isWhite c || (0x1C ≤ c.toNat && c.toNat ≤ 0x1F)

/-- The text without the blanks at its end. -/
def trimEnd : Text → Text
  | [] => []
  | c :: text =>
    match trimEnd text with
    | [] => if isBlank c then [] else [c]
    | kept => c :: kept

/-- The text without the blanks at its start. -/
def trimStart (text : Text) : Text := text.dropWhile isBlank

/-- The text without the blanks at both ends. -/
def trim (text : Text) : Text := trimEnd (trimStart text)

/-- The text without the white space at both ends; separators stay. -/
def trimWhite (text : Text) : Text :=
  ((text.dropWhile isWhite).reverse.dropWhile isWhite).reverse

end PageMarkup.Text
