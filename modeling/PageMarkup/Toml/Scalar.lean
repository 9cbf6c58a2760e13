import PageMarkup.Text.Digit
import PageMarkup.Toml.Value

/-! Reading TOML strings, numbers, dates and keys. Every reader gives what it read and the text
after it. -/

namespace PageMarkup.Toml

/-- What a reader gives. -/
abbrev Read (α : Type) := Except Fault (α × Text)

/-- Spaces and tabs. -/
def isSpace (c : Char) : Bool := c = ' ' || c = '\t'

/-- The text after the spaces and tabs at its start. -/
def skipSpaces (text : Text) : Text := text.dropWhile isSpace

/-- Control characters may not appear in a document, except tabs and, where lines may end, line
ends. -/
def isForbidden (multiline : Bool) (c : Char) : Bool :=
  (c.toNat < 0x20 || c.toNat = 0x7F) && c ≠ '\t' && !(multiline && c = '\n')

/-- The text after a comment, if it begins with one. -/
def skipComment : Text → Except Fault Text
  | '#' :: text =>
    if (text.takeWhile (· ≠ '\n')).any (isForbidden false) then .error .malformed
    else .ok (text.dropWhile (· ≠ '\n'))
  | text => .ok text

/-! ### Strings -/

/-- The number that hexadecimal digits write. -/
def hexValue? (digits : Text) : Option Nat :=
  digits.foldl (fun value? c => value?.bind fun value =>
    if c.isDigit then some (16 * value + (c.toNat - 0x30))
    else if 'a' ≤ c && c ≤ 'f' then some (16 * value + (c.toNat - 0x57))
    else if 'A' ≤ c && c ≤ 'F' then some (16 * value + (c.toNat - 0x37))
    else none) (some 0)

/-- A character given by its number in so many hexadecimal digits. -/
def readCodePoint (width : Nat) (text : Text) : Read Text :=
  let digits := text.take width
  match hexValue? digits with
  | none => .error .malformed
  | some value =>
    if digits.length = width && (value < 0xD800 || 0xDFFF < value && value < 0x110000) then
      .ok ([Char.ofNat value], text.drop width)
    else .error .malformed

/-- The text after the end of a line that a backslash has hidden, and after all blanks that
follow it; only blanks may stand before that end. -/
def skipHiddenEnd (text : Text) : Read Text :=
  match skipSpaces text with
  | [] => .ok ([], [])
  | c :: rest =>
    if c = '\n' then .ok ([], rest.dropWhile fun c => isSpace c || c = '\n') else .error .malformed

/-- What the characters after a backslash stand for. -/
def readEscape (multiline : Bool) : Text → Read Text
  | [] => .error .malformed
  | c :: text =>
    if multiline && (isSpace c || c = '\n') then skipHiddenEnd (c :: text)
    else match c with
      | 'u' => readCodePoint 4 text
      | 'U' => readCodePoint 8 text
      | 'b' => .ok (['\x08'], text)
      | 't' => .ok (['\t'], text)
      | 'n' => .ok (['\n'], text)
      | 'f' => .ok (['\x0c'], text)
      | 'r' => .ok (['\r'], text)
      | '"' => .ok (['"'], text)
      | '\\' => .ok (['\\'], text)
      | _ => .error .malformed

/-- The rest of a string in double quotes, or in three of them if it may have several lines. The
fuel is the number of characters and escapes that the string may have. -/
def readBasic (multiline : Bool) : Nat → Text → Read Text
  | 0, _ => .error .malformed
  | _ + 1, [] => .error .malformed
  | fuel + 1, c :: text =>
    if c = '"' then
      if !multiline then .ok ([], text)
      else match Text.after? ['"', '"'] text with
        | some rest => .ok ([], rest)
        | none => (readBasic multiline fuel text).map fun (value, rest) => (c :: value, rest)
    else if c = '\\' then
      match readEscape multiline text with
      | .error fault => .error fault
      | .ok (piece, rest) =>
        (readBasic multiline fuel rest).map fun (value, rest) => (piece ++ value, rest)
    else if isForbidden multiline c then .error .malformed
    else (readBasic multiline fuel text).map fun (value, rest) => (c :: value, rest)

/-- The rest of a string without escapes, up to its closing quotes. -/
def readLiteral (quotes : Text) (text : Text) : Read Text :=
  let (value, rest) := Text.breakOn quotes text
  match Text.after? quotes rest with
  | none => .error .malformed
  | some rest =>
    if value.any (isForbidden (1 < quotes.length)) then .error .malformed else .ok (value, rest)

/-- The text without a line end at its start. -/
def skipFirstEnd (text : Text) : Text := (Text.after? ['\n'] text).getD text

/-- Up to two quotes before the closing ones belong to the string. -/
def takeQuotes (quote : Char) (value text : Text) : Text × Text :=
  match Text.after? [quote] text with
  | none => (value, text)
  | some text =>
    match Text.after? [quote] text with
    | none => (value ++ [quote], text)
    | some text => (value ++ [quote, quote], text)

/-- A string on one line, by the quote that it begins with. -/
def readString : Text → Read Text
  | '"' :: text => readBasic false (text.length + 1) text
  | '\'' :: text => readLiteral ['\''] text
  | _ => .error .malformed

/-- A string on one line or, within three quotes, on several. -/
def readAnyString (text : Text) : Read Text :=
  match Text.after? ['"', '"', '"'] text, Text.after? ['\'', '\'', '\''] text with
  | some rest, _ =>
    (readBasic true (rest.length + 1) (skipFirstEnd rest)).map fun (value, rest) =>
      takeQuotes '"' value rest
  | none, some rest =>
    (readLiteral ['\'', '\'', '\''] (skipFirstEnd rest)).map fun (value, rest) =>
      takeQuotes '\'' value rest
  | none, none => readString text

/-! ### Keys -/

/-- Characters of keys without quotes. -/
def isBareKeyChar (c : Char) : Bool := c.isAlphanum || c = '-' || c = '_'

/-- One part of a key. -/
def readKeyPart (text : Text) : Read Text :=
  match text.takeWhile isBareKeyChar with
  | [] => readString text
  | c :: name => .ok (c :: name, text.dropWhile isBareKeyChar)

/-- A dotted key and the spaces after it; the fuel is the number of parts that it may have. -/
def readKeyParts : Nat → Text → Read Key
  | 0, _ => .error .malformed
  | fuel + 1, text =>
    match readKeyPart text with
    | .error fault => .error fault
    | .ok (part, rest) =>
      match skipSpaces rest with
      | '.' :: rest =>
        (readKeyParts fuel (skipSpaces rest)).map fun (key, rest) => (part :: key, rest)
      | rest => .ok ([part], rest)

/-- A dotted key and the spaces after it. -/
def readKey (text : Text) : Read Key := readKeyParts (text.length + 1) text

/-! ### Numbers -/

/-- Digits of a kind, single underscores between them left out, and the text after them. -/
def digitRun (p : Char → Bool) : Text → Text × Text
  | [] => ([], [])
  | c :: text =>
    if p c then (c :: (digitRun p text).1, (digitRun p text).2)
    else if c = '_' then
      match text with
      | [] => ([], [c])
      | d :: text =>
        if p d then (d :: (digitRun p text).1, (digitRun p text).2) else ([], c :: d :: text)
    else ([], c :: text)

/-- Digits of a kind, at least one of them and that one first. -/
def digits? (p : Char → Bool) : Text → Option (Text × Text)
  | [] => none
  | c :: text => if p c then some (digitRun p (c :: text)) else none

/-- The digits of the base that a letter after a zero announces. -/
def baseDigits? : Char → Option (Nat × (Char → Bool))
  | 'x' => some (16, fun c => (hexValue? [c]).isSome)
  | 'o' => some (8, fun c => '0' ≤ c && c ≤ '7')
  | 'b' => some (2, fun c => c = '0' || c = '1')
  | _ => none

/-- The number that digits write in a base. -/
def digitsValue (base : Nat) (digits : Text) : Nat :=
  digits.foldl (fun value c => base * value + (hexValue? [c]).getD 0) 0

/-- An integer with its base given. -/
def readBased? : Text → Option (Value × Text)
  | '0' :: letter :: text =>
    (baseDigits? letter).bind fun (base, isDigit) =>
      (digits? isDigit text).map fun (digits, rest) => (.integer (digitsValue base digits), rest)
  | _ => none

/-- The sign at the start, as a factor, and the text after it. -/
def readSign : Text → Int × Text
  | '-' :: text => (-1, text)
  | '+' :: text => (1, text)
  | text => (1, text)

/-- The digits before the point: a zero alone, or digits that do not begin with a zero. -/
def wholePart? : Text → Option (Text × Text)
  | '0' :: text => some (['0'], text)
  | text => digits? Char.isDigit text

/-- The text after a point and digits, if it begins with them. -/
def afterFraction? : Text → Option Text
  | '.' :: text => (digits? Char.isDigit text).map Prod.snd
  | _ => none

/-- The text after an exponent, if it begins with one. -/
def afterExponent? : Text → Option Text
  | 'e' :: text => (digits? Char.isDigit (readSign text).2).map Prod.snd
  | 'E' :: text => (digits? Char.isDigit (readSign text).2).map Prod.snd
  | _ => none

/-- A decimal number: an integer, unless a fraction or an exponent follows. -/
def readDecimal? (text : Text) : Option (Read Value) :=
  let (sign, unsigned) := readSign text
  (wholePart? unsigned).map fun (digits, rest) =>
    match afterFraction? rest, afterExponent? rest with
    | some rest, _ => .ok (.float, (afterExponent? rest).getD rest)
    | none, some rest => .ok (.float, rest)
    | none, none =>
      if Text.maxDigits < digits.length then .error (.numeralTooLong digits.length)
      else .ok (.integer (sign * digitsValue 10 digits), rest)

/-- The words for numbers that are infinite or none. -/
def readSpecial? (text : Text) : Option (Value × Text) :=
  let unsigned := (readSign text).2
  ((Text.after? "inf".toList unsigned).or (Text.after? "nan".toList unsigned)).map
    fun rest => (.float, rest)

/-! ### Dates -/

/-- So many decimal digits as a number. -/
def fixed? (width : Nat) (text : Text) : Option (Nat × Text) :=
  let digits := text.take width
  if digits.length = width && digits.all Char.isDigit then
    some (digitsValue 10 digits, text.drop width)
  else none

/-- The text after a time of day, if it begins with one. -/
def afterTime? (text : Text) : Option Text := do
  let (hour, rest) ← fixed? 2 text
  let (minute, rest) ← fixed? 2 (← Text.after? [':'] rest)
  let (second, rest) ← fixed? 2 (← Text.after? [':'] rest)
  if hour < 24 && minute < 60 && second < 60 then
    match rest with
    | '.' :: c :: fraction =>
      some (if c.isDigit then fraction.dropWhile Char.isDigit else rest)
    | _ => some rest
  else none

/-- The text after the distance from universal time, if one is given. -/
def afterOffset (text : Text) : Text :=
  let numeric? : Option Text := do
    let sign ← text.head?
    let (hour, rest) ← fixed? 2 text.tail
    let (minute, rest) ← fixed? 2 (← Text.after? [':'] rest)
    if (sign = '+' || sign = '-') && hour < 24 && minute < 60 then some rest else none
  match text with
  | 'Z' :: rest => rest
  | 'z' :: rest => rest
  | _ => numeric?.getD text

/-- The number of days of a month. -/
def daysIn (year month : Nat) : Nat :=
  if month = 2 then
    if year % 4 = 0 && (year % 100 ≠ 0 || year % 400 = 0) then 29 else 28
  else if month = 4 || month = 6 || month = 9 || month = 11 then 30
  else 31

/-- A year, a month and a day that have the form of a date. -/
def readDay? (text : Text) : Option ((Nat × Nat × Nat) × Text) := do
  let (year, rest) ← fixed? 4 text
  let (month, rest) ← fixed? 2 (← Text.after? ['-'] rest)
  let (day, rest) ← fixed? 2 (← Text.after? ['-'] rest)
  if 1 ≤ month && month ≤ 12 && 1 ≤ day && day ≤ 31 then some ((year, month, day), rest)
  else none

/-- A date, with a time of day if one follows; its day has to be in the calendar. -/
def readDate? (text : Text) : Option (Read Value) :=
  (readDay? text).map fun ((year, month, day), rest) =>
    if 0 < year && day ≤ daysIn year month then
      match rest with
      | [] => .ok (.date, [])
      | c :: time =>
        if c = 'T' || c = 't' || c = ' ' then
          match afterTime? time with
          | some rest => .ok (.date, afterOffset rest)
          | none => .ok (.date, c :: time)
        else .ok (.date, c :: time)
    else .error .malformed

/-- A value that is neither a list nor a table. -/
def readScalar (text : Text) : Read Value :=
  if text.head?.any fun c => c = '"' || c = '\'' then
    (readAnyString text).map fun (value, rest) => (.text value, rest)
  else match Text.after? "true".toList text, Text.after? "false".toList text with
    | some rest, _ => .ok (.boolean true, rest)
    | none, some rest => .ok (.boolean false, rest)
    | none, none =>
      match readDate? text with
      | some read => read
      | none =>
        match afterTime? text with
        | some rest => .ok (.date, rest)
        | none =>
          match readBased? text with
          | some read => .ok read
          | none =>
            match readDecimal? text with
            | some read => read
            | none =>
              match readSpecial? text with
              | some read => .ok read
              | none => .error .malformed

end PageMarkup.Toml
