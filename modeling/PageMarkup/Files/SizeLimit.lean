import PageMarkup.Text.Blank
import PageMarkup.Text.Digit
import PageMarkup.Text.Quoted

/-! The size limit for sources, which the environment may set to another number. -/

namespace PageMarkup.SizeLimit

/-- The variable of the environment that sets the limit. -/
def variableName : Text := "HTMLPLUSPLUS_MAX_FILE_SIZE".toList

/-- Why a value is no limit. -/
inductive Fault
  /-- It holds something else than digits, or is zero. -/
  | notPositive (value : Text)
  /-- It holds digits that are not decimal. -/
  | notDecimal (value : Text)
  /-- It begins with too many decimal digits. -/
  | tooLong (digits : Nat)
deriving DecidableEq

/-- The wording of a fault; at most two hundred characters of a value that is not decimal are
shown. -/
def Fault.message : Fault → Text
  | .notPositive value =>
    variableName ++ " must be a positive integer, got ".toList ++ Text.quoted value
  | .notDecimal value =>
    "invalid literal for int() with base 10: ".toList ++ (Text.quoted value).take 200
  | .tooLong digits => Text.tooManyDigits digits

/-- The limit: the value of the environment, or the one of the settings if that is not set or
blank. Digits of all scripts count. The decimal digits that a value begins with are counted before
it is read, so that too many of them are refused whatever follows. -/
def resolve (environment? : Option Text) (configured : Int) : Except Fault Int :=
  let value := Text.trim (environment?.getD [])
  if value.isEmpty then .ok configured
  else if !value.all Text.isDigit then .error (.notPositive value)
  else if Text.maxDigits < Text.countLeadingDigits value then
    .error (.tooLong (Text.countLeadingDigits value))
  else match Text.decimal? value with
    | none => .error (.notDecimal value)
    | some limit => if limit = 0 then .error (.notPositive value) else .ok limit

end PageMarkup.SizeLimit
