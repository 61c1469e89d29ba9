import ResumableWatch.Number.Double
import ResumableWatch.Text.Blank
import ResumableWatch.Text.Digit
import ResumableWatch.Text.Quoted
/-!
# Numbers read from text

A numeral may stand between blanks, may have a sign, may use the decimal digits of any script, and
may have single underscores between its digits.  A whole number has at most 4300 digits; a
fractional one may also be an infinity or not a number.

`integer` and `double` read such text; the causes of a failure are `NumeralError`.
-/

namespace ResumableWatch.Number

open Text

/-- Why text is no number. -/
inductive NumeralError where
  /-- Not of the form of a whole number. -/
  | notWhole (source : String)
  /-- A whole number of too many digits. -/
  | tooLong (digits : Nat)
  /-- Not of the form of a number. -/
  | notNumber (source : String)
  deriving DecidableEq

/-- The greatest number of digits of a whole number. -/
def digitLimit : Nat := 4300

/-- What a message says about the failure; a whole text is shown up to 200 characters. -/
def NumeralError.message : NumeralError → String
  | .notWhole source =>
    "invalid literal for int() with base 10: " ++ String.ofList ((quoted source).toList.take 200)
  | .tooLong digits =>
    "Exceeds the limit (4300 digits) for integer string conversion: value has " ++ toString digits
      ++ " digits; use sys.set_int_max_str_digits() to increase the limit"
  | .notNumber source => "could not convert string to float: " ++ quoted source

/-- The number written by decimal digits. -/
def ofDigits (digits : List Nat) : Nat := digits.foldl (fun n d => 10 * n + d) 0

/-- The whole number written by decimal digits, unless there are too many of them. -/
def wholeOfDigits (digits : List Nat) : Except NumeralError Nat :=
  if digits.length ≤ digitLimit then .ok (ofDigits digits) else .error (.tooLong digits.length)

/-- A sign, if there is one, and what follows it. -/
def splitSign : List Char → Bool × List Char
  | '-' :: rest => (true, rest)
  | '+' :: rest => (false, rest)
  | rest => (false, rest)

/-- Whether the text goes on with a digit. -/
def startsWithDigit : List Char → Bool
  | [] => false
  | c :: _ => (digitValue? c).isSome

/-- The digits at the front of the text and the rest, where a digit or nothing stood before: an
underscore has to be followed by a digit. -/
def moreDigits : List Char → Option (List Nat × List Char)
  | [] => some ([], [])
  | c :: rest =>
    match digitValue? c with
    | some d => (moreDigits rest).map fun (digits, tail) => (d :: digits, tail)
    | none =>
      if c = '_' then if startsWithDigit rest then moreDigits rest else none
      else some ([], c :: rest)

/-- The digits at the front of the text and the rest; single underscores may stand between two
digits.  A run that begins or ends with an underscore, or has two in a row, is refused. -/
def digitRun (s : List Char) : Option (List Nat × List Char) :=
  if s.head? = some '_' then none else moreDigits s

/-- The whole number that the text writes. -/
def integer (source : String) : Except NumeralError Int :=
  let (negative, body) := splitSign (strip isBlank source.toList)
  match digitRun body with
  | none => .error (.notWhole source)
  | some (digits, rest) => do
    let n ← wholeOfDigits digits
    if digits.isEmpty || !rest.isEmpty then .error (.notWhole source)
    else .ok (if negative then -(n : Int) else n)

/-! ### Fractional numbers -/

/-- The parts of a decimal number: whole digits, fraction digits, and a power of ten. -/
structure Decimal where
  whole : List Nat
  fraction : List Nat
  exponent : Int
  deriving DecidableEq

/-- The number of double precision nearest to a decimal. -/
def Decimal.toDouble (d : Decimal) (negative : Bool) : Double :=
  Double.ofDecimal negative (ofDigits (d.whole ++ d.fraction)) (d.exponent - d.fraction.length)

/-- An exponent part at the front of the text, or the exponent zero, and what follows. -/
def exponentPart (s : List Char) : Option (Int × List Char) :=
  match s with
  | c :: rest =>
    if c = 'e' ∨ c = 'E' then
      let (negative, body) := splitSign rest
      match digitRun body with
      | none => none
      | some ([], _) => some (0, s)
      | some (digits, after) =>
        some (if negative then -(ofDigits digits : Int) else ofDigits digits, after)
    else some (0, s)
  | [] => some (0, [])

/-- Decimal digits with at most one point and an exponent; something has to be left of or right of
the point, and nothing may follow. -/
def decimal? (s : List Char) : Option Decimal := do
  let (whole, rest) ← digitRun s
  let (fraction, rest) ← match rest with
    | '.' :: after => digitRun after
    | _ => some ([], rest)
  if whole.isEmpty && fraction.isEmpty then none
  else
    let (exponent, rest) ← exponentPart rest
    if rest.isEmpty then some { whole, fraction, exponent } else none

/-- The number of double precision that the text writes. -/
def double (source : String) : Except NumeralError Double :=
  let (negative, body) := splitSign (strip isBlank source.toList)
  let word := String.ofList (body.map Char.toLower)
  if word = "inf" ∨ word = "infinity" then .ok (.infinite negative)
  else if word = "nan" then .ok .nan
  else
    match decimal? body with
    | some d => .ok (d.toDouble negative)
    | none => .error (.notNumber source)

end ResumableWatch.Number
