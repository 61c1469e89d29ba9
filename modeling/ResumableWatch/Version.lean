import ResumableWatch.Number.Numeral
/-!
# Resource versions

A resource version is text that the server chose.  Servers redeliver old notifications, so of two
versions that are unsigned 32-bit numbers the larger one is kept; all other text is an unordered
token, and then the incoming one is kept as it is.
-/

namespace ResumableWatch.Version

open Number

/-- The version from which every live object is listed. -/
def origin : String := "0"

/-- The greatest number of 32 bits. -/
def greatest : Nat := Nat.pow 2 32 - 1

/-- Text of plain decimal digits, at least one. -/
def isDecimal (version : List Char) : Bool :=
  !version.isEmpty && version.all fun c => '0' ≤ c && c ≤ '9'

/-- The values of plain decimal digits. -/
def digits (version : List Char) : List Nat := version.map fun c => c.toNat - '0'.toNat

/-- The number of 32 bits that a version writes, if it writes one.  Digits of any number are read
before the range is looked at, so too many of them are a failure. -/
def number? (version : String) : Except NumeralError (Option Nat) :=
  if isDecimal version.toList then do
    let n ← wholeOfDigits (digits version.toList)
    return if n ≤ greatest then some n else none
  else return none

/-- The version to keep when `incoming` is seen after `current`. -/
def merge (current incoming : String) : Except NumeralError String := do
  match ← number? current, ← number? incoming with
  | some m, some n => return toString (max m n)
  | _, _ => return incoming

end ResumableWatch.Version
