import ResumableWatch.Json.Value
import ResumableWatch.Number.Shortest
import ResumableWatch.Text.Quoted
/-!
# Writing JSON text

Plain characters only: all others are written as escapes of their UTF-16 units.  A comma or a colon
is followed by one space, and members keep their order.
-/

namespace ResumableWatch.Json

open Text

/-- The escape of one UTF-16 unit. -/
def unitEscape (n : Nat) : List Char := '\\' :: 'u' :: hex 4 n

/-- One character between the quotes of JSON text. -/
def escapeChar (c : Char) : List Char :=
  if c = '\x22' then ['\\', '\x22']
  else if c = '\\' then ['\\', '\\']
  else if c = '\n' then ['\\', 'n']
  else if c = '\r' then ['\\', 'r']
  else if c = '\t' then ['\\', 't']
  else if c = '\x08' then ['\\', 'b']
  else if c = '\x0c' then ['\\', 'f']
  else if 0x20 ≤ c.toNat ∧ c.toNat < 0x7f then [c]
  else if c.toNat < 0x10000 then unitEscape c.toNat
  else
    let offset := c.toNat - 0x10000
    unitEscape (0xd800 + offset / 0x400) ++ unitEscape (0xdc00 + offset % 0x400)

/-- Text between the quotes of JSON text. -/
def printText (s : String) : List Char := '\x22' :: s.toList.flatMap escapeChar ++ ['\x22']

/-- A fractional number; the three values that are no numbers have words of their own. -/
def printDouble : Double → List Char
  | .nan => "NaN".toList
  | .infinite false => "Infinity".toList
  | .infinite true => "-Infinity".toList
  | d => d.text.toList

mutual

/-- The characters of a value. -/
def printChars : Json → List Char
  | .null => "null".toList
  | .bool true => "true".toList
  | .bool false => "false".toList
  | .int n => (toString n).toList
  | .double d => printDouble d
  | .text s => printText s
  | .array elements => '[' :: printElements elements ++ [']']
  | .object members => '\x7b' :: printMembers members ++ ['\x7d']

/-- The elements of an array, with commas between them. -/
def printElements : List Json → List Char
  | [] => []
  | [v] => printChars v
  | v :: w :: rest => printChars v ++ ',' :: ' ' :: printElements (w :: rest)

/-- The members of an object, with commas between them. -/
def printMembers : List (String × Json) → List Char
  | [] => []
  | [(name, v)] => printText name ++ ':' :: ' ' :: printChars v
  | (name, v) :: m :: rest =>
    printText name ++ ':' :: ' ' :: printChars v ++ ',' :: ' ' :: printMembers (m :: rest)

end

/-- The JSON text of a value. -/
def print (v : Json) : String := String.ofList (printChars v)

end ResumableWatch.Json
