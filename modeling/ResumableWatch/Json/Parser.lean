import ResumableWatch.Json.Value
import ResumableWatch.Number.Numeral
/-!
# Reading JSON text

The reader goes once through the characters.  Where it stops it names what is wrong and how much
of the text was left, from which `parse` works out the line, the column and the offset.  It
accepts the words `NaN`, `Infinity` and `-Infinity`, whole numbers of up to 4300 digits, and
containers nested up to `depthLimit` deep.
-/

namespace ResumableWatch.Json

open Number

/-- What can be wrong with JSON text. -/
inductive Defect where
  | expectedValue
  | expectedName
  | expectedColon
  | expectedComma
  | unterminatedText
  | controlCharacter
  | badEscape
  | badUnitEscape
  | extraData
  deriving DecidableEq

/-- The first words of the message about a defect. -/
def Defect.words : Defect → String
  | .expectedValue => "Expecting value"
  | .expectedName => "Expecting property name enclosed in double quotes"
  | .expectedColon => "Expecting ':' delimiter"
  | .expectedComma => "Expecting ',' delimiter"
  | .unterminatedText => "Unterminated string starting at"
  | .controlCharacter => "Invalid control character at"
  | .badEscape => "Invalid \\escape"
  | .badUnitEscape => "Invalid \\uXXXX escape"
  | .extraData => "Extra data"

/-- What JSON values can be nested in. -/
inductive Container where
  | array
  | object
  deriving DecidableEq

/-- How messages name a container. -/
def Container.name : Container → String
  | .array => "array"
  | .object => "object"

/-- Why reading stopped; a defect comes with the text that was left where it was found. -/
inductive Stop where
  | defect (what : Defect) (left : List Char)
  | tooLong (digits : Nat)
  /-- A container began that is nested too deep. -/
  | tooDeep (container : Container)

/-- A reader of `α`: what it read and the text that is left. -/
abbrev Reader (α : Type) := List Char → Except Stop (α × List Char)

/-- How deep containers may be nested.  A reader that calls itself for each container is bounded by
the stack it runs on: 1000 calls, of which those that led to the reader are in use already.  How many
these are depends on the interpreter and on who asks, so that real limits lie between 979 and 999.
What is proved of the reader does not depend on the number; only an example with 3000 brackets needs
it to be smaller than that. -/
def depthLimit : Nat := 999

/-- The characters that may stand between the parts of JSON text. -/
def isSpace (c : Char) : Bool := c == ' ' || c == '\t' || c == '\n' || c == '\r'

/-- The text from its first character that is no space. -/
def skip (s : List Char) : List Char := s.dropWhile isSpace

/-! ### Text -/

/-- The value of a hexadecimal digit. -/
def hexValue? (c : Char) : Option Nat :=
  if '0' ≤ c ∧ c ≤ '9' then some (c.toNat - '0'.toNat)
  else if 'a' ≤ c ∧ c ≤ 'f' then some (c.toNat - 'a'.toNat + 10)
  else if 'A' ≤ c ∧ c ≤ 'F' then some (c.toNat - 'A'.toNat + 10)
  else none

/-- Four hexadecimal digits, and at least one more character after them. -/
def unit? : List Char → Option (Nat × List Char)
  | a :: b :: c :: d :: e :: rest => do
    let a ← hexValue? a
    let b ← hexValue? b
    let c ← hexValue? c
    let d ← hexValue? d
    return (((a * 16 + b) * 16 + c) * 16 + d, e :: rest)
  | _ => none

/-- The first unit of a surrogate pair. -/
def isHighSurrogate (n : Nat) : Bool := 0xd800 ≤ n && n < 0xdc00

/-- The second unit of a surrogate pair. -/
def isLowSurrogate (n : Nat) : Bool := 0xdc00 ≤ n && n < 0xe000

/-- The character of one UTF-16 unit.  A lone surrogate is none, and is read as the replacement
character U+FFFD: texts that can hold lone surrogates are taken to be the same here if they differ in
these alone. -/
def unitChar (n : Nat) : Char :=
  if isHighSurrogate n || isLowSurrogate n then '\ufffd' else Char.ofNat n

/-- The character that follows `\u`, of one unit or of a pair of them.  `digits` begins after the
`u`, and `mark` is the text from that `u` on. -/
def readUnit (mark digits : List Char) : Except Stop (Char × List Char) :=
  match unit? digits with
  | none => .error (.defect .badUnitEscape mark)
  | some (first, rest) =>
    if isHighSurrogate first then
      match rest with
      | '\\' :: 'u' :: second =>
        if second.length ≤ 4 then .ok (unitChar first, rest)
        else
          match unit? second with
          | none => .error (.defect .badUnitEscape ('u' :: second))
          | some (low, after) =>
            if isLowSurrogate low then
              .ok (Char.ofNat (0x10000 + (first - 0xd800) * 0x400 + (low - 0xdc00)), after)
            else .ok (unitChar first, rest)
      | _ => .ok (unitChar first, rest)
    else .ok (unitChar first, rest)

/-- The character that a letter stands for after a backslash. -/
def shortEscape? (c : Char) : Option Char :=
  if c = '\x22' ∨ c = '\\' ∨ c = '/' then some c
  else if c = 'b' then some '\x08'
  else if c = 'f' then some '\x0c'
  else if c = 'n' then some '\n'
  else if c = 'r' then some '\r'
  else if c = 't' then some '\t'
  else none

/-- The characters up to the closing quote.  `opening` is the text from the opening quote on, and
`fuel` bounds the characters. -/
def readText (opening : List Char) : Nat → Reader (List Char)
  | 0, _ => .error (.defect .unterminatedText opening)
  | fuel + 1, s =>
    match s with
    | [] => .error (.defect .unterminatedText opening)
    | '\x22' :: rest => .ok ([], rest)
    | ['\\'] => .error (.defect .unterminatedText opening)
    | '\\' :: 'u' :: rest =>
      match readUnit ('u' :: rest) rest with
      | .error stop => .error stop
      | .ok (c, rest) =>
        match readText opening fuel rest with
        | .error stop => .error stop
        | .ok (cs, left) => .ok (c :: cs, left)
    | '\\' :: c :: rest =>
      match shortEscape? c with
      | none => .error (.defect .badEscape s)
      | some c =>
        match readText opening fuel rest with
        | .error stop => .error stop
        | .ok (cs, left) => .ok (c :: cs, left)
    | c :: rest =>
      if c.toNat < 0x20 then .error (.defect .controlCharacter s)
      else
        match readText opening fuel rest with
        | .error stop => .error stop
        | .ok (cs, left) => .ok (c :: cs, left)

/-- Text from its opening quote on. -/
def readString (s : List Char) : Except Stop (String × List Char) :=
  match readText s s.length (s.drop 1) with
  | .error stop => .error stop
  | .ok (cs, left) => .ok (String.ofList cs, left)

/-! ### Numbers -/

/-- A plain decimal digit. -/
def isDigit (c : Char) : Bool := '0' ≤ c && c ≤ '9'

/-- The plain decimal digits at the front of the text. -/
def digits (s : List Char) : List Nat := (s.takeWhile isDigit).map fun c => c.toNat - '0'.toNat

/-- What follows the plain decimal digits at the front. -/
def afterDigits (s : List Char) : List Char := s.dropWhile isDigit

/-- A point and digits, if they are there. -/
def fraction? : List Char → Option (List Nat × List Char)
  | '.' :: rest => if (digits rest).isEmpty then none else some (digits rest, afterDigits rest)
  | _ => none

/-- An exponent, if it is complete. -/
def exponent? : List Char → Option (Int × List Char)
  | c :: rest =>
    if c = 'e' ∨ c = 'E' then
      let (negative, body) := splitSign rest
      if (digits body).isEmpty then none
      else
        let n : Int := ofDigits (digits body)
        some (if negative then -n else n, afterDigits body)
    else none
  | [] => none

/-- The whole digits of a number: a zero alone, or digits that do not begin with a zero. -/
def wholeDigits? : List Char → Option (List Nat × List Char)
  | '0' :: rest => some ([0], rest)
  | s => if (digits s).isEmpty then none else some (digits s, afterDigits s)

/-- The longest number at the front of the text. -/
def readNumber (s : List Char) : Except Stop (Json × List Char) :=
  let (negative, body) := match s with
    | '-' :: rest => (true, rest)
    | _ => (false, s)
  match wholeDigits? body with
  | none => .error (.defect .expectedValue s)
  | some (whole, rest) =>
    match fraction? rest, exponent? ((fraction? rest).elim rest Prod.snd) with
    | none, none =>
      if whole.length ≤ digitLimit then
        let n : Int := ofDigits whole
        .ok (.int (if negative then -n else n), rest)
      else .error (.tooLong whole.length)
    | part, power =>
      let fraction := part.elim [] Prod.fst
      let exponent := power.elim 0 Prod.fst
      let left := power.elim (part.elim rest Prod.snd) Prod.snd
      .ok (.double (Decimal.toDouble { whole, fraction, exponent } negative), left)

/-! ### Values -/

/-- What follows a word at the front of the text. -/
def afterWord? (word : String) (s : List Char) : Option (List Char) :=
  if word.toList.isPrefixOf s then some (s.drop word.length) else none

/-- The words that are values. -/
def words : List (String × Json) := [
  ("null", .null), ("true", .bool true), ("false", .bool false), ("NaN", .double .nan),
  ("Infinity", .double (.infinite false)), ("-Infinity", .double (.infinite true))]

/-- A word or a number at the front of the text. -/
def readScalar (s : List Char) : Except Stop (Json × List Char) :=
  match words.findSome? fun (word, v) => (afterWord? word s).map fun rest => (v, rest) with
  | some found => .ok found
  | none => readNumber s

mutual

/-- One value at the front of the text, with at most `depth` containers nested in it. -/
def readValue (fuel depth : Nat) (s : List Char) : Except Stop (Json × List Char) :=
  match fuel with
  | 0 => .error (.defect .expectedValue s)
  | fuel + 1 =>
    match s with
    | '\x22' :: _ =>
      match readString s with
      | .error stop => .error stop
      | .ok (chars, left) => .ok (.text chars, left)
    | '[' :: rest =>
      match depth with
      | 0 => .error (.tooDeep .array)
      | depth + 1 =>
        match skip rest with
        | ']' :: left => .ok (.array [], left)
        | inside =>
          match readElements fuel depth inside with
          | .error stop => .error stop
          | .ok (elements, left) => .ok (.array elements, left)
    | '\x7b' :: rest =>
      match depth with
      | 0 => .error (.tooDeep .object)
      | depth + 1 =>
        match skip rest with
        | '\x7d' :: left => .ok (.object [], left)
        | inside =>
          match readMembers fuel depth inside with
          | .error stop => .error stop
          | .ok (written, left) => .ok (.object (ofWritten written), left)
    | _ => readScalar s

/-- Elements up to the closing bracket, at least one. -/
def readElements (fuel depth : Nat) (s : List Char) : Except Stop (List Json × List Char) :=
  match fuel with
  | 0 => .error (.defect .expectedValue s)
  | fuel + 1 =>
    match readValue fuel depth s with
    | .error stop => .error stop
    | .ok (v, rest) =>
      match skip rest with
      | ']' :: left => .ok ([v], left)
      | ',' :: more =>
        match readElements fuel depth (skip more) with
        | .error stop => .error stop
        | .ok (vs, left) => .ok (v :: vs, left)
      | left => .error (.defect .expectedComma left)

/-- Members up to the closing brace, at least one, as they are written. -/
def readMembers (fuel depth : Nat) (s : List Char) :
    Except Stop (List (String × Json) × List Char) :=
  match fuel with
  | 0 => .error (.defect .expectedName s)
  | fuel + 1 =>
    match s with
    | '\x22' :: _ =>
      match readString s with
      | .error stop => .error stop
      | .ok (name, rest) =>
        match skip rest with
        | ':' :: after =>
          match readValue fuel depth (skip after) with
          | .error stop => .error stop
          | .ok (v, rest) =>
            match skip rest with
            | '\x7d' :: left => .ok ([(name, v)], left)
            | ',' :: more =>
              match readMembers fuel depth (skip more) with
              | .error stop => .error stop
              | .ok (written, left) => .ok ((name, v) :: written, left)
            | left => .error (.defect .expectedComma left)
        | left => .error (.defect .expectedColon left)
    | _ => .error (.defect .expectedName s)

end

/-! ### Whole text -/

/-- Where in a text something is: lines and columns count from one, offsets from zero. -/
structure Place where
  line : Nat
  column : Nat
  offset : Nat
  deriving DecidableEq

/-- The place after some characters. -/
def Place.after (passed : List Char) : Place where
  line := passed.count '\n' + 1
  column := (passed.reverse.takeWhile (· ≠ '\n')).length + 1
  offset := passed.length

/-- Why text is not JSON. -/
inductive ParseError where
  | malformed (what : Defect) (place : Place)
  | numeral (cause : NumeralError)
  /-- Too deep a nesting, and the first container that was not read any more. -/
  | tooDeep (container : Container)
  deriving DecidableEq

/-- What a message says about the failure. -/
def ParseError.message : ParseError → String
  | .malformed what place =>
    what.words ++ ": line " ++ toString place.line ++ " column " ++ toString place.column
      ++ " (char " ++ toString place.offset ++ ")"
  | .numeral cause => cause.message
  | .tooDeep container =>
    "maximum recursion depth exceeded while decoding a JSON " ++ container.name
      ++ " from a unicode string"

/-- A stop, placed in the text in which it was found. -/
def Stop.placed (source : List Char) : Stop → ParseError
  | .defect what left => .malformed what (.after (source.take (source.length - left.length)))
  | .tooLong digits => .numeral (.tooLong digits)
  | .tooDeep container => .tooDeep container

/-- Enough fuel for a text: each character costs at most two calls. -/
def fuelFor (s : List Char) : Nat := 2 * s.length + 2

/-- The value that characters write, with spaces around it. -/
def parseChars (s : List Char) : Except ParseError Json :=
  match readValue (fuelFor s) depthLimit (skip s) with
  | .error stop => .error (stop.placed s)
  | .ok (v, rest) =>
    match skip rest with
    | [] => .ok v
    | left => .error (Stop.placed s (.defect .extraData left))

/-- The value that a text writes. -/
def parse (s : String) : Except ParseError Json := parseChars s.toList

end ResumableWatch.Json
