/-!
# From bytes to characters

A body line may be written in UTF-8, UTF-16 or UTF-32.  A byte order mark decides, and without one
the places of the zero bytes among the first four do.  `decode` gives the characters or the first
fault: which bytes are at fault and why.
-/

namespace ResumableWatch.Bytes

/-- The ways in which a line may be written. -/
inductive Encoding where
  | utf8
  | utf16 (bigEndian : Bool)
  | utf32 (bigEndian : Bool)
  deriving DecidableEq

/-- The name of an encoding in messages. -/
def Encoding.name : Encoding → String
  | .utf8 => "utf-8"
  | .utf16 true => "utf-16-be"
  | .utf16 false => "utf-16-le"
  | .utf32 true => "utf-32-be"
  | .utf32 false => "utf-32-le"

/-- Why some bytes are no character. -/
inductive FaultReason where
  | badStart
  | badContinuation
  | endOfData
  | truncated
  | outOfRange
  deriving DecidableEq

/-- The reason in the words of a message. -/
def FaultReason.words : FaultReason → String
  | .badStart => "invalid start byte"
  | .badContinuation => "invalid continuation byte"
  | .endOfData => "unexpected end of data"
  | .truncated => "truncated data"
  | .outOfRange => "code point not in range(0x110000)"

/-- Bytes that are no character: their encoding, where they begin, the first of them, how many they
are, and why. -/
structure Fault where
  encoding : Encoding
  position : Nat
  first : UInt8
  size : Nat
  reason : FaultReason
  deriving DecidableEq

/-- What a message says about the fault. -/
def Fault.message (f : Fault) : String :=
  let hex := Nat.toDigits 16 f.first.toNat
  let digits := String.ofList (List.replicate (2 - hex.length) '0' ++ hex)
  let which :=
    if f.size = 1 then "byte 0x" ++ digits ++ " in position " ++ toString f.position
    else "bytes in position " ++ toString f.position ++ "-" ++ toString (f.position + f.size - 1)
  "'" ++ f.encoding.name ++ "' codec can't decode " ++ which ++ ": " ++ f.reason.words

/-- The blank bytes around a line. -/
def isBlank (b : UInt8) : Bool := b == 0x20 || (0x09 ≤ b && b ≤ 0x0d)

/-- The character of a number; a lone surrogate has none and gets the replacement. -/
def charOf (n : Nat) : Char := if n.isValidChar then Char.ofNat n else '\ufffd'

/-! ### UTF-8 -/

/-- What a first byte promises: the bits it gives, the least and the greatest second byte, and how
many bytes follow. -/
structure Lead where
  bits : Nat
  low : UInt8
  high : UInt8
  following : Nat

/-- The first bytes of sequences of two to four bytes. -/
def lead? (b : UInt8) : Option Lead :=
  if 0xc2 ≤ b && b ≤ 0xdf then some ⟨b.toNat - 0xc0, 0x80, 0xbf, 1⟩
  else if b == 0xe0 then some ⟨0, 0xa0, 0xbf, 2⟩
  else if b == 0xed then some ⟨0xd, 0x80, 0x9f, 2⟩
  else if 0xe1 ≤ b && b ≤ 0xef then some ⟨b.toNat - 0xe0, 0x80, 0xbf, 2⟩
  else if b == 0xf0 then some ⟨0, 0x90, 0xbf, 3⟩
  else if 0xf1 ≤ b && b ≤ 0xf3 then some ⟨b.toNat - 0xf0, 0x80, 0xbf, 3⟩
  else if b == 0xf4 then some ⟨4, 0x80, 0x8f, 3⟩
  else none

/-- A byte that continues a sequence. -/
def isTail (b : UInt8) : Bool := 0x80 ≤ b && b ≤ 0xbf

/-- What the bytes in hand become. -/
inductive Pending where
  /-- Nothing is in hand. -/
  | between
  /-- `size` bytes from `first` on are in hand; the next one lies in `low … high`. -/
  | owing (first : UInt8) (size : Nat) (bits : Nat) (low high : UInt8) (following : Nat)
  /-- Two of the three bytes of a lone surrogate, which is let through. -/
  | halfSurrogate

/-- UTF-8 from byte `position` on. -/
def decodeUtf8 (position : Nat) (pending : Pending) : List UInt8 → Except Fault (List Char)
  | [] =>
    match pending with
    | .between => .ok []
    | .owing first size .. => .error ⟨.utf8, position - size, first, size, .endOfData⟩
    | .halfSurrogate => .error ⟨.utf8, position - 2, 0xed, 1, .badContinuation⟩
  | b :: rest =>
    match pending with
    | .between =>
      if b < 0x80 then (decodeUtf8 (position + 1) .between rest).map (Char.ofNat b.toNat :: ·)
      else
        match lead? b with
        | none => .error ⟨.utf8, position, b, 1, .badStart⟩
        | some l => decodeUtf8 (position + 1) (.owing b 1 l.bits l.low l.high l.following) rest
    | .owing first size bits low high following =>
      if low ≤ b && b ≤ high then
        let bits := bits * 64 + (b.toNat - 0x80)
        if following ≤ 1 then (decodeUtf8 (position + 1) .between rest).map (charOf bits :: ·)
        else decodeUtf8 (position + 1) (.owing first (size + 1) bits 0x80 0xbf (following - 1)) rest
      else if first == 0xed && size == 1 && isTail b then
        decodeUtf8 (position + 1) .halfSurrogate rest
      else .error ⟨.utf8, position - size, first, size, .badContinuation⟩
    | .halfSurrogate =>
      if isTail b then (decodeUtf8 (position + 1) .between rest).map ('\ufffd' :: ·)
      else .error ⟨.utf8, position - 2, 0xed, 1, .badContinuation⟩

/-! ### UTF-16 and UTF-32 -/

/-- The UTF-16 units of the bytes from `position` on. -/
def units16 (bigEndian : Bool) (position : Nat) : List UInt8 → Except Fault (List Nat)
  | [] => .ok []
  | [a] => .error ⟨.utf16 bigEndian, position, a, 1, .truncated⟩
  | a :: b :: rest =>
    let unit := if bigEndian then a.toNat * 256 + b.toNat else b.toNat * 256 + a.toNat
    (units16 bigEndian (position + 2) rest).map (unit :: ·)

/-- The characters of UTF-16 units; a pair of surrogates is one character. -/
def charsOfUnits : List Nat → List Char
  | high :: low :: rest =>
    if 0xd800 ≤ high && high < 0xdc00 && 0xdc00 ≤ low && low < 0xe000 then
      Char.ofNat (0x10000 + (high - 0xd800) * 0x400 + (low - 0xdc00)) :: charsOfUnits rest
    else charOf high :: charsOfUnits (low :: rest)
  | [unit] => [charOf unit]
  | [] => []

/-- UTF-32 from byte `position` on. -/
def decodeUtf32 (bigEndian : Bool) (position : Nat) : List UInt8 → Except Fault (List Char)
  | a :: b :: c :: d :: rest =>
    let number (w x y z : UInt8) := ((w.toNat * 256 + x.toNat) * 256 + y.toNat) * 256 + z.toNat
    let n := if bigEndian then number a b c d else number d c b a
    if n < 0x110000 then (decodeUtf32 bigEndian (position + 4) rest).map (charOf n :: ·)
    else .error ⟨.utf32 bigEndian, position, a, 4, .outOfRange⟩
  | [] => .ok []
  | first :: more => .error ⟨.utf32 bigEndian, position, first, more.length + 1, .truncated⟩

/-! ### Choosing -/

/-- The encoding of a line without a byte order mark, by the zeros among its first bytes. -/
def encodingByZeros : List UInt8 → Encoding
  | a :: b :: c :: d :: _ =>
    if a == 0 then if b == 0 then .utf32 true else .utf16 true
    else if b == 0 then if c == 0 && d == 0 then .utf32 false else .utf16 false
    else .utf8
  | [a, b] => if a == 0 then .utf16 true else if b == 0 then .utf16 false else .utf8
  | _ => .utf8

/-- The encoding of a line, how many bytes its mark has, and what follows the mark. -/
def detect : List UInt8 → Encoding × Nat × List UInt8
  | 0x00 :: 0x00 :: 0xfe :: 0xff :: rest => (.utf32 true, 4, rest)
  | 0xff :: 0xfe :: 0x00 :: 0x00 :: rest => (.utf32 false, 4, rest)
  | 0xfe :: 0xff :: rest => (.utf16 true, 2, rest)
  | 0xff :: 0xfe :: rest => (.utf16 false, 2, rest)
  | 0xef :: 0xbb :: 0xbf :: rest => (.utf8, 0, rest)
  | bytes => (encodingByZeros bytes, 0, bytes)

/-- The characters of a line. -/
def decode (bytes : List UInt8) : Except Fault (List Char) :=
  match detect bytes with
  | (.utf8, start, rest) => decodeUtf8 start .between rest
  | (.utf16 bigEndian, start, rest) => (units16 bigEndian start rest).map charsOfUnits
  | (.utf32 bigEndian, start, rest) => decodeUtf32 bigEndian start rest

end ResumableWatch.Bytes
