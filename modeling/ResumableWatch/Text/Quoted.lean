import ResumableWatch.Text.Printable
/-!
# Quoted text

How a message shows a piece of text: between single quotes, or between double quotes where the text
has a single one and no double one.  The quote in use and the backslash get a backslash, the three
usual controls their letter, and every other character without a glyph its number in hexadecimal.
-/

namespace ResumableWatch.Text

/-- A number in lower-case hexadecimal with at least `width` digits. -/
def hex (width n : Nat) : List Char :=
  let digits := Nat.toDigits 16 n
  List.replicate (width - digits.length) '0' ++ digits

/-- The shortest of the three numbered forms. -/
def numbered (n : Nat) : List Char :=
  if n < 0x100 then '\\' :: 'x' :: hex 2 n
  else if n < 0x10000 then '\\' :: 'u' :: hex 4 n
  else '\\' :: 'U' :: hex 8 n

/-- One character between quotes. -/
def quoteChar (mark c : Char) : List Char :=
  if c = mark ∨ c = '\\' then ['\\', c]
  else if c = '\n' then ['\\', 'n']
  else if c = '\r' then ['\\', 'r']
  else if c = '\t' then ['\\', 't']
  else if isPrintable c then [c]
  else numbered c.toNat

/-- The quote that needs fewer backslashes, the single one by preference. -/
def quoteMark (s : List Char) : Char := if '\x27' ∈ s ∧ '\x22' ∉ s then '\x22' else '\x27'

/-- The characters of quoted text. -/
def quoteChars (s : List Char) : List Char :=
  let mark := quoteMark s
  mark :: s.flatMap (quoteChar mark) ++ [mark]

/-- Text as a message shows it. -/
def quoted (s : String) : String := String.ofList (quoteChars s.toList)

end ResumableWatch.Text
