import ResumableWatch.Number.Double
/-!
# The shortest decimal text of a number

A finite number is written with the fewest digits that read back as the same number, and with the
nearest of those.  All reals between the midpoints to the two neighbouring numbers read back; the
midpoints themselves do when the last bit is zero.  On the grid of `n` significant digits only the
two points next to the value need a test.  `Double.shortest` finds digits and exponent,
`Double.text` lays them out: positional from `0.0001` up to `10 ^ 16`, with an exponent otherwise.
-/

namespace ResumableWatch

open Number

namespace Number

/-- The reals that read back as a positive number of units, in quarters of a unit. -/
structure Interval where
  low : Nat
  value : Nat
  high : Nat
  closed : Bool

/-- The reals that round to `units`, for a representable `units > 0`. -/
def Interval.around (units : Nat) : Interval :=
  let gap := Nat.pow 2 (excessBits units)
  let lowerGap := if units = Nat.pow 2 52 * gap ∧ 1 < gap then gap / 2 else gap
  { low := 4 * units - 2 * lowerGap
    value := 4 * units
    high := 4 * units + 2 * gap
    closed := (units / gap) % 2 == 0 }

/-- A positive power of ten as a quotient, with the quarter units on the side of the numerator. -/
def powerOfTen (exponent : Int) : Nat × Nat :=
  if exponent ≥ 0 then (Nat.pow 10 exponent.toNat * Nat.pow 2 1076, 1)
  else (Nat.pow 2 1076, Nat.pow 10 (-exponent).toNat)

/-- Whether `digits * 10 ^ exponent` lies in the interval. -/
def Interval.has (i : Interval) (digits : Nat) (exponent : Int) : Bool :=
  let (num, den) := powerOfTen exponent
  let point := digits * num
  if i.closed then i.low * den ≤ point && point ≤ i.high * den
  else i.low * den < point && point < i.high * den

/-- The exponent of the leading digit: the `e` with `10 ^ e ≤ value < 10 ^ (e + 1)`. -/
def leadingExponent (i : Interval) : Int :=
  let estimate : Int := (((i.value.log2 : Int) - 1076) * 30103).fdiv 100000
  let reaches (e : Int) : Bool :=
    let (num, den) := powerOfTen e
    num ≤ i.value * den
  if reaches (estimate + 1) then estimate + 1
  else if reaches estimate then estimate
  else estimate - 1

/-- The best number with `size` digits that reads back, if there is one. -/
def Interval.best? (i : Interval) (leading : Int) (size : Nat) : Option (Nat × Int) :=
  let exponent := leading - (size : Int) + 1
  let (num, den) := powerOfTen exponent
  let below := i.value * den / num
  let rest := i.value * den % num
  match i.has below exponent, i.has (below + 1) exponent with
  | true, true => some (nearest below rest num, exponent)
  | true, false => some (below, exponent)
  | false, true => some (below + 1, exponent)
  | false, false => none

/-- The first hit among `size`, `size + 1`, … (`fuel` of them). -/
def Interval.search (i : Interval) (leading : Int) : Nat → Nat → Option (Nat × Int)
  | 0, _ => none
  | fuel + 1, size =>
    match i.best? leading size with
    | some hit => some hit
    | none => i.search leading fuel (size + 1)

/-- The fewest digits that read back as `units`, and the exponent of the last of them.  No number of
double precision has more than 767 digits. -/
def shortest (units : Nat) : Nat × Int :=
  if units = 0 then (0, 0)
  else
    let i := Interval.around units
    (i.search (leadingExponent i) 800 1).getD (0, 0)

/-- Drops the zeros at the end of a number, raising the exponent.  `fuel` bounds the zeros. -/
def stripZeros : Nat → Nat × Int → Nat × Int
  | 0, d => d
  | fuel + 1, (digits, exponent) =>
    if digits ≠ 0 ∧ digits % 10 = 0 then stripZeros fuel (digits / 10, exponent + 1)
    else (digits, exponent)

/-- The decimal digits of a number, the first one first. -/
def digitChars (n : Nat) : List Char := Nat.toDigits 10 n

/-- Digits with a point, from `0.0001` up to `10 ^ 16`. -/
def positional (digits : List Char) (exponent : Int) : List Char :=
  if exponent ≥ 0 then digits ++ List.replicate exponent.toNat '0' ++ ['.', '0']
  else
    let places := (-exponent).toNat
    if places < digits.length then
      digits.take (digits.length - places) ++ '.' :: digits.drop (digits.length - places)
    else '0' :: '.' :: List.replicate (places - digits.length) '0' ++ digits

/-- One digit, the others after a point, and an exponent of at least two digits with its sign. -/
def scientific (digits : List Char) (exponent : Int) : List Char :=
  let leading : Int := exponent + digits.length - 1
  let fraction := match digits.drop 1 with
    | [] => []
    | more => '.' :: more
  let size := digitChars leading.natAbs
  digits.take 1 ++ fraction ++ 'e' :: (if leading < 0 then '-' else '+')
    :: (List.replicate (2 - size.length) '0' ++ size)

/-- The layout of a decimal number: positional while the leading exponent is in `-4 … 15`. -/
def layout (digits : Nat) (exponent : Int) : List Char :=
  let (digits, exponent) := stripZeros 800 (digits, exponent)
  let chars := digitChars digits
  let leading : Int := exponent + chars.length - 1
  if digits = 0 then ['0', '.', '0']
  else if -4 ≤ leading ∧ leading < 16 then positional chars exponent
  else scientific chars exponent

end Number

namespace Double

/-- The shortest text that reads back as the same number. -/
def text : Double → String
  | .nan => "nan"
  | .infinite negative => if negative then "-inf" else "inf"
  | .finite negative units _ =>
    let (digits, exponent) := shortest units
    String.ofList ((if negative then ['-'] else []) ++ layout digits exponent)

end Double

end ResumableWatch
