/-!
# Double precision numbers

Delays, times and the fractional numbers of JSON are binary numbers of double precision.  A finite
one is a whole number of *units* of `2 ^ -1074` (the smallest positive one) with at most 53
significant bits, so order, sums and truncation are exact arithmetic on `Nat` and `Int`, followed
by one rounding to 53 bits, a half going to the even neighbour.

`roundUnits` rounds a whole number of units, `roundRatio` a quotient of units; every finite value
carries the proof that rounding leaves it alone.
-/

namespace ResumableWatch

namespace Number

/-! ### Rounding to 53 bits -/

/-- `q` or its successor, whichever is nearer to `q + r / d`; the even one when they are as near. -/
def nearest (q r d : Nat) : Nat :=
  if 2 * r < d then q
  else if d < 2 * r then q + 1
  else if q % 2 = 0 then q else q + 1

/-- How many low bits of `n` lie below its 53 leading ones. -/
def excessBits (n : Nat) : Nat := n.log2 - 52

/-- The quotient `num / den` rounded to a whole number with at most 53 significant bits. -/
def roundRatio (num den : Nat) : Nat :=
  let low := Nat.pow 2 (excessBits (num / den))
  nearest (num / (den * low)) (num % (den * low)) (den * low) * low

/-- A whole number of units rounded to 53 significant bits. -/
def roundUnits (n : Nat) : Nat := roundRatio n 1

/-- One more than the largest number of units that a finite value may have: `2 ^ 1024`. -/
def overflowUnits : Nat := Nat.pow 2 2098

/-- The numbers of units that a finite value of double precision may have. -/
def Representable (n : Nat) : Prop := roundUnits n = n ∧ n < overflowUnits

instance (n : Nat) : Decidable (Representable n) := by unfold Representable; infer_instance

end Number

open Number

/-- A number of double precision. -/
inductive Double where
  | nan
  | infinite (negative : Bool)
  | finite (negative : Bool) (units : Nat) (representable : Representable units)
  deriving DecidableEq

namespace Double

/-! ### Making values -/

/-- The value with a sign and a rounded number of units; too large a number is infinite. -/
def ofRounded (negative : Bool) (units : Nat) : Double :=
  if h : Representable units then .finite negative units h else .infinite negative

/-- The value nearest to a whole number of units. -/
def ofUnits (negative : Bool) (units : Nat) : Double := ofRounded negative (roundUnits units)

/-- The value nearest to a quotient of units. -/
def ofRatio (negative : Bool) (num den : Nat) : Double := ofRounded negative (roundRatio num den)

/-- One in units. -/
def one : Nat := Nat.pow 2 1074

/-- The value nearest to `± digits * 10 ^ exponent`.  An exponent far outside the range is decided
by the number of digits alone, so that no huge power is computed. -/
def ofDecimal (negative : Bool) (digits : Nat) (exponent : Int) : Double :=
  if digits = 0 then ofUnits negative 0
  else
    let size : Int := (digits.log2 : Int) / 4 + exponent
    if size > 400 then .infinite negative
    else if (digits.log2 : Int) + exponent < -1500 then ofUnits negative 0
    else if exponent ≥ 0 then ofUnits negative (digits * Nat.pow 10 exponent.toNat * one)
    else ofRatio negative (digits * one) (Nat.pow 10 (-exponent).toNat)

/-- The value nearest to a whole number. -/
def ofInt (n : Int) : Double := ofUnits (decide (n < 0)) (n.natAbs * one)

/-- Zero. -/
def zero : Double := ofUnits false 0

instance : Inhabited Double := ⟨zero⟩

/-! ### Reading values -/

/-- The signed number of units of a finite value; of the others there is none. -/
def signedUnits? : Double → Option Int
  | .finite false u _ => some u
  | .finite true u _ => some (-u)
  | _ => none

/-- Zero of either sign. -/
def isZero : Double → Bool
  | .finite _ u _ => u == 0
  | _ => false

/-- A value that a timer can wait for. -/
def isNan : Double → Bool
  | .nan => true
  | _ => false

/-- The whole part, cut toward zero. -/
def truncate? : Double → Option Int
  | .finite false u _ => some ((u / one : Nat) : Int)
  | .finite true u _ => some (-((u / one : Nat) : Int))
  | _ => none

/-! ### Order and sums -/

/-- Strictly less; nothing is less than a NaN and a NaN is less than nothing. -/
def lt : Double → Double → Bool
  | .nan, _ => false
  | _, .nan => false
  | .infinite true, .infinite true => false
  | .infinite true, _ => true
  | .infinite false, _ => false
  | .finite .., .infinite negative => !negative
  | .finite s u _, .finite t v _ =>
    decide ((if s then -(u : Int) else u) < (if t then -(v : Int) else v))

/-- Less or equal: either may be a zero of either sign, and neither is a NaN. -/
def le (a b : Double) : Bool := !a.isNan && !b.isNan && !lt b a

/-- The second value where it is greater than the first, else the first: a NaN in first place
stays, one in second place is dropped. -/
def max (a b : Double) : Double := if lt a b then b else a

/-- The sum, rounded once. -/
def add : Double → Double → Double
  | .nan, _ => .nan
  | _, .nan => .nan
  | .infinite s, .infinite t => if s = t then .infinite s else .nan
  | .infinite s, .finite .. => .infinite s
  | .finite .., .infinite t => .infinite t
  | .finite s u _, .finite t v _ =>
    let total : Int := (if s then -(u : Int) else u) + (if t then -(v : Int) else v)
    if total = 0 then ofUnits (s && t) 0 else ofUnits (decide (total < 0)) total.natAbs

/-- The value with the other sign. -/
def neg : Double → Double
  | .nan => .nan
  | .infinite s => .infinite (!s)
  | .finite s u h => .finite (!s) u h

/-- The difference, rounded once. -/
def sub (a b : Double) : Double := add a (neg b)

instance : Add Double := ⟨add⟩
instance : Sub Double := ⟨sub⟩
instance : Neg Double := ⟨neg⟩

end Double

end ResumableWatch
