/-!
# Binary floating-point numbers of 64 bits

A finite number is a sign, a significand below `2 ^ 53` and an exponent of two that is at least
`-1074`; the significand is at least `2 ^ 52` unless the exponent is the least one. All
arithmetic is exact arithmetic on natural numbers followed by one rounding, `ofRatio`: to the
nearest such number, of two equally near ones to the one with an even significand, and beyond
the largest one to infinity.
-/

set_option autoImplicit false

namespace ActionRehearsal.Number

/-- A binary floating-point number; a finite one is `significand * 2 ^ exponent`, with its sign. An
undefined number may carry a mark that tells it from others; 0 is no mark. -/
inductive Binary64 where
  | nan (mark : Nat)
  | infinite (negative : Bool)
  | finite (negative : Bool) (significand : Nat) (exponent : Int)
  deriving DecidableEq

namespace Binary64

/-- The least exponent of a finite number. -/
def leastExponent : Int := -1074

/-- The greatest exponent of a finite number. -/
def greatestExponent : Int := 971

/-- Zero, with a sign. -/
def zeroOf (negative : Bool) : Binary64 := .finite negative 0 leastExponent

/-- The fraction `num / den` divided by `2 ^ e`, again as a fraction. -/
def scaleDown (num den : Nat) (e : Int) : Nat × Nat :=
  if 0 ≤ e then (num, den * Nat.pow 2 e.toNat) else (num * Nat.pow 2 (-e).toNat, den)

/-- The whole number nearest to `num / den`, of two equally near ones the even one. -/
def roundToEven (num den : Nat) : Nat :=
  let q := num / den
  let twice := 2 * (num % den)
  if twice < den || (twice == den && q % 2 == 0) then q else q + 1

/-- The exponent at which `num / den` has a significand of 53 bits, or the least exponent. -/
def exponentOf (num den : Nat) : Int :=
  let guess : Int := (Nat.log2 num : Int) - (Nat.log2 den : Int) - 52
  let scaled := scaleDown num den guess
  let e := if scaled.1 / scaled.2 < Nat.pow 2 52 then guess - 1 else guess
  if e < leastExponent then leastExponent else e

/-- The number nearest to `num / den`, with the given sign. -/
def ofRatio (negative : Bool) (num den : Nat) : Binary64 :=
  if num = 0 then zeroOf negative
  else
    let e := exponentOf num den
    let scaled := scaleDown num den e
    let q := roundToEven scaled.1 scaled.2
    let (q, e) := if q = Nat.pow 2 53 then (Nat.pow 2 52, e + 1) else (q, e)
    if greatestExponent < e then .infinite negative else .finite negative q e

/-- The number nearest to `digits * 10 ^ exponent`, with the given sign. Exponents at which the
result cannot be but zero or infinite are decided at once. -/
def ofDecimal (negative : Bool) (digits : Nat) (exponent : Int) : Binary64 :=
  if digits = 0 then zeroOf negative
  else
    let magnitude := exponent + (Nat.log2 digits * 30103 / 100000 : Nat)
    if 400 < magnitude then .infinite negative
    else if magnitude < -400 then zeroOf negative
    else if 0 ≤ exponent then ofRatio negative (digits * Nat.pow 10 exponent.toNat) 1
    else ofRatio negative digits (Nat.pow 10 (-exponent).toNat)

/-- The number nearest to a whole number. -/
def ofNat (n : Nat) : Binary64 := ofRatio false n 1

/-- The number with the other sign. -/
def negate : Binary64 → Binary64
  | .nan mark => .nan mark
  | .infinite negative => .infinite !negative
  | .finite negative significand exponent => .finite (!negative) significand exponent

/-- The number, which gets the mark if it is undefined and has none. -/
def marked (mark : Nat) : Binary64 → Binary64
  | .nan 0 => .nan mark
  | x => x

/-- Whether the number is zero, of either sign. -/
def isZero : Binary64 → Bool
  | .finite _ 0 _ => true
  | _ => false

/-- The signed significand of a number whose exponent is lowered to `e`. -/
def alignedTo (e : Int) (negative : Bool) (significand : Nat) (exponent : Int) : Int :=
  let magnitude : Int := significand * Nat.pow 2 (exponent - e).toNat
  if negative then -magnitude else magnitude

/-- `n * 2 ^ e`, rounded; a zero result gets the sign `signOfZero`. -/
def ofScaledInt (signOfZero : Bool) (n : Int) (e : Int) : Binary64 :=
  if n = 0 then zeroOf signOfZero
  else if 0 ≤ e then ofRatio (n < 0) (n.natAbs * Nat.pow 2 e.toNat) 1
  else ofRatio (n < 0) n.natAbs (Nat.pow 2 (-e).toNat)

/-- The sum. -/
def add : Binary64 → Binary64 → Binary64
  | .nan mark, _ => .nan mark
  | _, .nan mark => .nan mark
  | .infinite a, .infinite b => if a = b then .infinite a else .nan 0
  | .infinite a, .finite .. => .infinite a
  | .finite .., .infinite b => .infinite b
  | .finite a m d, .finite b n e =>
    let least := min d e
    ofScaledInt (a && b) (alignedTo least a m d + alignedTo least b n e) least

/-- The product. -/
def mul : Binary64 → Binary64 → Binary64
  | .nan mark, _ => .nan mark
  | _, .nan mark => .nan mark
  | .infinite a, .infinite b => .infinite (a != b)
  | .infinite a, .finite b n _ => if n = 0 then .nan 0 else .infinite (a != b)
  | .finite a m _, .infinite b => if m = 0 then .nan 0 else .infinite (a != b)
  | .finite a m d, .finite b n e =>
    let magnitude : Int := m * n
    ofScaledInt (a != b) (if a != b then -magnitude else magnitude) (d + e)

/-- The whole number that the number equals, if there is one. -/
def toInt? : Binary64 → Option Int
  | .nan _ => none
  | .infinite _ => none
  | .finite negative significand exponent =>
    let whole : Option Nat :=
      if 0 ≤ exponent then some (significand * Nat.pow 2 exponent.toNat)
      else if significand % Nat.pow 2 (-exponent).toNat = 0 then
        some (significand / Nat.pow 2 (-exponent).toNat)
      else none
    whole.map fun n => if negative then -(n : Int) else n

end Binary64

end ActionRehearsal.Number
