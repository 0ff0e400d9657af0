import ActionRehearsal.Number.Binary64
/-!
# The fewest digits that read back

The decimal text of a binary floating-point number uses as few significant digits as possible
such that reading the text gives the number again, and of the texts with that many digits the
nearest to the number. `shortestDigits` finds the digits, on the decimal grids with one digit,
two digits and so on; seventeen always suffice. `decimalText` lays them out.
-/

set_option autoImplicit false

namespace ActionRehearsal.Number

/-- A decimal numeral `digits * 10 ^ exponent`. -/
structure Decimal where
  digits : Nat
  exponent : Int
  deriving DecidableEq

/-- `num / den` divided by `10 ^ e`, as a fraction. -/
def scaleDownTen (num den : Nat) (e : Int) : Nat × Nat :=
  if 0 ≤ e then (num, den * Nat.pow 10 e.toNat) else (num * Nat.pow 10 (-e).toNat, den)

/-- The number of decimal digits of `n`, which is at least one. -/
def digitCount (n : Nat) : Nat := (Nat.toDigits 10 n).length

/-- The exponent of the leading decimal digit of `num / den`, a positive number. -/
def leadingExponent (num den : Nat) : Int :=
  if den ≤ num then (digitCount (num / den) : Int) - 1
  else
    let least : Int := -(digitCount (den / num) : Int)
    let scaled := scaleDownTen num den least
    if scaled.1 / scaled.2 ≥ 10 then least + 1 else least

/-- Of the two points of the grid with spacing `10 ^ e` around `num / den`, those that read back
as `target`, the nearer first. -/
def gridPoint? (target : Binary64) (num den : Nat) (e : Int) : Option Decimal :=
  let scaled := scaleDownTen num den e
  let low := scaled.1 / scaled.2
  let twice := 2 * (scaled.1 % scaled.2)
  let lowFirst := twice < scaled.2 || (twice == scaled.2 && low % 2 == 0)
  let candidates := if lowFirst then [low, low + 1] else [low + 1, low]
  (candidates.find? fun digits => Binary64.ofDecimal false digits e == target).map (⟨·, e⟩)

/-- The digits of a positive number on the coarsest grid that holds one that reads back. -/
def shortestDigits (significand : Nat) (exponent : Int) : Decimal :=
  let fraction :=
    if 0 ≤ exponent then (significand * Nat.pow 2 exponent.toNat, 1)
    else (significand, Nat.pow 2 (-exponent).toNat)
  let lead := leadingExponent fraction.1 fraction.2
  let target := Binary64.finite false significand exponent
  let found := (List.range 17).findSome? fun (n : Nat) =>
    gridPoint? target fraction.1 fraction.2 (lead - n)
  found.getD ⟨significand, 0⟩

/-- Removes the zeros at the end of the digits. -/
def Decimal.stripped (room : Nat) (d : Decimal) : Decimal :=
  match room with
  | 0 => d
  | room + 1 =>
    if d.digits % 10 = 0 && d.digits != 0 then
      Decimal.stripped room ⟨d.digits / 10, d.exponent + 1⟩
    else d

/-- Which numbers are written without an exponent: those whose leading digit stands for
`10 ^ least` up to `10 ^ greatest`. -/
structure PositionalRange where
  least : Int
  greatest : Int

/-- Numbers from `10 ^ -4` up to below `10 ^ 16` are written without an exponent. -/
def positionalRange : PositionalRange := ⟨-4, 15⟩

/-- The exponent after the letter `e`: a sign and at least two digits. -/
def exponentText (e : Int) : String :=
  let digits := toString e.natAbs
  (if e < 0 then "-" else "+") ++ (if digits.length < 2 then "0" ++ digits else digits)

/-- The text of a positive decimal. A whole number written without an exponent ends in `.0`. -/
def Decimal.text (d : Decimal) : String :=
  let digits := (toString d.digits).toList
  let lead : Int := d.exponent + (digits.length : Int) - 1
  if positionalRange.least ≤ lead && lead ≤ positionalRange.greatest then
    if 0 ≤ d.exponent then
      String.ofList (digits ++ List.replicate d.exponent.toNat '0') ++ ".0"
    else if 0 ≤ lead then
      let whole := digits.take (lead.toNat + 1)
      String.ofList (whole ++ '.' :: digits.drop (lead.toNat + 1))
    else
      "0." ++ String.ofList (List.replicate (-lead - 1).toNat '0' ++ digits)
  else
    let mantissa := match digits with
      | [] => []
      | [d] => [d]
      | d :: more => d :: '.' :: more
    String.ofList mantissa ++ "e" ++ exponentText lead

/-- The decimal text of a number. -/
def Binary64.text : Binary64 → String
  | .nan _ => "nan"
  | .infinite negative => if negative then "-inf" else "inf"
  | .finite negative significand exponent =>
    let magnitude :=
      if significand = 0 then "0.0"
      else ((shortestDigits significand exponent).stripped 20).text
    if negative then "-" ++ magnitude else magnitude

end ActionRehearsal.Number
