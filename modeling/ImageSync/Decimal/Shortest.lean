import ImageSync.Decimal.Binary64

/-!
# `ImageSync.Decimal.Shortest`: the fewest digits that read back

A number of double precision is written with the fewest decimal digits that identify it:
among all decimal numbers that round to it, those with the fewest digits, and among these
the nearest. `shortest` gives these digits; of two that are equally near the caller chooses
one by a `Tie`. `positional` writes them with a decimal point
where needed and zeros as far as needed, `scientific` with an exponent when the number is
very large or very small.
-/

set_option autoImplicit false

namespace ImageSync.Decimal

/-- Which of two equally near decimal numbers is taken. -/
inductive Tie where
  | up
  | toEven
  deriving DecidableEq, Repr

/-- The decimal digits of a number, most significant first. -/
def digitsOf (n : Nat) : List Char := Nat.toDigits 10 n

/-- The number `0.d₁d₂…dₙ * 10 ^ point`, by its digits. -/
structure DigitString where
  digits : List Char
  point : Int
  deriving DecidableEq, Repr

/-- The numerator and denominator of `num / den * 10 ^ k`. -/
def scaleTen (num den : Nat) (k : Int) : Nat × Nat :=
  if 0 ≤ k then (num * Nat.pow 10 k.toNat, den) else (num, den * Nat.pow 10 (-k).toNat)

/-- The least `k` for which the quotient of two positive numbers is below `10 ^ k`. -/
def decimalOrder (num den : Nat) : Int :=
  let k : Int := ((digitsOf num).length : Int) - ((digitsOf den).length : Int)
  let (n, d) := scaleTen num den (-k)
  if n < d then k else k + 1

/-- The decimal numbers that round to a number lie between its bounds; the bounds belong to
them if the mantissa is even. All three are multiples of a quarter of the last place. -/
def quarters (x : Binary64) : Nat × Nat × Nat :=
  let low := if x.mantissa = Nat.pow 2 52 ∧ -1074 < x.exponent then 1 else 2
  (4 * x.mantissa - low, 4 * x.mantissa, 4 * x.mantissa + 2)

/-- The digits of the best decimal number with `n` digits that rounds to `x`, if there is
one; `point` is the decimal order of `x`. -/
def candidate? (tie : Tie) (x : Binary64) (point : Int) (n : Nat) : Option DigitString :=
  let (low, mid, high) := quarters x
  -- All numbers below are in units of the last of the `n` digits, over one denominator.
  let unit (q : Nat) : Nat × Nat :=
    let r : Nat × Nat := if 0 ≤ x.exponent then (q * Nat.pow 2 x.exponent.toNat, 4)
      else (q, 4 * Nat.pow 2 (-x.exponent).toNat)
    scaleTen r.1 r.2 ((n : Int) - point)
  let (lowNum, den) := unit low
  let midNum := (unit mid).1
  let highNum := (unit high).1
  let inside (v : Nat) : Bool :=
    if x.mantissa % 2 = 0 then lowNum ≤ v * den && v * den ≤ highNum
    else lowNum < v * den && v * den < highNum
  let below := midNum / den
  let above := below + 1
  let twice := 2 * (midNum - below * den)
  let nearBelow := twice < den || (twice == den && tie == .toEven && below % 2 == 0)
  let chosen : Option Nat :=
    if inside below && (nearBelow || !inside above) then some below
    else if inside above then some above
    else none
  chosen.map fun v =>
    let digits := digitsOf v
    ⟨digits, point + ((digits.length : Int) - (n : Int))⟩

/-- The digits without the zeros at their end. -/
def DigitString.trim (d : DigitString) : DigitString :=
  { d with digits := (d.digits.reverse.dropWhile (· == '0')).reverse }

/-- The fewest digits that identify a positive number; seventeen always do. -/
def shortest (tie : Tie) (x : Binary64) : DigitString :=
  let point := decimalOrder x.ratio.1 x.ratio.2
  (((List.range 17).findSome? fun n => candidate? tie x point (n + 1)).getD ⟨['0'], 0⟩).trim

/-- So many zeros. -/
def zeros (n : Int) : List Char := List.replicate n.toNat '0'

/-- The digits with a decimal point where needed, and zeros as far as needed. -/
def DigitString.positional (d : DigitString) : List Char :=
  let count : Int := d.digits.length
  if d.point ≤ 0 then '0' :: '.' :: zeros (-d.point) ++ d.digits
  else if count ≤ d.point then d.digits ++ zeros (d.point - count)
  else d.digits.take d.point.toNat ++ '.' :: d.digits.drop d.point.toNat

/-- A number with all its places written out; a tie goes up. -/
def Binary64.positional (x : Binary64) : List Char :=
  if x.mantissa = 0 then ['0'] else (shortest .up x).positional

/-- The decimal digits of an integer, after a sign if it is negative. -/
def integerText (n : Int) : List Char :=
  if n < 0 then '-' :: digitsOf n.natAbs else digitsOf n.natAbs

/-- A number with an exponent if it has more than sixteen places before the point or more
than four zeros after it, and with at least one place after the point otherwise; a tie goes
to the even digit. -/
def Binary64.scientific (x : Binary64) : List Char :=
  if x.mantissa = 0 then ['0', '.', '0']
  else
    let d := shortest .toEven x
    let count : Int := d.digits.length
    if -5 < d.point ∧ d.point ≤ 16 then
      if count ≤ d.point then d.positional ++ ['.', '0'] else d.positional
    else match d.digits with
      | [] => []
      | [c] => c :: 'e' :: integerText (d.point - 1)
      | c :: r => c :: '.' :: r ++ 'e' :: integerText (d.point - 1)

end ImageSync.Decimal
