/-!
# `ImageSync.Decimal.Binary64`: rounding to double precision

A finite number of double precision is `mantissa * 2 ^ exponent` with a mantissa below
`2 ^ 53` and an exponent from -1074 to 971. `ofRatio?` rounds a quotient of natural numbers
to the nearest one, and to the one with an even mantissa if two are equally near; quotients
that are too large have none. Products and quotients of such numbers are rounded exact
results. All arithmetic is on natural numbers and integers.
-/

set_option autoImplicit false

namespace ImageSync.Decimal

/-- The quotient of two numbers rounded to the nearest integer, a half to the even one. -/
def roundDiv (num den : Nat) : Nat :=
  let q := num / den
  let r := num % den
  if 2 * r < den then q else if den < 2 * r then q + 1 else q + q % 2

/-- The numerator and denominator of `num / den / 2 ^ exponent`. -/
def unscale (num den : Nat) (exponent : Int) : Nat × Nat :=
  if 0 ≤ exponent then (num, den * Nat.pow 2 exponent.toNat)
  else (num * Nat.pow 2 (-exponent).toNat, den)

/-- The greatest `k` for which `2 ^ k` is at most the quotient of two positive numbers. -/
def binaryOrder (num den : Nat) : Int :=
  let k : Int := (Nat.log2 num : Int) - (Nat.log2 den : Int)
  let (n, d) := unscale num den k
  if n < d then k - 1 else k

/-- A finite number of double precision, not negative. -/
structure Binary64 where
  mantissa : Nat
  exponent : Int
  deriving DecidableEq, Repr

namespace Binary64

/-- The number zero. -/
def zero : Binary64 := ⟨0, -1074⟩

/-- The quotient of two numbers in double precision, if it is not too large. -/
def ofRatio? (num den : Nat) : Option Binary64 :=
  if num = 0 then some zero
  else
    let exponent := max (binaryOrder num den - 52) (-1074)
    let (n, d) := unscale num den exponent
    let mantissa := roundDiv n d
    let rounded : Binary64 :=
      if mantissa = Nat.pow 2 53 then ⟨Nat.pow 2 52, exponent + 1⟩ else ⟨mantissa, exponent⟩
    if 971 < rounded.exponent then none else some rounded

/-- The exact value as a numerator and a denominator. -/
def ratio (x : Binary64) : Nat × Nat :=
  if 0 ≤ x.exponent then (x.mantissa * Nat.pow 2 x.exponent.toNat, 1)
  else (x.mantissa, Nat.pow 2 (-x.exponent).toNat)

/-- A product in double precision, if it is not too large. -/
def mul? (x y : Binary64) : Option Binary64 :=
  ofRatio? (x.ratio.1 * y.ratio.1) (x.ratio.2 * y.ratio.2)

/-- A quotient in double precision, if it is not too large. -/
def div? (x y : Binary64) : Option Binary64 :=
  ofRatio? (x.ratio.1 * y.ratio.2) (x.ratio.2 * y.ratio.1)

/-- A natural number in double precision, if it is not too large. -/
def ofNat? (n : Nat) : Option Binary64 := ofRatio? n 1

/-- A decimal number `significand * 10 ^ exponent` in double precision, if it is not too
large. The significand is rounded first; then it is multiplied with or divided by a rounded
power of ten, in steps of `10 ^ 308`. So the result can differ from the nearest number by
one unit in the last place. -/
def ofDecimal? (significand : Nat) (exponent : Int) : Option Binary64 := do
  scale (← ofNat? significand) exponent
where
  scale (x : Binary64) (exponent : Int) : Option Binary64 := do
    if x.mantissa = 0 then return x
    else if 308 < exponent then none
    else if 0 ≤ exponent then x.mul? (← ofNat? (Nat.pow 10 exponent.toNat))
    else if -308 ≤ exponent then x.div? (← ofNat? (Nat.pow 10 (-exponent).toNat))
    else scale (← x.div? (← ofNat? (Nat.pow 10 308))) (exponent + 308)
  termination_by (-exponent).toNat
  decreasing_by omega

end Binary64

end ImageSync.Decimal
