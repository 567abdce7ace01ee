/-!
# Nearest numbers of 64-bit floating point

* `Binary64`: a finite number without sign, a significand times a power of two.
* `Binary64.nearest?`: the number nearest to a quotient of natural numbers; of two equally near
  ones that with the even significand. There is none beyond the largest number.
-/

namespace PacketLink.Decimal

/-- A finite number of 64-bit floating point without its sign: `significand * 2 ^ exponent`. -/
structure Binary64 where
  significand : Nat
  exponent : Int
deriving DecidableEq, Repr

namespace Binary64

/-- The exponent of the smallest numbers. -/
def minExponent : Int := -1074

/-- The exponent of the largest numbers. -/
def maxExponent : Int := 971

/-- The number zero. -/
def zero : Binary64 := ⟨0, minExponent⟩

/-- A quotient rounded to the nearest natural number, a tie to the even one. -/
def roundQuotient (num den : Nat) : Nat :=
  let floor := num / den
  let rest := 2 * (num % den)
  if rest < den then floor
  else if den < rest then floor + 1
  else floor + floor % 2

/-- A quotient as numerator and denominator after division by a power of two. -/
def scaleDown (num den : Nat) (exponent : Int) : Nat × Nat :=
  if 0 ≤ exponent then (num, den * Nat.pow 2 exponent.toNat)
  else (num * Nat.pow 2 (-exponent).toNat, den)

/-- The largest power of two that does not pass a quotient, by its exponent. -/
def binaryLog (num den : Nat) : Int :=
  let guess : Int := num.log2 - den.log2
  let (n, d) := scaleDown num den guess
  if n < d then guess - 1 else guess

/-- The number nearest to a quotient, if it is not too large. -/
def nearest? (num den : Nat) : Option Binary64 :=
  if num = 0 then some zero
  else
    let exponent := max (binaryLog num den - 52) minExponent
    let (n, d) := scaleDown num den exponent
    let significand := roundQuotient n d
    let result : Binary64 :=
      if significand = Nat.pow 2 53 then ⟨Nat.pow 2 52, exponent + 1⟩
      else ⟨significand, exponent⟩
    if maxExponent < result.exponent then none else some result

end Binary64

end PacketLink.Decimal
