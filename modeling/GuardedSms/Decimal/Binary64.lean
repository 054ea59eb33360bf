/-!
# Double precision magnitudes

A magnitude is `mantissa * 2 ^ exponent`, with a mantissa of at most 53 bits. Ratios are rounded
to the nearest magnitude and ties go to the even mantissa, all in exact arithmetic.
-/
namespace GuardedSms

/-- A finite non-negative double: the mantissa has 53 bits unless the exponent is the least. -/
structure Binary64 where
  mantissa : Nat
  exponent : Int
  deriving DecidableEq

namespace Binary64

def leastExponent : Int := -1074
def greatestExponent : Int := 971
def mantissaBits : Nat := 53

def zero : Binary64 := ⟨0, leastExponent⟩

def isZero (x : Binary64) : Bool := x.mantissa == 0

/-- A quotient rounded to the nearest integer, a tie to the even one. -/
def roundDiv (num den : Nat) : Nat :=
  let quotient := num / den
  match compare (2 * (num % den)) den with
  | .lt => quotient
  | .gt => quotient + 1
  | .eq => quotient + quotient % 2

/-- The ratio `num / den * 2 ^ shift` as a numerator and a denominator. -/
def scale (num den : Nat) (shift : Int) : Nat × Nat :=
  if 0 ≤ shift then (num <<< shift.toNat, den) else (num, den <<< (-shift).toNat)

/-- The magnitude nearest to a ratio, none if it is too large. -/
def ofRatio (num den : Nat) : Option Binary64 :=
  if num = 0 then some zero
  else
    let guess : Int := (num.log2 : Int) - den.log2 - (mantissaBits - 1 : Nat)
    let (n, d) := scale num den (-guess)
    let exponent := max leastExponent (if n < d <<< (mantissaBits - 1) then guess - 1 else guess)
    let (n, d) := scale num den (-exponent)
    let mantissa := roundDiv n d
    let x : Binary64 :=
      if mantissa = 1 <<< mantissaBits then ⟨1 <<< (mantissaBits - 1), exponent + 1⟩
      else ⟨mantissa, exponent⟩
    if x.exponent ≤ greatestExponent then some x else none

def mul (x y : Binary64) : Option Binary64 :=
  let (num, den) := scale (x.mantissa * y.mantissa) 1 (x.exponent + y.exponent)
  ofRatio num den

def div (x y : Binary64) : Option Binary64 :=
  let (num, den) := scale x.mantissa y.mantissa (x.exponent - y.exponent)
  ofRatio num den

def powerOfTen (k : Nat) : Option Binary64 := ofRatio (Nat.pow 10 k) 1

/-- The greatest power of ten that is a magnitude. -/
def greatestPower : Nat := 308

/-- Divide by a power of ten, rounding after each step of at most the greatest power. Three steps
bring any 64-bit significand to zero. -/
def divPowerOfTen (x : Binary64) (k : Nat) : (steps : Nat) → Option Binary64
  | 0 => some zero
  | steps + 1 =>
    if k ≤ greatestPower then do x.div (← powerOfTen k)
    else if x.isZero then some zero
    else do (← x.div (← powerOfTen greatestPower)).divPowerOfTen (k - greatestPower) steps

/-- The magnitude of `significand * 10 ^ exponent`: the significand is rounded first, then its
product or quotient with a rounded power of ten. None if it is too large. -/
def ofDecimal (significand : Nat) (exponent : Int) : Option Binary64 := do
  let x ← ofRatio significand 1
  if exponent < 0 then x.divPowerOfTen (-exponent).toNat 3
  else if exponent ≤ greatestPower then x.mul (← powerOfTen exponent.toNat)
  else if x.isZero then some zero
  else none

example : ofDecimal 15 (-1) = some ⟨0x18000000000000, -52⟩ := by decide +kernel
example : ofDecimal 1 400 = none := by decide +kernel
example : ofDecimal 1 (-400) = some zero := by decide +kernel

end Binary64

end GuardedSms
