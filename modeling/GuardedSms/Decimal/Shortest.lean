import GuardedSms.Decimal.Binary64

/-!
# Shortest decimals

The text of a magnitude has the fewest digits that read back as it, the nearest of those, and of
two equally near ones the even. It is positional with at most sixteen digits before the point or
four zeros after it, and scientific otherwise.
-/
namespace GuardedSms.Binary64

/-- `c * 10 ^ p` against `n * 2 ^ q`. -/
def compareScaled (c : Nat) (p : Int) (n : Nat) (q : Int) : Ordering :=
  compare ((c * Nat.pow 10 p.toNat) <<< (-q).toNat) ((n * Nat.pow 10 (-p).toNat) <<< q.toNat)

/-- The interval of numbers that round to `x`, in quarters of its unit. -/
def roundingInterval (x : Binary64) : Nat × Nat :=
  let below := if x.mantissa = 1 <<< (mantissaBits - 1) ∧ leastExponent < x.exponent then 1 else 2
  (4 * x.mantissa - below, 4 * x.mantissa + 2)

/-- Whether `c * 10 ^ p` rounds to `x`. The ends of the interval do when the mantissa is even. -/
def readsBack (x : Binary64) (c : Nat) (p : Int) : Bool :=
  let (low, high) := x.roundingInterval
  let even := x.mantissa % 2 = 0
  let above := compareScaled c p low (x.exponent - 2)
  let below := compareScaled c p high (x.exponent - 2)
  (above == .gt || (even && above == .eq)) && (below == .lt || (even && below == .eq))

/-- The exponent of the leading digit, found from `guess` downwards. -/
def leadingExponent (x : Binary64) : (guess : Int) → (fuel : Nat) → Int
  | guess, 0 => guess
  | guess, fuel + 1 =>
    if compareScaled 1 guess x.mantissa x.exponent == .gt then x.leadingExponent (guess - 1) fuel
    else guess

/-- The multiple of `10 ^ p` that reads back as `x`, if there is one, next to it. -/
def onGrid (x : Binary64) (p : Int) : Option Nat :=
  let num := (x.mantissa * Nat.pow 10 (-p).toNat) <<< x.exponent.toNat
  let den := Nat.pow 10 p.toNat <<< (-x.exponent).toNat
  let floor := num / den
  let nearest := roundDiv num den
  let other := if nearest = floor then floor + 1 else floor
  if x.readsBack nearest p then some nearest
  else if x.readsBack other p then some other
  else none

/-- The digits of the first grid that has a hit, with the power of ten they count. -/
def shortestFrom (x : Binary64) (p : Int) : (fuel : Nat) → Nat × Int
  | 0 => (0, 0)
  | fuel + 1 =>
    match x.onGrid p with
    | some c => (c, p)
    | none => x.shortestFrom (p - 1) fuel

def shortest (x : Binary64) : Nat × Int :=
  x.shortestFrom (x.leadingExponent 309 700) 20

def dropTrailingZeros (digits : List Char) : List Char :=
  (digits.reverse.dropWhile (· == '0')).reverse

/-- Lay out digits whose point stands after `point` of them. -/
def layOut (digits : List Char) (point : Int) : List Char :=
  let n : Int := digits.length
  if n ≤ point ∧ point ≤ 16 then
    digits ++ List.replicate (point - n).toNat '0' ++ ['.', '0']
  else if 0 < point ∧ point ≤ 16 then
    digits.take point.toNat ++ '.' :: digits.drop point.toNat
  else if -5 < point ∧ point ≤ 0 then
    ['0', '.'] ++ List.replicate (-point).toNat '0' ++ digits
  else
    let fraction := if digits.length = 1 then [] else '.' :: digits.drop 1
    digits.take 1 ++ fraction ++ 'e' :: (toString (point - 1)).toList

def text (x : Binary64) : String :=
  if x.isZero then "0.0"
  else
    let (c, p) := x.shortest
    let digits := Nat.toDigits 10 c
    String.ofList (layOut (dropTrailingZeros digits) (digits.length + p))

end GuardedSms.Binary64
