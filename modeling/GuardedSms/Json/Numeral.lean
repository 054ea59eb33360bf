import GuardedSms.Json.Token

/-!
# Numerals

A numeral without fraction and exponent is an integer as long as it fits in 64 bits, unsigned or
negative; every other numeral is a floating point number. Minus zero is one too.
-/
namespace GuardedSms.Json

def isDigit (c : Char) : Bool := '0' ≤ c && c ≤ '9'

def digitValue (c : Char) : Nat := c.toNat - '0'.toNat

/-- The run of digits at the front. -/
def spanDigits (cs : List Char) : List Char × List Char := cs.span isDigit

/-- A run of at least one digit. -/
def readDigits (cs : List Char) : Except Fault (List Char × List Char) :=
  match spanDigits cs with
  | ([], []) => .error .endOfText
  | ([], _ :: _) => .error .malformed
  | (digits, rest) => .ok (digits, rest)

/-- The digits before the point, without superfluous zeros. -/
def readWhole (cs : List Char) : Except Fault (List Char × List Char) := do
  let (digits, rest) ← readDigits cs
  match digits with
  | '0' :: _ :: _ => throw .malformed
  | _ => return (digits, rest)

/-- The digits after the point, none without a point. -/
def readFraction : List Char → Except Fault (Option (List Char) × List Char)
  | '.' :: rest => do
    let (digits, rest) ← readDigits rest
    return (some digits, rest)
  | cs => .ok (none, cs)

def readSign : List Char → Bool × List Char
  | '+' :: rest => (false, rest)
  | '-' :: rest => (true, rest)
  | cs => (false, cs)

def readExponent : List Char → Except Fault (Option Int × List Char)
  | c :: rest =>
    if c = 'e' ∨ c = 'E' then do
      let (negative, rest) := readSign rest
      let (digits, rest) ← readDigits rest
      let magnitude : Int := (digits.foldl (fun n d => n * 10 + digitValue d) 0 : Nat)
      return (some (if negative then -magnitude else magnitude), rest)
    else .ok (none, c :: rest)
  | [] => .ok (none, [])

/-- Whether a significand still fits in 64 bits. -/
def fits (significand : Nat) : Bool := significand < UInt64.size

/-- Add digits to a significand while it fits, and count those left over. -/
def gather (significand : Nat) : List Char → Nat × Nat
  | [] => (significand, 0)
  | d :: rest =>
    if fits (significand * 10 + digitValue d) then gather (significand * 10 + digitValue d) rest
    else (significand, rest.length + 1)

/-- The magnitude of a numeral by its parts. Digits that do not fit count by their place alone. -/
def magnitude? (whole fraction : List Char) (exponent : Int) : Option Binary64 :=
  let (significand, left) := gather 0 whole
  let (significand, lost) := gather significand fraction
  Binary64.ofDecimal significand (left + exponent - (fraction.length - lost : Nat))

/-- The integer that the digits write, if it fits. -/
def integer? (negative : Bool) (whole : List Char) : Option Int :=
  match gather 0 whole with
  | (n, 0) =>
    if !negative then some n
    else if 0 < n ∧ 2 * n ≤ UInt64.size then some (-n)
    else none
  | _ => none

/-- The value of a numeral, none if it is too large. -/
def numeral? (negative : Bool) (whole : List Char) (fraction : Option (List Char))
    (exponent : Option Int) : Option Shape :=
  match fraction, exponent, integer? negative whole with
  | none, none, some n => some (.integer n)
  | _, _, _ =>
    (magnitude? whole (fraction.getD []) (exponent.getD 0)).map (.floating negative)

/-- A numeral after its sign. -/
def readNumeral (negative : Bool) (cs : List Char) : Except Fault (Shape × List Char) := do
  let (whole, rest) ← readWhole cs
  let (fraction, rest) ← readFraction rest
  let (exponent, rest) ← readExponent rest
  match numeral? negative whole fraction exponent with
  | some shape => return (shape, rest)
  | none => throw .malformed

end GuardedSms.Json
