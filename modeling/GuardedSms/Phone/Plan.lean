import GuardedSms.Phone.Digit
import GuardedSms.Phone.Pattern

/-!
# Numbering plans

How numbers are dialled in a region: what goes before a number inside the region, and what to leave
it. A plan tells this of its region, and also how the numbers of the region are built and which
kinds of them there are.
-/
namespace GuardedSms.Phone

/-- A part of what takes the place of a trunk code. -/
inductive Piece where
  | digits (ds : List Digit)
  | group (number : Nat)

/-- Numbers of some lengths that begin in some way. -/
structure Kind where
  lengths : List Nat
  pattern : Pattern Digit

/-- How numbers are dialled in a region, whosever numbers they are. -/
structure Home where
  region : String
  code : Nat
  /-- What is dialled before a number of another region. -/
  exitCode : Option (Pattern Digit) := none
  /-- What is dialled before a number inside the region. -/
  trunkCode : Option (List Digit) := none
  /-- All that may be dialled before a number inside the region, where a fixed code does not
  tell. -/
  trunkPattern : Option (Pattern Digit) := none
  /-- What takes the place of the trunk pattern when its last group took part. -/
  rewriting : Option (List Piece) := none

/-- The numbers of a region, and how they are dialled there. -/
structure Plan extends Home where
  /-- The beginnings by which a plan that shares its code claims numbers. -/
  leading : Option (Pattern Digit) := none
  general : Pattern Digit
  kinds : List Kind

namespace Plan

/-! ## Patterns of plans -/

def word (s : String) : Pattern Digit := .word (Digit.ofText s)

def oneOf (s : String) : Pattern Digit := .oneOf (Digit.ofText s)

/-- A number of digits between two bounds, or of exactly the one bound. -/
def digits (least : Nat) (most : Nat := least) : Pattern Digit :=
  .times (.one fun _ => true) least (most - least)

/-! ## Judging numbers -/

def Kind.fits (k : Kind) (n : List Digit) : Bool :=
  k.lengths.contains n.length && k.pattern.matchesFront n

/-- Whether a number begins as all numbers of the plan do and is of one of its kinds. -/
def fits (p : Plan) (n : List Digit) : Bool :=
  p.general.matchesFront n && p.kinds.any (Kind.fits · n)

/-- Whether a number belongs to the plan, among plans that share a code. -/
def claims (p : Plan) (n : List Digit) : Bool :=
  match p.leading with
  | some leading => leading.matchesFront n
  | none => p.fits n

end Plan

namespace Home

/-! ## Dialling -/

/-- Leave out the code for calls abroad, if it is there and no zero follows it. -/
def cutExitCode? (h : Home) (n : List Digit) : Option (List Digit) := do
  let m ← (← h.exitCode).match? n
  if m.rest.head? = some 0 then none else some m.rest

def cutTrunkCode (h : Home) (n : List Digit) : List Digit :=
  match h.trunkCode with
  | some code => Digit.cut code n
  | none => n

def expand (groups : List (Nat × List Digit)) : Piece → List Digit
  | .digits ds => ds
  | .group number => (groups.lookup number).getD []

/-- Leave out or rewrite what the trunk pattern matches. -/
def rewriteTrunk (h : Home) (trunk : Pattern Digit) (n : List Digit) : List Digit :=
  match trunk.match? n with
  | none => n
  | some m =>
    match h.rewriting with
    | some pieces =>
      if (m.groups.lookup trunk.groupCount).isSome then
        pieces.flatMap (expand m.groups) ++ m.rest
      else m.rest
    | none => m.rest

/-- The number behind its trunk code, which is looked for twice. -/
def stripTrunk (h : Home) (n : List Digit) : List Digit :=
  h.cutTrunkCode <|
    match h.trunkPattern with
    | some trunk => h.rewriteTrunk trunk n
    | none => h.cutTrunkCode n

end Home

end GuardedSms.Phone
