import GuardedSms.Capability

/-!
# Scripted validators

A scripted validator answers from a script first, one line a call. When that is used up, the first
rule that fits the call decides, and a fixed verdict if none does.
-/
namespace GuardedSms

/-- A verdict for calls with some number, some region, or both. -/
structure StubRule where
  number : Option String
  region : Option String
  verdict : Verdict

def StubRule.fits (r : StubRule) (number region : String) : Bool :=
  r.number.all (· == number) && r.region.all (· == region)

structure Stub where
  script : List Verdict := []
  rules : List StubRule := []
  otherwise : Verdict := .ok false

/-- The verdict of a call when some lines of the script are used up. -/
def Stub.verdict (s : Stub) (used : Nat) (number region : String) : Verdict :=
  match s.script[used]? with
  | some verdict => verdict
  | none =>
    match s.rules.find? (·.fits number region) with
    | some rule => rule.verdict
    | none => s.otherwise

/-- A copy of a scripted validator: the one that all share under a name, or one that belongs to a
single step in the assembly of a notifier. -/
inductive Instance where
  | shared (name : String)
  | owned (notifier position : Nat)
  deriving DecidableEq

/-- How often each copy has been called. -/
abbrev Usage : Type := Instance → Nat

def Usage.none : Usage := fun _ => 0

def Usage.count (u : Usage) (copy : Instance) : Usage := fun i =>
  if i = copy then u i + 1 else u i

def Stub.validator (s : Stub) (copy : Instance) : Validator Usage := fun number region => do
  let usage : Usage ← get
  set (usage.count copy)
  return s.verdict (usage copy) number region

end GuardedSms
