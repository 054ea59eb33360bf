import GuardedSms.Guard
import GuardedSms.Journaled
import GuardedSms.Json

/-!
# Rules

Guards described as data. Tests and replies share integer variables; every call of a predicate or
of a branch is recorded under the name of its rule.
-/
namespace GuardedSms.Script

/-- Integer variables by name. -/
abbrev Variables : Type := List (String × Int)

namespace Variables

/-- The value of a variable, zero if it has none. -/
def value (vs : Variables) (name : String) : Int := (vs.lookup name).getD 0

def assign (vs : Variables) (name : String) (n : Int) : Variables :=
  match vs with
  | [] => [(name, n)]
  | (x, v) :: rest => if x = name then (x, n) :: rest else (x, v) :: assign rest name n

def bump (vs : Variables) (name : String) : Variables := vs.assign name (vs.value name + 1)

end Variables

inductive Call where
  | tested (rule : String) (result : Bool)
  | fired (rule : String)
  deriving DecidableEq

def Call.text : Call → String
  | tested rule result => "p:" ++ rule ++ "=" ++ (if result then "true" else "false")
  | fired rule => "b:" ++ rule

abbrev Machine : Type := Journaled Call Variables

def bump (name : String) : Action Machine Unit :=
  Journaled.beside (modify fun vs : Variables => vs.bump name)

def valueOf (name : String) : Action Machine Int := do return (← get).state.value name

inductive Comparison where
  | eq
  | ne
  | lt
  | le
  | gt
  | ge

def Comparison.holds (a b : Int) : Comparison → Bool
  | eq => a = b
  | ne => a ≠ b
  | lt => a < b
  | le => a ≤ b
  | gt => a > b
  | ge => a ≥ b

inductive Test where
  | constant (value : Bool)
  | compare (name : String) (comparison : Comparison) (bound : Int)
  | bump (name : String) (next : Test)

def Test.eval : Test → Action Machine Bool
  | constant value => pure value
  | compare name comparison bound => do return comparison.holds (← valueOf name) bound
  | bump name next => do
    Script.bump name
    next.eval

mutual

inductive Reply where
  | success (value : Json)
  | failure (message : String)
  | variable (name : String)
  | bump (name : String) (next : Reply)
  | select (rules : List Rule) (fallback : Reply)

inductive Rule where
  | tested (name : String) (test : Test) (reply : Reply)
  | failing (name : String) (test : Test) (message : String)
  | always (name : String) (reply : Reply)

end

/-- The name under which the branch of a fallback is recorded. -/
def fallbackName : String := "default"

def recordedTest (name : String) (test : Test) : Action Machine Bool := do
  let result ← test.eval
  Journaled.record (.tested name result)
  return result

def recordedBranch {α : Type} (name : String) (branch : Action Machine α) : Action Machine α := do
  Journaled.record (.fired name)
  branch

mutual

def Reply.eval : Reply → Action Machine (Outcome Json)
  | .success value => pure (.success value)
  | .failure message => pure (.failure message)
  | .variable name => do return .success (.int (← valueOf name))
  | .bump name next => do
    Script.bump name
    next.eval
  | .select rules fallback =>
    Chain.eval ⟨guardsOf rules, recordedBranch fallbackName fallback.eval⟩

/-- The guard that a rule describes. A failing rule has no branch to record, one that always
holds no predicate. -/
def Rule.guard : Rule → Guard Machine Json
  | .tested name test reply => ⟨recordedTest name test, recordedBranch name reply.eval⟩
  | .failing name test message => Guard.failing (recordedTest name test) message
  | .always name reply => Guard.always (recordedBranch name reply.eval)

def guardsOf : List Rule → List (Guard Machine Json)
  | [] => []
  | rule :: rest => rule.guard :: guardsOf rest

end

def Reply.fallback (r : Reply) : Action Machine (Outcome Json) :=
  recordedBranch fallbackName r.eval

end GuardedSms.Script
