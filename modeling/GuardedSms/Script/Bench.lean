import GuardedSms.Guard.Draft
import GuardedSms.Script.Rule

/-!
# Guards on the bench

Steps that try out a list of guards and a fallback one by one, or change the list.
-/
namespace GuardedSms.Script

inductive Answer where
  | nothing
  | flag (value : Bool)
  | outcome (outcome : Outcome Json)
  | outOfRange

/-- What a step did: its answer, the calls it made, and the variables after it. -/
structure Report where
  answer : Answer
  calls : List Call
  store : Variables

def reportOf (a : Action Machine Answer) : Action Machine Report := do
  let (answer, calls) ← Journaled.recording a
  return ⟨answer, calls, (← get).state⟩

abbrev Guards : Type := List (Guard Machine Json)

inductive Step where
  | select
  | selectSlice (first last : Nat)
  | check (index : Nat)
  | fire (index : Nat)
  | checkFallback
  | fireFallback
  | assign (name : String) (value : Int)
  | push (rule : Rule)
  | reverse
  | remove (index : Nat)

namespace Step

variable (fallback : Action Machine (Outcome Json))

def selectFrom (guards : Guards) : Action Machine Answer := do
  return .outcome (← Chain.eval ⟨guards, fallback⟩)

/-- What a step answers for a list of guards. -/
def answer (guards : Guards) : Step → Action Machine Answer
  | select => selectFrom fallback guards
  | selectSlice first last =>
    if first ≤ last ∧ last ≤ guards.length then
      selectFrom fallback ((guards.take last).drop first)
    else pure .outOfRange
  | check index =>
    match guards[index]? with
    | some guard => do return .flag (← guard.predicate)
    | none => pure .outOfRange
  | fire index =>
    match guards[index]? with
    | some guard => do return .outcome (← guard.branch)
    | none => pure .outOfRange
  | checkFallback => do return .flag (← (Guard.always fallback).predicate)
  | fireFallback => do return .outcome (← fallback)
  | assign name value => do
    Journaled.beside (modify fun vs : Variables => vs.assign name value)
    return .nothing
  | push _ | reverse => pure .nothing
  | remove index => pure (if index < guards.length then .nothing else .outOfRange)

/-- The list of guards after a step. -/
def guardsAfter (guards : Guards) : Step → Guards
  | push rule => guards ++ [rule.guard]
  | reverse => guards.reverse
  | remove index => guards.eraseIdx index
  | _ => guards

end Step

def runSteps (fallback : Action Machine (Outcome Json)) (guards : Guards) :
    List Step → Action Machine (List Report)
  | [] => pure []
  | step :: rest => do
    let report ← reportOf (step.answer fallback guards)
    return report :: (← runSteps fallback (step.guardsAfter guards) rest)

/-- Build the guards, which calls nothing, and run the steps. -/
def runBench (rules : List Rule) (fallback : Reply) (steps : List Step) :
    Action Machine (List Report) := do
  let built ← reportOf (pure .nothing)
  return built :: (← runSteps fallback.fallback (guardsOf rules) steps)

/-! ## Drafts -/

/-- A call on a guard draft. Its closures are recorded under the position of the call. -/
inductive DraftCall where
  | predicate (test : Test)
  | branch (reply : Reply)
  | failure (message : String)

def DraftCall.write (position : Nat) : DraftCall → Guard.Draft.Write Machine Json
  | predicate test => .predicate (recordedTest (toString position) test)
  | branch reply => .branch (recordedBranch (toString position) reply.eval)
  | failure message => .failure message

def draftOf (calls : List DraftCall) : Guard.Draft Machine Json :=
  .ofWrites (calls.zipIdx.map fun (call, position) => call.write position)

/-- Draft a guard and, if it is complete, run steps on it alone. -/
def runDraft (calls : List DraftCall) (steps : List Step) :
    Except AssemblyError (Action Machine (List Report)) := do
  let guard ← (draftOf calls).build
  return do
    let built ← reportOf (pure .nothing)
    return built :: (← runSteps (Reply.success (.str "default")).fallback [guard] steps)

end GuardedSms.Script
