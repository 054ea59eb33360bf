import GuardedSms.Guard

/-!
# Guard drafts

A guard put together part by part. A part that is written again replaces the earlier one. The
predicate is missed before the branch.
-/
namespace GuardedSms.Guard

structure Draft (σ α : Type) where
  predicate : Option (Action σ Bool) := none
  branch : Option (Action σ (Outcome α)) := none

namespace Draft

variable {σ α : Type}

def withPredicate (d : Draft σ α) (p : Action σ Bool) : Draft σ α := { d with predicate := some p }

def withBranch (d : Draft σ α) (b : Action σ (Outcome α)) : Draft σ α := { d with branch := some b }

def withFailure (d : Draft σ α) (message : String) : Draft σ α :=
  d.withBranch (pure (.failure message))

/-- One part of a guard. -/
inductive Write (σ α : Type) where
  | predicate (p : Action σ Bool)
  | branch (b : Action σ (Outcome α))
  | failure (message : String)

def write (d : Draft σ α) : Write σ α → Draft σ α
  | .predicate p => d.withPredicate p
  | .branch b => d.withBranch b
  | .failure message => d.withFailure message

/-- The draft after writing parts in order. -/
def ofWrites (writes : List (Write σ α)) : Draft σ α := writes.foldl write {}

def build (d : Draft σ α) : Except AssemblyError (Guard σ α) := do
  let some predicate := d.predicate | throw .missingPredicate
  let some branch := d.branch | throw .missingBranch
  return ⟨predicate, branch⟩

@[simp] theorem build_complete (p : Action σ Bool) (b : Action σ (Outcome α)) :
    build ⟨some p, some b⟩ = .ok ⟨p, b⟩ := rfl

@[simp] theorem build_without_predicate (b : Option (Action σ (Outcome α))) :
    build ⟨none, b⟩ = .error .missingPredicate := rfl

@[simp] theorem build_without_branch (p : Action σ Bool) :
    build (σ := σ) (α := α) ⟨some p, none⟩ = .error .missingBranch := rfl

end Draft

end GuardedSms.Guard
