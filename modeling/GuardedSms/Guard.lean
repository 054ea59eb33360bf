import GuardedSms.Action
import GuardedSms.Outcome

/-!
# Guards and chains

A guard is a predicate with a branch; both are actions and run only when asked. A chain runs the
predicates in order up to the first that holds, then that guard's branch and nothing else. If
none holds it runs its fallback.
-/
namespace GuardedSms

structure Guard (σ α : Type) where
  predicate : Action σ Bool
  branch : Action σ (Outcome α)

namespace Guard

variable {σ α : Type}

/-- A guard that always lets its branch run. -/
def always (branch : Action σ (Outcome α)) : Guard σ α := ⟨pure true, branch⟩

/-- A guard that fails with a fixed message when its predicate holds. -/
def failing (predicate : Action σ Bool) (message : String) : Guard σ α :=
  ⟨predicate, pure (.failure message)⟩

/-- The first guard whose predicate holds, with its position counted from `start`. The predicates
before it run once each, those after it do not run. -/
def firstHolding (start : Nat) : List (Guard σ α) → Action σ (Option (Nat × Guard σ α))
  | [] => pure none
  | g :: rest => do
    if ← g.predicate then
      return some (start, g)
    firstHolding (start + 1) rest

end Guard

structure Chain (σ α : Type) where
  guards : List (Guard σ α)
  fallback : Action σ (Outcome α)

namespace Chain

variable {σ α : Type}

def eval (c : Chain σ α) : Action σ (Outcome α) := do
  match ← Guard.firstHolding 0 c.guards with
  | some (index, guard) =>
    Action.emit (.guardMatched index)
    guard.branch
  | none =>
    Action.emit (.noGuardMatched c.guards.length)
    c.fallback

@[simp] theorem eval_nil (fallback : Action σ (Outcome α)) :
    eval ⟨[], fallback⟩ = (do Action.emit (.noGuardMatched 0); fallback) := rfl

end Chain

end GuardedSms
