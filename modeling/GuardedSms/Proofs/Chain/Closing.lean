import GuardedSms.Proofs.Chain.Splitting

/-!
# Closing chains

A fallback can also stand among the guards of a longer chain, as a guard that always holds. It
closes the chain there: nothing behind it is ever reached. So the longer chain does what the chain up
to that guard does on its own, with the guard as its fallback. The trace tells the difference where
no guard before it matches: the closing guard is a match, the fallback is not.

## Main definitions

* `Chain.closedBefore`: a chain whose fallback stands as a guard before another chain.
* `Chain.ClosingAgrees`: what the closed chain and the chain itself have in common.

## Main statements

* `Chain.closing_agrees`: a chain agrees with the chain that it closes.
-/
namespace GuardedSms

variable {σ α : Type}

/-- The event of a chain with its fallback as the last guard: to fall back is to match there. -/
def Event.closing : Event → Event
  | .noGuardMatched guards => .guardMatched guards
  | e => e

/-- A search ends at a guard that always holds. -/
@[simp] theorem Guard.firstHolding_always (start : Nat) (branch : Action σ (Outcome α))
    (hs : List (Guard σ α)) :
    firstHolding start (always branch :: hs) = pure (some (start, always branch)) := by
  simp [firstHolding, always]

namespace Chain

/-- The guards of a chain and its fallback as one more guard, before the guards and the fallback of
another chain. -/
def closedBefore (c later : Chain σ α) : Chain σ α :=
  ⟨c.guards ++ [Guard.always c.fallback] ++ later.guards, later.fallback⟩

/-- A closed chain tries and runs what the chain itself does, whatever stands behind the guard that
closes it. -/
theorem run_closedBefore (c later : Chain σ α) (s : σ) :
    (c.closedBefore later).eval.run s =
      let checked := Guard.tried c.guards s
      let ran := (c.chosen s).run (Guard.stateAfter checked s)
      ⟨ran.value, ran.state, Guard.eventsOf checked s ++ (c.choice s).closing :: ran.events⟩ := by
  simp only [closedBefore, eval, List.append_assoc, List.singleton_append,
    Guard.firstHolding_append, Guard.firstHolding_always, Action.run_bind, Guard.run_firstHolding]
  simp only [Guard.tried, choice, chosen]
  cases Guard.firstMatch c.guards s <;> simp [Event.closing, Guard.always]

/-- What a closed chain has in common with the chain itself, in a recorded state. -/
structure ClosingAgrees (c later : Chain σ α) (w : Journaled Call σ) : Prop where
  value : ((c.closedBefore later).eval.run w.state).value = (c.eval.run w.state).value
  state : ((c.closedBefore later).eval.run w.state).state = (c.eval.run w.state).state
  /-- The same predicates, branches and fallback are called in the same order. Of the other chain
  nothing is called, whatever it would do or record. -/
  calls : ∀ recordedLater : Chain (Journaled Call σ) α,
    ((c.recorded.closedBefore recordedLater).eval.run w).state = (c.recorded.eval.run w).state
  /-- If a guard before the closing one matches, the events are the same. -/
  matched : ∀ i, Guard.firstMatch c.guards w.state = some i →
    ((c.closedBefore later).eval.run w.state).events = (c.eval.run w.state).events
  /-- If none does, the chain tells that it falls back, and the closed chain that the guard behind
  all of them matches. -/
  unmatched : Guard.firstMatch c.guards w.state = none →
    ∃ ran, (c.eval.run w.state).events =
        Guard.eventsOf c.guards w.state ++ .noGuardMatched c.guards.length :: ran ∧
      ((c.closedBefore later).eval.run w.state).events =
        Guard.eventsOf c.guards w.state ++ .guardMatched c.guards.length :: ran

theorem closing_agrees (c later : Chain σ α) (w : Journaled Call σ) : ClosingAgrees c later w := by
  refine ⟨?value, ?state, ?calls, ?matched, ?unmatched⟩
  case value => rw [run_closedBefore, run_eval_eq]
  case state => rw [run_closedBefore, run_eval_eq]
  case calls =>
    intro recordedLater
    rw [run_closedBefore, run_eval_eq]
  case matched =>
    intro i h
    have same : (c.choice w.state).closing = c.choice w.state := by simp [choice, h, Event.closing]
    rw [run_closedBefore, run_eval_eq, same]
  case unmatched =>
    intro h
    have fallsBack : c.choice w.state = .noGuardMatched c.guards.length := by simp [choice, h]
    refine ⟨((c.chosen w.state).run (Guard.stateAfter c.guards w.state)).events, ?_, ?_⟩
    · rw [run_eval_eq, Guard.tried_of_none h, fallsBack]
    · rw [run_closedBefore, Guard.tried_of_none h, fallsBack, Event.closing]

end Chain

end GuardedSms
