import GuardedSms.Proofs.Chain.FirstMatch

/-!
# What a chain chooses

A chain tries predicates, tells what it chose, and runs what it chose. The parts of a chain's run
get names here: which guards are tried, the event of the choice, and the chosen branch.

## Main definitions

* `Guard.tried`: the guards whose predicates run.
* `Chain.choice`, `Chain.chosen`: the event of a chain, and what the chain then runs.

## Main statements

* `Chain.run_eval_eq`: a run is the predicates that are tried, the event, and what is chosen.
-/
namespace GuardedSms

variable {σ α : Type}

namespace Guard

/-- The guards whose predicates run: those up to the first match, all if there is none. -/
def tried (gs : List (Guard σ α)) (s : σ) : List (Guard σ α) :=
  match firstMatch gs s with
  | some i => gs.take (i + 1)
  | none => gs

theorem tried_of_none {gs : List (Guard σ α)} {s : σ} (h : firstMatch gs s = none) :
    tried gs s = gs := by
  simp [tried, h]

end Guard

namespace Chain

/-- The event by which a chain tells what it chose. -/
def choice (c : Chain σ α) (s : σ) : Event :=
  match Guard.firstMatch c.guards s with
  | some i => .guardMatched i
  | none => .noGuardMatched c.guards.length

/-- The branch that a chain chooses. -/
def chosen (c : Chain σ α) (s : σ) : Action σ (Outcome α) :=
  match Guard.firstMatch c.guards s with
  | some i => (c.guards.get i).branch
  | none => c.fallback

/-- A chain tries its predicates, tells what it chose, and runs that. -/
theorem run_eval_eq (c : Chain σ α) (s : σ) :
    c.eval.run s =
      let checked := Guard.tried c.guards s
      let ran := (c.chosen s).run (Guard.stateAfter checked s)
      ⟨ran.value, ran.state, Guard.eventsOf checked s ++ c.choice s :: ran.events⟩ := by
  rw [run_eval, cascade, Guard.tried, choice, chosen]
  cases Guard.firstMatch c.guards s <;> rfl

end Chain

end GuardedSms
