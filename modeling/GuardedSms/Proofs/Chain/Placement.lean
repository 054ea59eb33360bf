import GuardedSms.Proofs.Chain.FirstMatch

/-!
# One guard in a chain

A chain is also a recursion over its guards. In that form it shows what one guard adds to a record
that all other guards leave alone: whatever stands before and behind it, the guard is called at most
once, and only if no guard before it matches.

## Main definitions

* `Chain.evalFrom`: a chain as a recursion over its guards.
* `Guard.noting`: a guard that adds entries to a record when it is called.
* `Chain.entriesOf`: what such a guard adds in a run of a chain.

## Main statements

* `Chain.eval_eq_evalFrom`: a chain is the recursion over its guards.
* `Chain.run_evalFrom_placed`: a chain with one guard whose calls are recorded.
-/
namespace GuardedSms

variable {σ α β : Type}

/-! ## Entries in a record -/

/-- Add some entries to the record, and run an action beside it. -/
def Journaled.noting {ε : Type} (entries : List ε) (a : Action σ β) :
    Action (Journaled ε σ) β := do
  modify fun w => { w with entries := w.entries ++ entries }
  beside a

@[simp] theorem Journaled.run_noting {ε : Type} (entries : List ε) (a : Action σ β)
    (w : Journaled ε σ) :
    (noting entries a).run w =
      ⟨(a.run w.state).value, ⟨(a.run w.state).state, w.entries ++ entries⟩,
        (a.run w.state).events⟩ := by
  simp [noting]

/-- A guard that runs beside a record. -/
def Guard.beside {ε : Type} (g : Guard σ α) : Guard (Journaled ε σ) α :=
  ⟨Journaled.beside g.predicate, Journaled.beside g.branch⟩

/-- A guard that adds entries to the record, some when its predicate runs, some with its branch. -/
def Guard.noting {ε : Type} (checked fired : List ε) (g : Guard σ α) : Guard (Journaled ε σ) α :=
  ⟨Journaled.noting checked g.predicate, Journaled.noting fired g.branch⟩

namespace Chain

/-! ## Chains by recursion -/

/-- A chain whose guards are counted from `start`. -/
def evalFrom (start : Nat) (fallback : Action σ (Outcome α)) :
    List (Guard σ α) → Action σ (Outcome α)
  | [] => do
    Action.emit (.noGuardMatched start)
    fallback
  | g :: rest => do
    if ← g.predicate then
      Action.emit (.guardMatched start)
      g.branch
    else evalFrom (start + 1) fallback rest

/-- What a chain does with what its search found. -/
def conclude (guards : Nat) (fallback : Action σ (Outcome α)) :
    Option (Nat × Guard σ α) → Action σ (Outcome α)
  | some (index, guard) => do
    Action.emit (.guardMatched index)
    guard.branch
  | none => do
    Action.emit (.noGuardMatched guards)
    fallback

theorem firstHolding_conclude (start : Nat) (fallback : Action σ (Outcome α))
    (gs : List (Guard σ α)) :
    Guard.firstHolding start gs >>= conclude (start + gs.length) fallback =
      evalFrom start fallback gs := by
  induction gs generalizing start with
  | nil => simp [Guard.firstHolding, conclude, evalFrom]
  | cons g gs ih =>
    simp only [Guard.firstHolding, evalFrom, bind_assoc]
    refine bind_congr fun holds => ?_
    cases holds with
    | true => simp [conclude]
    | false =>
      have counted : start + (g :: gs).length = start + 1 + gs.length := by
        rw [List.length_cons]
        omega
      rw [counted]
      simpa using ih (start + 1)

theorem eval_eq_evalFrom (c : Chain σ α) : c.eval = evalFrom 0 c.fallback c.guards := by
  rw [← firstHolding_conclude, Nat.zero_add]
  rfl

/-! ## One guard among others -/

section Placed

variable {ε : Type} (fallback : Action σ (Outcome α))

theorem run_evalFrom_beside (start : Nat) (gs : List (Guard σ α)) (w : Journaled ε σ) :
    (evalFrom start (Journaled.beside fallback) (gs.map Guard.beside)).run w =
      let ran := (evalFrom start fallback gs).run w.state
      ⟨ran.value, ⟨ran.state, w.entries⟩, ran.events⟩ := by
  induction gs generalizing start w with
  | nil => simp [evalFrom]
  | cons g gs ih =>
    cases h : (g.predicate.run w.state).value <;> simp [evalFrom, Guard.beside, h, ih]

/-- What a guard behind others adds to the record: nothing if one of those matches, and else the
entries of its predicate, and those of its branch if the predicate holds. -/
def entriesOf (before : List (Guard σ α)) (g : Guard σ α) (checked fired : List ε) (s : σ) :
    List ε :=
  match Guard.firstMatch before s with
  | some _ => []
  | none =>
    if (g.predicate.run (Guard.stateAfter before s)).value then checked ++ fired else checked

theorem entriesOf_cons {g' : Guard σ α} {before : List (Guard σ α)} (g : Guard σ α)
    (checked fired : List ε) {s : σ} (passed : (g'.predicate.run s).value = false) :
    entriesOf (g' :: before) g checked fired s =
      entriesOf before g checked fired (g'.predicate.run s).state := by
  unfold entriesOf
  rw [Guard.firstMatch_cons, passed]
  cases Guard.firstMatch before (g'.predicate.run s).state <;> rfl

/-- A chain with one guard that adds to the record runs as the chain without the record. -/
theorem run_evalFrom_placed (start : Nat) (gs hs : List (Guard σ α)) (g : Guard σ α)
    (checked fired : List ε) (w : Journaled ε σ) :
    (evalFrom start (Journaled.beside fallback)
      (gs.map Guard.beside ++ g.noting checked fired :: hs.map Guard.beside)).run w =
      let ran := (evalFrom start fallback (gs ++ g :: hs)).run w.state
      ⟨ran.value, ⟨ran.state, w.entries ++ entriesOf gs g checked fired w.state⟩, ran.events⟩ := by
  induction gs generalizing start w with
  | nil =>
    cases h : (g.predicate.run w.state).value <;>
      simp [evalFrom, Guard.noting, entriesOf, h, run_evalFrom_beside]
  | cons g' gs ih =>
    cases h : (g'.predicate.run w.state).value with
    | true => simp [evalFrom, Guard.beside, entriesOf, Guard.firstMatch_cons, h]
    | false => simp [evalFrom, Guard.beside, entriesOf_cons, h, ih]

end Placed

end Chain

end GuardedSms
