import GuardedSms.Guard
import GuardedSms.Journaled

/-!
# First match

A chain is the cascade of its guards: the predicates run in order, each on the state that the one
before it left, up to the first that holds; then that guard's branch runs, or the fallback if none
holds. `firstMatch` finds that guard by looking at every position, `Chain.cascade` says what is
left behind, and `Chain.recorded` is the chain with every call written down.

## Main statements

* `Chain.eval_eq_cascade`: a chain evaluates to its cascade, and calls what the cascade calls.
-/
namespace GuardedSms

variable {σ α : Type}

namespace Guard

/-- The state after the predicates of some guards ran in order. -/
def stateAfter (gs : List (Guard σ α)) (s : σ) : σ :=
  gs.foldl (fun s g => (g.predicate.run s).state) s

/-- The events of the predicates of some guards that run in order. -/
def eventsOf : List (Guard σ α) → σ → List Event
  | [], _ => []
  | g :: rest, s => (g.predicate.run s).events ++ eventsOf rest (g.predicate.run s).state

/-- Whether a predicate holds in the state that the predicates before it left. -/
def holdsAt (gs : List (Guard σ α)) (s : σ) (i : Fin gs.length) : Bool :=
  (gs[i].predicate.run (stateAfter (gs.take i) s)).value

/-- The first position whose predicate holds. -/
def firstMatch (gs : List (Guard σ α)) (s : σ) : Option (Fin gs.length) :=
  (List.finRange gs.length).find? (holdsAt gs s)

@[simp] theorem stateAfter_nil (s : σ) : stateAfter ([] : List (Guard σ α)) s = s := rfl

@[simp] theorem stateAfter_cons (g : Guard σ α) (gs : List (Guard σ α)) (s : σ) :
    stateAfter (g :: gs) s = stateAfter gs (g.predicate.run s).state := rfl

@[simp] theorem eventsOf_nil (s : σ) : eventsOf ([] : List (Guard σ α)) s = [] := rfl

@[simp] theorem eventsOf_cons (g : Guard σ α) (gs : List (Guard σ α)) (s : σ) :
    eventsOf (g :: gs) s =
      (g.predicate.run s).events ++ eventsOf gs (g.predicate.run s).state := rfl

@[simp] theorem firstMatch_nil (s : σ) : firstMatch ([] : List (Guard σ α)) s = none := rfl

/-- The first guard matches if its predicate holds, and else the search goes on in the state that
the predicate left. -/
theorem firstMatch_cons (g : Guard σ α) (gs : List (Guard σ α)) (s : σ) :
    firstMatch (g :: gs) s =
      if (g.predicate.run s).value then some 0
      else (firstMatch gs (g.predicate.run s).state).map Fin.succ := by
  have later : (holdsAt (g :: gs) s) ∘ Fin.succ = holdsAt gs (g.predicate.run s).state := by
    funext i
    simp [holdsAt]
  have first : holdsAt (g :: gs) s 0 = (g.predicate.run s).value := by simp [holdsAt]
  simp only [firstMatch, List.length_cons, List.finRange_succ, List.find?_cons, first,
    List.find?_map, later]
  cases (g.predicate.run s).value <;> rfl

/-- A search runs the first predicate, and goes on in the state that it left unless it holds. -/
theorem run_firstHolding_cons (start : Nat) (g : Guard σ α) (gs : List (Guard σ α)) (s : σ) :
    (firstHolding start (g :: gs)).run s =
      if (g.predicate.run s).value then
        ⟨some (start, g), (g.predicate.run s).state, (g.predicate.run s).events⟩
      else
        let later := (firstHolding (start + 1) gs).run (g.predicate.run s).state
        ⟨later.value, later.state, (g.predicate.run s).events ++ later.events⟩ := by
  cases h : (g.predicate.run s).value <;> simp [firstHolding, h]

/-- A search finds the first match, counted from `start`, and runs the predicates up to it. -/
theorem run_firstHolding (start : Nat) (gs : List (Guard σ α)) (s : σ) :
    (firstHolding start gs).run s =
      match firstMatch gs s with
      | some i =>
        ⟨some (start + i, gs[i]), stateAfter (gs.take (i + 1)) s, eventsOf (gs.take (i + 1)) s⟩
      | none => ⟨none, stateAfter gs s, eventsOf gs s⟩ := by
  induction gs generalizing start s with
  | nil => rfl
  | cons g gs ih =>
    rw [run_firstHolding_cons, firstMatch_cons, ih]
    by_cases h : (g.predicate.run s).value
    · simp [h]
    · cases firstMatch gs (g.predicate.run s).state with
      | none => simp [h]
      | some i => simp [h, Nat.add_assoc, Nat.add_comm 1]

end Guard

namespace Chain

/-- What a chain leaves behind as a cascade: the first match runs its branch in the state that the
predicates up to it left; without a match all predicates run and the fallback after them. -/
def cascade (c : Chain σ α) (s : σ) : Ran σ (Outcome α) :=
  match Guard.firstMatch c.guards s with
  | some i =>
    let checked := c.guards.take (i + 1)
    let branch := c.guards[i].branch.run (Guard.stateAfter checked s)
    ⟨branch.value, branch.state, Guard.eventsOf checked s ++ .guardMatched i :: branch.events⟩
  | none =>
    let fallback := c.fallback.run (Guard.stateAfter c.guards s)
    ⟨fallback.value, fallback.state,
      Guard.eventsOf c.guards s ++ .noGuardMatched c.guards.length :: fallback.events⟩

theorem run_eval (c : Chain σ α) (s : σ) : c.eval.run s = c.cascade s := by
  rw [eval, Action.run_bind, Guard.run_firstHolding, cascade]
  cases Guard.firstMatch c.guards s <;> simp

/-! ## Calls -/

/-- A call of a part of a chain: the predicate or the branch at a position, or the fallback. -/
inductive Call where
  | checked (index : Nat)
  | fired (index : Nat)
  | fellBack
  deriving DecidableEq

/-- The calls of a cascade: the predicates up to the first match and its branch, or all predicates
and the fallback. -/
def calls (c : Chain σ α) (s : σ) : List Call :=
  match Guard.firstMatch c.guards s with
  | some i => (List.range (i + 1)).map .checked ++ [.fired i]
  | none => (List.range c.guards.length).map .checked ++ [.fellBack]

/-- An action that is recorded as a call and then runs. -/
def recordedCall {β : Type} (call : Call) (a : Action σ β) : Action (Journaled Call σ) β := do
  Journaled.record call
  Journaled.beside a

/-- A guard whose calls are recorded under its position. -/
def recordedGuard (index : Nat) (g : Guard σ α) : Guard (Journaled Call σ) α :=
  ⟨recordedCall (.checked index) g.predicate, recordedCall (.fired index) g.branch⟩

/-- Guards whose calls are recorded under their positions, counted from `start`. -/
def recordedGuards (start : Nat) (gs : List (Guard σ α)) : List (Guard (Journaled Call σ) α) :=
  (gs.zipIdx start).map fun (g, index) => recordedGuard index g

/-- A chain whose calls are all recorded. -/
def recorded (c : Chain σ α) : Chain (Journaled Call σ) α :=
  ⟨recordedGuards 0 c.guards, recordedCall .fellBack c.fallback⟩

@[simp] theorem run_recordedCall {β : Type} (call : Call) (a : Action σ β)
    (w : Journaled Call σ) :
    (recordedCall call a).run w =
      ⟨(a.run w.state).value, ⟨(a.run w.state).state, w.entries ++ [call]⟩,
        (a.run w.state).events⟩ := by
  simp [recordedCall]

@[simp] theorem recordedGuards_nil (start : Nat) :
    recordedGuards start ([] : List (Guard σ α)) = [] := rfl

@[simp] theorem recordedGuards_cons (start : Nat) (g : Guard σ α) (gs : List (Guard σ α)) :
    recordedGuards start (g :: gs) = recordedGuard start g :: recordedGuards (start + 1) gs := rfl

@[simp] theorem length_recordedGuards (start : Nat) (gs : List (Guard σ α)) :
    (recordedGuards start gs).length = gs.length := by
  simp [recordedGuards]

/-- A search among recorded guards finds what the search among the guards finds, and records the
predicates up to it. -/
theorem run_firstHolding_recordedGuards (start : Nat) (gs : List (Guard σ α))
    (w : Journaled Call σ) :
    (Guard.firstHolding start (recordedGuards start gs)).run w =
      let found := (Guard.firstHolding start gs).run w.state
      let checked := (Guard.firstMatch gs w.state).elim gs.length fun i => i + 1
      ⟨found.value.map fun (index, g) => (index, recordedGuard index g),
        ⟨found.state, w.entries ++ (List.range' start checked).map .checked⟩, found.events⟩ := by
  induction gs generalizing start w with
  | nil => simp [Guard.firstHolding]
  | cons g gs ih =>
    rw [recordedGuards_cons, Guard.run_firstHolding_cons, Guard.run_firstHolding_cons,
      Guard.firstMatch_cons, ih]
    by_cases h : (g.predicate.run w.state).value
    · simp [recordedGuard, h]
    · cases hm : Guard.firstMatch gs (g.predicate.run w.state).state with
      | none => simp [recordedGuard, h, hm, List.range'_succ]
      | some i => simp [recordedGuard, h, hm, List.range'_succ]

/-- A chain is the if / else-if cascade of its guards, effects included: outcome, final state and
events are those of the cascade, and the recorded calls are exactly the predicates up to the first
match in order, each once, and then its branch, or all predicates and then the fallback. -/
theorem eval_eq_cascade (c : Chain σ α) (w : Journaled Call σ) :
    c.eval.run w.state = c.cascade w.state ∧
      c.recorded.eval.run w =
        { value := (c.cascade w.state).value
          state := ⟨(c.cascade w.state).state, w.entries ++ c.calls w.state⟩
          events := (c.cascade w.state).events } := by
  refine ⟨run_eval c w.state, ?_⟩
  have found := run_firstHolding_recordedGuards 0 c.guards w
  rw [Guard.run_firstHolding 0 c.guards] at found
  rw [eval, Action.run_bind, recorded, found, cascade, calls]
  cases Guard.firstMatch c.guards w.state with
  | none => simp [List.range_eq_range']
  | some i => simp [recordedGuard, List.range_eq_range']

end Chain

end GuardedSms
