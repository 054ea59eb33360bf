import GuardedSms.Proofs.Chain.Choice

/-!
# Splitting chains

A long chain can be split: the chain of the earlier guards falls back to the chain of the later
ones. Outcome, state and calls stay as they are. The trace tells the difference where no earlier
guard matches: the joined chain counts the earlier guards in its one event, the split chain has an
event of its own for them.

## Main definitions

* `Chain.joined`, `Chain.split`: a chain of all guards, and the same guards in two chains.
* `Chain.SplitAgrees`: what the two have in common, and where their events differ.

## Main statements

* `Chain.split_agrees`: a chain agrees with the chain it is split into.
-/
namespace GuardedSms

variable {σ α : Type}

/-- The event of a chain whose guards stand behind `n` others. -/
def Event.behind (n : Nat) : Event → Event
  | .guardMatched index => .guardMatched (n + index)
  | .noGuardMatched guards => .noGuardMatched (n + guards)
  | e => e

/-- A search goes through the earlier guards first, and through the later ones if none of those
holds. -/
theorem Guard.firstHolding_append (start : Nat) (gs hs : List (Guard σ α)) :
    firstHolding start (gs ++ hs) = (firstHolding start gs >>= fun
      | some found => pure (some found)
      | none => firstHolding (start + gs.length) hs) := by
  induction gs generalizing start with
  | nil => simp [firstHolding]
  | cons g gs ih =>
    simp only [List.cons_append, firstHolding, bind_assoc, ih]
    refine bind_congr fun holds => ?_
    cases holds with
    | true => simp
    | false => simp [Nat.add_assoc, Nat.add_comm 1]

namespace Chain

/-- The chain of two lists of guards. -/
def joined (gs hs : List (Guard σ α)) (fallback : Action σ (Outcome α)) : Chain σ α :=
  ⟨gs ++ hs, fallback⟩

/-- The chain of the earlier guards, which falls back to the chain of the later ones. -/
def split (gs hs : List (Guard σ α)) (fallback : Action σ (Outcome α)) : Chain σ α :=
  ⟨gs, eval ⟨hs, fallback⟩⟩

/-- A split chain whose guards and last fallback are recorded as in the joined one. -/
def recordedSplit (gs hs : List (Guard σ α)) (fallback : Action σ (Outcome α)) :
    Chain (Journaled Call σ) α :=
  split (recordedGuards 0 gs) (recordedGuards gs.length hs) (recordedCall .fellBack fallback)

section Runs

variable (gs hs : List (Guard σ α)) (fallback : Action σ (Outcome α)) {s : σ}

/-- If an earlier guard matches, the later ones do not count. -/
theorem run_joined_of_some {i : Fin gs.length} (h : Guard.firstMatch gs s = some i) :
    (joined gs hs fallback).eval.run s = (split gs hs fallback).eval.run s := by
  simp [joined, split, eval, Guard.firstHolding_append, Guard.run_firstHolding, h]

/-- If no earlier guard matches, the later ones are tried in the state that these left, and the
event counts them all. -/
theorem run_joined_of_none (h : Guard.firstMatch gs s = none) :
    (joined gs hs fallback).eval.run s =
      let later : Chain σ α := ⟨hs, fallback⟩
      let t := Guard.stateAfter gs s
      let checked := Guard.tried hs t
      let ran := (later.chosen t).run (Guard.stateAfter checked t)
      ⟨ran.value, ran.state, Guard.eventsOf gs s ++
        (Guard.eventsOf checked t ++ (later.choice t).behind gs.length :: ran.events)⟩ := by
  simp only [joined, eval, Guard.firstHolding_append, Action.run_bind, Guard.run_firstHolding, h]
  simp only [Guard.tried, choice, chosen]
  cases Guard.firstMatch hs (Guard.stateAfter gs s) <;> simp [Event.behind]

/-- If no earlier guard matches, the split chain tells so and then runs the chain of the later
ones. -/
theorem run_split_of_none (h : Guard.firstMatch gs s = none) :
    (split gs hs fallback).eval.run s =
      let inner := (eval ⟨hs, fallback⟩).run (Guard.stateAfter gs s)
      ⟨inner.value, inner.state,
        Guard.eventsOf gs s ++ .noGuardMatched gs.length :: inner.events⟩ := by
  simp [split, run_eval_eq ⟨gs, _⟩, Guard.tried_of_none h, choice, chosen, h]

theorem value_state_joined (s : σ) :
    ((joined gs hs fallback).eval.run s).value = ((split gs hs fallback).eval.run s).value ∧
      ((joined gs hs fallback).eval.run s).state = ((split gs hs fallback).eval.run s).state := by
  cases h : Guard.firstMatch gs s with
  | some i => simp [run_joined_of_some gs hs fallback h]
  | none => simp [run_joined_of_none gs hs fallback h, run_split_of_none gs hs fallback h,
      run_eval_eq ⟨hs, fallback⟩]

end Runs

theorem recordedGuards_append (start : Nat) (gs hs : List (Guard σ α)) :
    recordedGuards start (gs ++ hs) =
      recordedGuards start gs ++ recordedGuards (start + gs.length) hs := by
  simp [recordedGuards, List.zipIdx_append]

/-- What a split chain has in common with the joined one in a recorded state. -/
structure SplitAgrees (gs hs : List (Guard σ α)) (fallback : Action σ (Outcome α))
    (w : Journaled Call σ) : Prop where
  value : ((joined gs hs fallback).eval.run w.state).value =
    ((split gs hs fallback).eval.run w.state).value
  state : ((joined gs hs fallback).eval.run w.state).state =
    ((split gs hs fallback).eval.run w.state).state
  /-- The same predicates, branches and fallback are called in the same order. -/
  calls : ((joined gs hs fallback).recorded.eval.run w).state =
    ((recordedSplit gs hs fallback).eval.run w).state
  /-- If an earlier guard matches, the events are the same. -/
  matched : ∀ i, Guard.firstMatch gs w.state = some i →
    ((joined gs hs fallback).eval.run w.state).events =
      ((split gs hs fallback).eval.run w.state).events
  /-- If none does, the joined chain shifts the event of the chain of the later guards, and the
  split chain puts an event of its own before all events of that chain. -/
  unmatched : Guard.firstMatch gs w.state = none →
    let later : Chain σ α := ⟨hs, fallback⟩
    let t := Guard.stateAfter gs w.state
    let before := Guard.eventsOf gs w.state
    let checked := Guard.eventsOf (Guard.tried hs t) t
    ∃ ran, (later.eval.run t).events = checked ++ later.choice t :: ran ∧
      ((joined gs hs fallback).eval.run w.state).events =
        before ++ (checked ++ (later.choice t).behind gs.length :: ran) ∧
      ((split gs hs fallback).eval.run w.state).events =
        before ++ .noGuardMatched gs.length :: (checked ++ later.choice t :: ran)

/-- A chain agrees with the chain it is split into. -/
theorem split_agrees (gs hs : List (Guard σ α)) (fallback : Action σ (Outcome α))
    (w : Journaled Call σ) : SplitAgrees gs hs fallback w := by
  obtain ⟨value, state⟩ := value_state_joined gs hs fallback w.state
  refine ⟨value, state, ?calls, ?matched, ?unmatched⟩
  case calls =>
    have recorded : (joined gs hs fallback).recorded =
        joined (recordedGuards 0 gs) (recordedGuards gs.length hs)
          (recordedCall .fellBack fallback) := by
      simp [joined, Chain.recorded, recordedGuards_append]
    rw [recorded]
    exact (value_state_joined _ _ _ w).2
  case matched =>
    intro i h
    rw [run_joined_of_some gs hs fallback h]
  case unmatched =>
    intro h later t before checked
    have inner : (later.eval.run t).events = checked ++ later.choice t ::
        ((later.chosen t).run (Guard.stateAfter (Guard.tried hs t) t)).events := by
      rw [run_eval_eq]
    refine ⟨_, inner, ?_, ?_⟩
    · rw [run_joined_of_none gs hs fallback h]
    · rw [run_split_of_none gs hs fallback h, ← inner]

end Chain

end GuardedSms
