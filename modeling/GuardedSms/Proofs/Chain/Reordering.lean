import GuardedSms.Proofs.Chain.Placement
import Mathlib.Data.List.Find

/-!
# Reordering guards

The order of guards matters only where they overlap. If the predicates leave the state alone and at
most one of them holds in it, a chain comes to the same guard in whatever order they stand, so it
fires the same branch in the same state.

Branches are told apart by names that are written down when they run. They may change the state.

## Main definitions

* `Guard.Exclusive`: predicates that leave a state alone and do not overlap in it.
* `Chain.named`: a chain that records which branch it fires.
* `Chain.Reordered`: what a chain and a reordering of it have in common.

## Main statements

* `Chain.run_evalFrom_steady`: what a chain runs if its predicates leave the state alone.
* `Chain.eval_reordered`: exclusive guards may stand in any order.
-/
namespace GuardedSms

variable {σ α ι : Type}

namespace Guard

/-- Whether the predicate of a guard holds in a state. -/
def holds (g : Guard σ α) (s : σ) : Bool := (g.predicate.run s).value

/-- Guards whose predicates leave a state as it is, and of which at most one holds in it. -/
structure Exclusive (gs : List (Guard σ α)) (s : σ) : Prop where
  steady : ∀ g ∈ gs, (g.predicate.run s).state = s
  once : gs.countP (·.holds s) ≤ 1

/-- Only one of the guards is found, wherever it stands. -/
theorem find?_perm {gs hs : List (ι × Guard σ α)} {s : σ}
    (once : gs.countP (·.2.holds s) ≤ 1) (perm : gs.Perm hs) :
    gs.find? (·.2.holds s) = hs.find? (·.2.holds s) := by
  refine List.find?_eq_find?_of_perm perm ?_
  rintro q ⟨hq, holds⟩ r ⟨hr, holds'⟩
  have short : (gs.filter (·.2.holds s)).length ≤ 1 := by rwa [← List.countP_eq_length_filter]
  have first : q ∈ gs.filter (·.2.holds s) := List.mem_filter.mpr ⟨hq, holds⟩
  have second : r ∈ gs.filter (·.2.holds s) := List.mem_filter.mpr ⟨hr, holds'⟩
  generalize gs.filter (·.2.holds s) = held at short first second
  match held with
  | [only] => rw [List.mem_singleton.mp first, List.mem_singleton.mp second]

end Guard

namespace Chain

/-- The branch of the first guard that holds in a state, and the fallback if none does. -/
def branchIn (gs : List (Guard σ α)) (fallback : Action σ (Outcome α)) (s : σ) :
    Action σ (Outcome α) :=
  (gs.find? (·.holds s)).elim fallback Guard.branch

/-- If the predicates leave the state alone, the chain runs in it what it finds. -/
theorem run_evalFrom_steady (start : Nat) (fallback : Action σ (Outcome α))
    {gs : List (Guard σ α)} {s : σ} (steady : ∀ g ∈ gs, (g.predicate.run s).state = s) :
    ((evalFrom start fallback gs).run s).value = ((branchIn gs fallback s).run s).value ∧
      ((evalFrom start fallback gs).run s).state = ((branchIn gs fallback s).run s).state := by
  induction gs generalizing start with
  | nil => simp [evalFrom, branchIn]
  | cons g gs ih =>
    have kept : (g.predicate.run s).state = s := steady g (.head _)
    cases h : (g.predicate.run s).value with
    | true => simp [evalFrom, branchIn, Guard.holds, h, kept]
    | false =>
      have later := ih (start + 1) fun g' mem => steady g' (.tail _ mem)
      simpa [evalFrom, branchIn, Guard.holds, h, kept] using later

/-- A chain of guards with names. It records the name of the guard whose branch it fires, or that it
falls back. -/
def named (gs : List (ι × Guard σ α)) (fallback : Action σ (Outcome α)) :
    Chain (Journaled (Option ι) σ) α :=
  ⟨gs.map fun (name, g) => g.noting [] [some name], Journaled.noting [none] fallback⟩

/-- The chain fires one branch: that of the guard that holds, or the fallback if there is none. -/
theorem entries_named (fallback : Action σ (Outcome α)) {gs : List (ι × Guard σ α)}
    (w : Journaled (Option ι) σ)
    (steady : ∀ q ∈ gs, (q.2.predicate.run w.state).state = w.state) :
    ((named gs fallback).eval.run w).state.entries =
      w.entries ++ [(gs.find? (·.2.holds w.state)).map Prod.fst] := by
  have steady' : ∀ g ∈ (named gs fallback).guards, (g.predicate.run w).state = w := by
    intro g mem
    obtain ⟨q, hq, rfl⟩ := List.mem_map.mp mem
    simp [Guard.noting, steady q hq]
  have found : (named gs fallback).guards.find? (·.holds w) =
      (gs.find? (·.2.holds w.state)).map fun (name, g) => g.noting [] [some name] := by
    rw [named, List.find?_map]
    simp [Function.comp_def, Guard.holds, Guard.noting]
  rw [eval_eq_evalFrom, (run_evalFrom_steady 0 _ steady').2, branchIn, found]
  cases gs.find? (·.2.holds w.state) <;> simp [named, Guard.noting]

/-- What a chain of guards has in common with one of the same guards in another order. -/
structure Reordered (gs hs : List (ι × Guard σ α)) (fallback : Action σ (Outcome α))
    (w : Journaled (Option ι) σ) : Prop where
  value : ((eval ⟨hs.map Prod.snd, fallback⟩).run w.state).value =
    ((eval ⟨gs.map Prod.snd, fallback⟩).run w.state).value
  state : ((eval ⟨hs.map Prod.snd, fallback⟩).run w.state).state =
    ((eval ⟨gs.map Prod.snd, fallback⟩).run w.state).state
  /-- Both fire one branch, and it is the same. -/
  fired : ∃ branch, ((named gs fallback).eval.run w).state.entries = w.entries ++ [branch] ∧
    ((named hs fallback).eval.run w).state.entries = w.entries ++ [branch]

/-- Guards may stand in any order as long as their predicates leave the state alone and at most one
of them holds. -/
theorem eval_reordered {gs hs : List (ι × Guard σ α)} (fallback : Action σ (Outcome α))
    (w : Journaled (Option ι) σ) (exclusive : Guard.Exclusive (gs.map Prod.snd) w.state)
    (perm : gs.Perm hs) : Reordered gs hs fallback w := by
  obtain ⟨steady, once⟩ := exclusive
  rw [List.countP_map] at once
  have found := Guard.find?_perm once perm
  have steady' : ∀ g ∈ hs.map Prod.snd, (g.predicate.run w.state).state = w.state :=
    fun g mem => steady g ((perm.map Prod.snd).mem_iff.mpr mem)
  have branch : branchIn (hs.map Prod.snd) fallback w.state =
      branchIn (gs.map Prod.snd) fallback w.state := by
    simp only [branchIn, List.find?_map, Function.comp_def, found]
  obtain ⟨value, state⟩ := run_evalFrom_steady 0 fallback steady
  obtain ⟨value', state'⟩ := run_evalFrom_steady 0 fallback steady'
  refine ⟨?value, ?state, ?fired⟩
  case value => rw [eval_eq_evalFrom, eval_eq_evalFrom, value, value', branch]
  case state => rw [eval_eq_evalFrom, eval_eq_evalFrom, state, state', branch]
  case fired =>
    refine ⟨_, entries_named fallback w fun q mem => steady q.2 (List.mem_map_of_mem mem), ?_⟩
    rw [found]
    exact entries_named fallback w fun q mem => steady' q.2 (List.mem_map_of_mem mem)

/-- A guard that looks at a number, and a branch that adds to it and answers what it was. -/
def adding (test : Int → Bool) (amount : Int) : Guard Int Int where
  predicate := do return test (← get)
  branch := do
    let n ← get
    set (n + amount)
    return .success n

/-- Three cases of a number, which do not overlap. -/
def signs : List (String × Guard Int Int) :=
  [("negative", adding (· < 0) 1), ("zero", adding (· == 0) 0), ("positive", adding (0 < ·) (-1))]

theorem eval_reordered_signs :
    Guard.Exclusive (signs.map Prod.snd) 7 ∧ signs.Perm signs.reverse ∧
      Reordered signs signs.reverse (pure (.failure "no number")) (.start 7) := by
  have exclusive : Guard.Exclusive (signs.map Prod.snd) 7 := ⟨by decide, by decide⟩
  have perm : signs.Perm signs.reverse := signs.reverse_perm.symm
  exact ⟨exclusive, perm, eval_reordered _ (.start 7) exclusive perm⟩

end Chain

end GuardedSms
