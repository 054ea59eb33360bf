import GuardedSms.Guard.Draft
import GuardedSms.Proofs.Chain.Placement
import Mathlib.Data.List.Induction

/-!
# Drafted guards

A guard may be put together by writing its parts in any order and any number of times. The last
predicate and the last branch count. The parts are closures, so what matters besides the guard that
comes out is which closures run: none while the guard is put together, none of those that were
replaced, and the others only where a chain comes to the guard.

## Main definitions

* `Draft.lastPart`: the last write of a part.
* `Draft.recorded`: writes whose closures are recorded when they run.
* `Draft.Assembled`: what the guard of some writes is, and what it calls in a chain.

## Main statements

* `Draft.ofWrites_eq`: a draft holds what was written last.
* `Draft.build_last_written`: the last writes count, and the predicate is missed before the branch.
-/
namespace GuardedSms

variable {σ α β : Type}

namespace Guard.Draft

/-! ## The last writes -/

/-- A part of a guard, with the position of the write whose closure it is. A fixed failure has no
closure. -/
structure Part (σ β : Type) where
  action : Action σ β
  closure : Option Nat

def Write.predicateAt (i : Nat) : Write σ α → Option (Part σ Bool)
  | .predicate p => some ⟨p, some i⟩
  | .branch _ | .failure _ => none

def Write.branchAt (i : Nat) : Write σ α → Option (Part σ (Outcome α))
  | .predicate _ => none
  | .branch b => some ⟨b, some i⟩
  | .failure message => some ⟨pure (.failure message), none⟩

/-- The last of the writes that write a part. -/
def lastPart (part : Nat → Write σ α → Option β) (writes : List (Write σ α)) : Option β :=
  (writes.zipIdx.filterMap fun (w, i) => part i w).getLast?

@[simp] theorem lastPart_concat (part : Nat → Write σ α → Option β) (writes : List (Write σ α))
    (w : Write σ α) :
    lastPart part (writes ++ [w]) = (part writes.length w).or (lastPart part writes) := by
  cases h : part writes.length w <;> simp [lastPart, List.zipIdx_append, List.getLast?_append, h]

/-- A draft holds what was written last. -/
theorem ofWrites_eq (writes : List (Write σ α)) :
    ofWrites writes = ⟨(lastPart Write.predicateAt writes).map Part.action,
      (lastPart Write.branchAt writes).map Part.action⟩ := by
  induction writes using List.reverseRecOn with
  | nil => rfl
  | append_singleton writes w ih =>
    rw [ofWrites, List.foldl_append]
    change (ofWrites writes).write w = _
    rw [ih]
    cases w <;>
      simp [write, withPredicate, withBranch, withFailure, Write.predicateAt, Write.branchAt]

/-! ## Recorded writes -/

/-- A write whose closure is recorded under a position when it runs. -/
def recordedWrite (i : Nat) : Write σ α → Write (Journaled Nat σ) α
  | .predicate p => .predicate (Journaled.noting [i] p)
  | .branch b => .branch (Journaled.noting [i] b)
  | .failure message => .failure message

def recorded (writes : List (Write σ α)) : List (Write (Journaled Nat σ) α) :=
  writes.zipIdx.map fun (w, i) => recordedWrite i w

@[simp] theorem recorded_concat (writes : List (Write σ α)) (w : Write σ α) :
    recorded (writes ++ [w]) = recorded writes ++ [recordedWrite writes.length w] := by
  simp [recorded, List.zipIdx_append]

@[simp] theorem length_recorded (writes : List (Write σ α)) :
    (recorded writes).length = writes.length := by
  simp [recorded]

/-- A part whose closure is recorded under its position. -/
def Part.recorded (part : Part σ β) : Part (Journaled Nat σ) β :=
  ⟨Journaled.noting part.closure.toList part.action, part.closure⟩

/-- Recording closures does not change which write is the last. -/
theorem lastPart_recorded {part : Nat → Write σ α → Option (Part σ β)}
    {part' : Nat → Write (Journaled Nat σ) α → Option (Part (Journaled Nat σ) β)}
    (commutes : ∀ i w, part' i (recordedWrite i w) = (part i w).map Part.recorded)
    (writes : List (Write σ α)) :
    lastPart part' (recorded writes) = (lastPart part writes).map Part.recorded := by
  induction writes using List.reverseRecOn with
  | nil => rfl
  | append_singleton writes w ih =>
    rw [recorded_concat, lastPart_concat, lastPart_concat, length_recorded, commutes, ih]
    cases part writes.length w <;> rfl

theorem predicateAt_recordedWrite (i : Nat) (w : Write σ α) :
    (recordedWrite i w).predicateAt i = (w.predicateAt i).map Part.recorded := by
  cases w <;> rfl

theorem branchAt_recordedWrite (i : Nat) (w : Write σ α) :
    (recordedWrite i w).branchAt i = (w.branchAt i).map Part.recorded := by
  cases w with
  | predicate p => rfl
  | branch b => rfl
  | failure message =>
    -- A fixed failure runs no closure, so nothing is added to the record.
    have silent : Journaled.noting [] (pure (.failure message) : Action σ (Outcome α)) =
        (pure (.failure message) : Action (Journaled Nat σ) (Outcome α)) := by
      ext s
      simp
    simp [recordedWrite, Write.branchAt, Part.recorded, silent]

/-! ## Building -/

theorem build_ofWrites (writes : List (Write σ α)) :
    (ofWrites writes).build =
      match lastPart Write.predicateAt writes, lastPart Write.branchAt writes with
      | none, _ => .error .missingPredicate
      | some _, none => .error .missingBranch
      | some p, some b => .ok ⟨p.action, b.action⟩ := by
  rw [ofWrites_eq]
  cases lastPart Write.predicateAt writes with
  | none => rfl
  | some p => cases lastPart Write.branchAt writes <;> rfl

/-- The guard that some writes make up has the predicate and the branch that were written last, and
stands for them in any chain. Nothing runs before the chain comes to it, and of all closures that
were written only these two ever do. -/
structure Assembled (writes : List (Write σ α)) (p : Part σ Bool) (b : Part σ (Outcome α)) :
    Prop where
  built : (ofWrites writes).build = .ok ⟨p.action, b.action⟩
  /-- If all closures that are written are recorded, the guard records the two that it kept. -/
  recorded : (ofWrites (recorded writes)).build =
    .ok (Guard.noting p.closure.toList b.closure.toList ⟨p.action, b.action⟩)
  /-- Behind any guards, before any others and in any state, it leaves what a guard of the two parts
  leaves that is not recorded. -/
  interchangeable : ∀ gs hs fallback w,
    let g : Guard σ α := ⟨p.action, b.action⟩
    let checked := p.closure.toList
    let fired := b.closure.toList
    (Chain.eval ⟨gs.map Guard.beside ++ g.noting checked fired :: hs.map Guard.beside,
        Journaled.beside fallback⟩).run w =
      let ran := (Chain.eval ⟨gs ++ g :: hs, fallback⟩).run w.state
      ⟨ran.value, ⟨ran.state, w.entries ++ Chain.entriesOf gs g checked fired w.state⟩,
        ran.events⟩

theorem assembled {writes : List (Write σ α)} {p : Part σ Bool} {b : Part σ (Outcome α)}
    (predicate : lastPart Write.predicateAt writes = some p)
    (branch : lastPart Write.branchAt writes = some b) : Assembled writes p b where
  built := by rw [build_ofWrites, predicate, branch]
  recorded := by
    rw [build_ofWrites, lastPart_recorded predicateAt_recordedWrite,
      lastPart_recorded branchAt_recordedWrite, predicate, branch]
    rfl
  interchangeable gs hs fallback w := by
    dsimp only
    rw [Chain.eval_eq_evalFrom, Chain.eval_eq_evalFrom]
    exact Chain.run_evalFrom_placed fallback 0 gs hs _ _ _ w

/-- A guard is built of the last predicate and the last branch that were written, in whatever order
and however often. A missing predicate is told first, and then a missing branch. So a guard that
rejects is one whose branch is written as a fixed failure. -/
theorem build_last_written (writes : List (Write σ α)) (p : Action σ Bool) (message : String) :
    (match lastPart Write.predicateAt writes, lastPart Write.branchAt writes with
      | none, _ => (ofWrites writes).build = .error .missingPredicate
      | some _, none => (ofWrites writes).build = .error .missingBranch
      | some p, some b => Assembled writes p b) ∧
      (ofWrites [.predicate p, .failure message] : Draft σ α).build =
        .ok (Guard.failing p message) := by
  refine ⟨?_, rfl⟩
  cases predicate : lastPart Write.predicateAt writes with
  | none =>
    dsimp only
    rw [build_ofWrites, predicate]
  | some p =>
    cases branch : lastPart Write.branchAt writes with
    | none =>
      dsimp only
      rw [build_ofWrites, predicate, branch]
    | some b => exact assembled predicate branch

end Guard.Draft

end GuardedSms
