import GuardedSms.Journaled
import GuardedSms.Outcome

/-!
# Fused pipelines

A pipeline maps an outcome with functions in turn, each of which may change a state, and may take
the outcome apart and put it together again on the way. To run it and then resolve the outcome is to
resolve once: a success goes through the functions in order and on to its continuation, a failure
passes all of them by.

A function that changes a state maps a value to an action, and the action runs at once. The type of
the value may change from function to function, so a pipeline is indexed by the type that it takes
and the type that it gives.

## Main definitions

* `Outcome.performed`: the action that an outcome holds is run.
* `Pipeline`: functions to map with, and places where the outcome is rebuilt.
* `Pipeline.run`, `Pipeline.compose`: what a pipeline does with an outcome, and with a value.
* `Pipeline.calls`: the functions and the continuation that a pipeline calls.
* `Pipeline.Fuses`: what a pipeline has in common with its composition.

## Main statements

* `Pipeline.run_eq_mapM`: a pipeline maps once, with its functions composed.
* `Pipeline.run_recorded_compose`: each function of a pipeline is called once, in order.
* `Pipeline.fuses`: a pipeline fuses with what consumes its outcome.
-/
namespace GuardedSms.Outcome

/-- Run the action that an outcome holds in the place of its value. A failure holds none. -/
def performed {σ α : Type} : Outcome (Action σ α) → Action σ (Outcome α) :=
  resolve (success <$> ·) fun m => pure (failure m)

/-- To map to actions and perform what is left is to map with effects. -/
theorem performed_map {σ α β : Type} (f : α → Action σ β) (o : Outcome α) :
    (o.map f).performed = o.mapM f := by
  cases o <;> rfl

/-- Functions to map an outcome with in turn, and places where it is rebuilt from its parts. -/
inductive Pipeline (σ : Type) : Type → Type → Type 1 where
  | done {α : Type} : Pipeline σ α α
  | map {α β γ : Type} (f : α → Action σ β) (rest : Pipeline σ β γ) : Pipeline σ α γ
  | rebuild {α β : Type} (rest : Pipeline σ α β) : Pipeline σ α β

namespace Pipeline

variable {σ : Type}

/-- Map an outcome with the functions in turn. -/
def run : {α β : Type} → Pipeline σ α β → Outcome α → Action σ (Outcome β)
  | _, _, done, o => pure o
  | _, _, map f rest, o => do rest.run (← (o.map f).performed)
  | _, _, rebuild rest, o => rest.run (o.resolve success failure)

/-- Apply the functions to a value, the first one first. -/
def compose : {α β : Type} → Pipeline σ α β → α → Action σ β
  | _, _, done, v => pure v
  | _, _, map f rest, v => do rest.compose (← f v)
  | _, _, rebuild rest, v => rest.compose v

/-- The number of functions. -/
def length : {α β : Type} → Pipeline σ α β → Nat
  | _, _, done => 0
  | _, _, map _ rest => rest.length + 1
  | _, _, rebuild rest => rest.length

/-- One pipeline behind another. -/
def append : {α β γ : Type} → Pipeline σ α β → Pipeline σ β γ → Pipeline σ α γ
  | _, _, _, done, q => q
  | _, _, _, map f rest, q => map f (rest.append q)
  | _, _, _, rebuild rest, q => rebuild (rest.append q)

section Calls

/-- The call of a function of a pipeline, by its position among the functions, or of a continuation
behind the pipeline, with what that is given. -/
inductive Call (α : Type) where
  | mapped (index : Nat)
  | succeeded (value : α)
  | failed (message : String)

/-- A function whose calls are recorded. -/
def recordedCall {α β γ : Type} (call : α → Call γ) (f : α → Action σ β) (v : α) :
    Action (Journaled (Call γ) σ) β := do
  Journaled.record (call v)
  Journaled.beside (f v)

/-- A pipeline whose functions are recorded under their positions, counted from `start`. -/
def recorded {δ : Type} :
    {α β : Type} → Nat → Pipeline σ α β → Pipeline (Journaled (Call δ) σ) α β
  | _, _, _, done => done
  | _, _, start, map f rest =>
    map (recordedCall (fun _ => .mapped start) f) (rest.recorded (start + 1))
  | _, _, start, rebuild rest => rebuild (rest.recorded start)

variable {α β γ : Type}

/-- The calls for an outcome in some state: all functions in order and then the continuation with
what they made of the value, or the other continuation with the message. -/
def calls (p : Pipeline σ α β) (s : σ) : Outcome α → List (Call β)
  | success v => (List.range p.length).map .mapped ++ [.succeeded ((p.compose v).run s).value]
  | failure m => [.failed m]

@[simp] theorem run_recordedCall (call : α → Call γ) (f : α → Action σ β) (v : α)
    (w : Journaled (Call γ) σ) :
    (recordedCall call f v).run w =
      ⟨((f v).run w.state).value, ⟨((f v).run w.state).state, w.entries ++ [call v]⟩,
        ((f v).run w.state).events⟩ := by
  simp [recordedCall]

/-- On a value each function is called once, in order, and does what it does without the record. -/
theorem run_recorded_compose {δ : Type} (start : Nat) (p : Pipeline σ α β) (v : α)
    (w : Journaled (Call δ) σ) :
    ((p.recorded start).compose v).run w =
      let ran := (p.compose v).run w.state
      ⟨ran.value, ⟨ran.state, w.entries ++ (List.range' start p.length).map .mapped⟩,
        ran.events⟩ := by
  -- Behind the first function, positions are counted from the next one, and its call is recorded.
  induction p generalizing start w with
  | done => simp [recorded, compose, length]
  | map f rest ih => simp [recorded, compose, length, ih, List.range'_succ]
  | rebuild rest ih => simp [recorded, compose, length, ih]

end Calls

variable {α β γ : Type}

/-- Mapping in turn is mapping once with the functions composed. -/
theorem run_eq_mapM (p : Pipeline σ α β) (o : Outcome α) : p.run o = o.mapM p.compose := by
  induction p with
  | done => cases o <;> simp [run, compose]
  | map f rest ih =>
    -- Whatever `f` gives is a success again, so the induction hypothesis is used for that one only.
    rw [run, performed_map]
    cases o <;> simp [compose, ih]
  | rebuild rest ih => simp [run, compose, ih]

theorem compose_append (p : Pipeline σ α β) (q : Pipeline σ β γ) (v : α) :
    (p.append q).compose v = p.compose v >>= q.compose := by
  induction p with
  | done => simp [append, compose]
  | map f rest ih => simp [append, compose, ih]
  | rebuild rest ih => simp [append, compose, ih]

theorem length_append (p : Pipeline σ α β) (q : Pipeline σ β γ) :
    (p.append q).length = p.length + q.length := by
  induction p with
  | done => simp [append, length]
  | map f rest ih => simp [append, length, ih, Nat.add_right_comm]
  | rebuild rest ih => simp [append, length, ih]

/-- What is run behind a pipeline is run behind its composition. -/
theorem run_bind (p : Pipeline σ α β) (o : Outcome α) (next : Outcome β → Action σ γ) :
    p.run o >>= next =
      o.resolve (fun v => do next (.success (← p.compose v))) fun m => next (.failure m) := by
  rw [run_eq_mapM]
  cases o <;> simp

/-- What a pipeline has in common with one resolve of the outcome that it is given. -/
structure Fuses (p : Pipeline σ α β) (o : Outcome α) (onSuccess : β → Action σ γ)
    (onFailure : String → Action σ γ) : Prop where
  /-- To run the pipeline and resolve what it gives is one resolve: the value goes through the
  functions and on to its continuation, the message straight to the other one. -/
  resolved : (do (← p.run o).resolve onSuccess onFailure) =
    o.resolve (fun v => do onSuccess (← p.compose v)) onFailure
  /-- The calls that are recorded are those of `Pipeline.calls`. Nothing else changes. -/
  calls : ∀ w : Journaled (Call β) σ,
    (do
      let mapped ← (p.recorded 0).run o
      mapped.resolve (recordedCall .succeeded onSuccess) (recordedCall .failed onFailure)).run w =
      let ran := (o.resolve (fun v => do onSuccess (← p.compose v)) onFailure).run w.state
      ⟨ran.value, ⟨ran.state, w.entries ++ p.calls w.state o⟩, ran.events⟩
  /-- Converted behind the pipeline, by name or by coercion, a success is the value that the
  functions give, and a failure is the message as it was. -/
  converted : (do return (← p.run o).toExcept) =
    o.resolve (fun v => do return .ok (← p.compose v)) fun m => pure (.error m)
  /-- To map behind the pipeline is to have one more function in it. -/
  mapped : ∀ {δ : Type} (f : β → Action σ δ), (do ((← p.run o).map f).performed) =
    (p.append (.map f .done)).run o
  /-- Wherever the outcome is rebuilt, nothing changes. -/
  rebuilt : ∀ {δ : Type} (front : Pipeline σ α δ) (back : Pipeline σ δ β), front.append back = p →
    (front.append back.rebuild).run o = p.run o ∧
      ∀ s, (front.append back.rebuild).calls s o = p.calls s o

/-- A pipeline fuses with whatever consumes its outcome. -/
theorem fuses (p : Pipeline σ α β) (o : Outcome α) (onSuccess : β → Action σ γ)
    (onFailure : String → Action σ γ) : Fuses p o onSuccess onFailure := by
  refine ⟨?resolved, ?calls, ?converted, ?mapped, ?rebuilt⟩
  case resolved =>
    rw [run_bind]
    rfl
  case calls =>
    intro w
    rw [run_bind]
    cases o with
    | success v => simp [run_recorded_compose, Pipeline.calls, List.range_eq_range']
    | failure m => simp [Pipeline.calls]
  case converted =>
    rw [run_bind]
    rfl
  case mapped =>
    intro δ f
    simp only [performed_map]
    rw [run_bind, run_eq_mapM]
    cases o <;> simp [compose_append, compose]
  case rebuilt =>
    rintro δ front back rfl
    have composed : (front.append back.rebuild).compose = (front.append back).compose := by
      funext v
      rw [compose_append, compose_append]
      rfl
    have counted : (front.append back.rebuild).length = (front.append back).length := by
      rw [length_append, length_append]
      rfl
    -- What is run and what is called depend on the composition and the number of functions alone.
    refine ⟨by rw [run_eq_mapM, run_eq_mapM, composed], fun s => ?_⟩
    cases o <;> simp only [Pipeline.calls, composed, counted]

/-- Add a number to the state, and give what is there then. -/
def adding (n : Nat) : Action Nat Nat := do
  modify (· + n)
  get

example : calls (.map adding (.rebuild (.map (fun n => pure (n == 42)) .done))) 2 (.success 40) =
    [.mapped 0, .mapped 1, .succeeded true] := rfl

end Pipeline

end GuardedSms.Outcome
