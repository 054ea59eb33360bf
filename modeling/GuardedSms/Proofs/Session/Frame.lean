import GuardedSms.Session
import Mathlib.Data.List.Forall2

/-!
# What a step keeps

A step of a session never takes back what was prepared, and spends a postponed delivery only when
it runs or drops that one. A run of steps keeps as much.
-/
namespace GuardedSms.Session

variable {σ ε α β : Type}

@[simp] theorem run_inWorld (a : Action σ α) (s : Session σ) :
    (inWorld a).run s =
      ⟨(a.run s.world).value, { s with world := (a.run s.world).state },
        (a.run s.world).events⟩ := rfl

@[simp] theorem run_spend (index : Nat) (s : Session σ) :
    (spend index).run s = ⟨(), { s with postponed := s.postponed.set index none }, []⟩ := rfl

/-- Running a postponed delivery spends it first. What is spent already does nothing. -/
theorem run_step_run (notifiers : Nat → Option (Notifier σ)) (index : Nat) (s : Session σ) :
    (Session.step notifiers (.run index)).run s =
      match s.postponed[index]? with
      | some (some action) =>
        let ran := action.run s.world
        ⟨.nothing, { s with world := ran.state, postponed := s.postponed.set index none },
          ran.events⟩
      | _ => ⟨.spent, s, []⟩ := by
  simp only [Session.step, Action.run_bind, Action.run_get]
  cases s.postponed[index]? with
  | none => rfl
  | some left => cases left <;> simp

/-- What the answer to a request leaves prepared and postponed: all that was, and maybe more. -/
theorem prefix_answer (n : Notifier σ) (request : Request) (s : Session σ) :
    s.prepared <+: ((answer n request).run s).state.prepared ∧
      s.postponed <+: ((answer n request).run s).state.postponed := by
  cases request with
  | screen | notify => simp [answer]
  | prepare | postpone => simp [answer]
  | perform index =>
    cases h : s.prepared[index]? <;> simp [answer, h]
  | performJson json =>
    cases h : Delivery.decode json.text <;> simp [answer, h]

/-- A step that leaves a postponed delivery alone: it neither runs nor drops it. -/
def Step.Spares (index : Nat) (step : Step) : Prop := step ≠ .run index ∧ step ≠ .drop index

theorem prefix_prepared_step (notifiers : Nat → Option (Notifier σ)) (step : Step)
    (s : Session σ) : s.prepared <+: ((Session.step notifiers step).run s).state.prepared := by
  cases step with
  | ask notifier request =>
    cases h : notifiers notifier with
    | none => simp [Session.step, h]
    | some n => simpa [Session.step, h] using (prefix_answer n request s).1
  | run index =>
    cases h : s.postponed[index]? with
    | none => simp [Session.step, h]
    | some action => cases action <;> simp [Session.step, h]
  | drop index => simp [Session.step]

theorem postponed_step (notifiers : Nat → Option (Notifier σ)) {step : Step} (s : Session σ)
    {index : Nat} (spared : step.Spares index) (h : index < s.postponed.length) :
    ((Session.step notifiers step).run s).state.postponed[index]? = s.postponed[index]? := by
  cases step with
  | ask notifier request =>
    cases hn : notifiers notifier with
    | none => simp [Session.step, hn]
    | some n =>
      obtain ⟨more, kept⟩ := (prefix_answer n request s).2
      simp [Session.step, hn, ← kept, List.getElem?_append_left h]
  | run other =>
    have ne : other ≠ index := fun e => spared.1 (e ▸ rfl)
    cases hp : s.postponed[other]? with
    | none => simp [Session.step, hp]
    | some action => cases action <;> simp [Session.step, hp, List.getElem?_set_ne ne]
  | drop other =>
    have ne : other ≠ index := fun e => spared.2 (e ▸ rfl)
    simp [Session.step, List.getElem?_set_ne ne]

theorem length_postponed_step (notifiers : Nat → Option (Notifier σ)) (step : Step)
    (s : Session σ) :
    s.postponed.length ≤ ((Session.step notifiers step).run s).state.postponed.length := by
  cases step with
  | ask notifier request =>
    cases hn : notifiers notifier with
    | none => simp [Session.step, hn]
    | some n => simpa [Session.step, hn] using (prefix_answer n request s).2.length_le
  | run index =>
    cases h : s.postponed[index]? with
    | none => simp [Session.step, h]
    | some action => cases action <;> simp [Session.step, h]
  | drop index => simp [Session.step]

/-! ## Postponed deliveries -/

/-- Whatever is still postponed has a property. -/
def EachPostponed (P : Action σ Unit → Prop) (postponed : List (Option (Action σ Unit))) : Prop :=
  ∀ action, some action ∈ postponed → P action

theorem EachPostponed.set_none {P : Action σ Unit → Prop}
    {postponed : List (Option (Action σ Unit))} (each : EachPostponed P postponed) (index : Nat) :
    EachPostponed P (postponed.set index none) := by
  intro action mem
  obtain kept | spent := List.mem_or_eq_of_mem_set mem
  · exact each action kept
  · contradiction

theorem EachPostponed.concat {P : Action σ Unit → Prop}
    {postponed : List (Option (Action σ Unit))} (each : EachPostponed P postponed)
    {action : Action σ Unit} (new : P action) : EachPostponed P (postponed ++ [some action]) := by
  intro other mem
  obtain kept | last : some other ∈ postponed ∨ other = action := by simpa using mem
  · exact each other kept
  · exact last ▸ new

/-! ## Postponed deliveries of two sessions -/

theorem forall₂_set_none {r : α → β → Prop} {l : List (Option α)} {m : List (Option β)}
    (h : List.Forall₂ (Option.Rel r) l m) (index : Nat) :
    List.Forall₂ (Option.Rel r) (l.set index none) (m.set index none) := by
  induction h generalizing index with
  | nil => exact .nil
  | cons first rest ih =>
    cases index with
    | zero => exact .cons .none rest
    | succ index => exact .cons first (ih index)

theorem forall₂_getElem? {r : α → β → Prop} {l : List α} {m : List β} (h : List.Forall₂ r l m)
    (index : Nat) : Option.Rel r l[index]? m[index]? := by
  induction h generalizing index with
  | nil => exact .none
  | cons first rest ih =>
    cases index with
    | zero => exact .some first
    | succ index => exact ih index

/-! ## Runs -/

section Runs

variable (notifiers : Nat → Option (Notifier (Journaled ε σ)))

/-- Telling the entries of a step apart changes nothing about it. -/
@[simp] theorem state_stepRecording (step : Step) (s : Session (Journaled ε σ)) :
    ((stepRecording notifiers step).run s).state = ((Session.step notifiers step).run s).state := by
  simp [stepRecording]

theorem run_runSteps_cons (step : Step) (steps : List Step) (s : Session (Journaled ε σ)) :
    (runSteps notifiers (step :: steps)).run s =
      let first := (stepRecording notifiers step).run s
      let rest := (runSteps notifiers steps).run first.state
      ⟨first.value :: rest.value, rest.state, first.events ++ rest.events⟩ := by
  simp [runSteps]

@[simp] theorem state_runSteps_nil (s : Session (Journaled ε σ)) :
    ((runSteps notifiers []).run s).state = s := rfl

@[simp] theorem state_runSteps_cons (step : Step) (steps : List Step)
    (s : Session (Journaled ε σ)) :
    ((runSteps notifiers (step :: steps)).run s).state =
      ((runSteps notifiers steps).run ((Session.step notifiers step).run s).state).state := by
  simp [runSteps]

theorem value_runSteps_cons (step : Step) (steps : List Step) (s : Session (Journaled ε σ)) :
    ((runSteps notifiers (step :: steps)).run s).value =
      (((Session.step notifiers step).run s).value,
        ((Session.step notifiers step).run s).state.world.entries.drop s.world.entries.length) ::
      ((runSteps notifiers steps).run ((Session.step notifiers step).run s).state).value := by
  simp [run_runSteps_cons, stepRecording]

theorem events_runSteps_cons (step : Step) (steps : List Step) (s : Session (Journaled ε σ)) :
    ((runSteps notifiers (step :: steps)).run s).events =
      ((Session.step notifiers step).run s).events ++
        ((runSteps notifiers steps).run ((Session.step notifiers step).run s).state).events := by
  simp [run_runSteps_cons, stepRecording]

/-- A run keeps what was prepared before it. -/
theorem prefix_prepared_runSteps (steps : List Step) (s : Session (Journaled ε σ)) :
    s.prepared <+: ((runSteps notifiers steps).run s).state.prepared := by
  induction steps generalizing s with
  | nil => simp
  | cons step steps ih =>
    rw [state_runSteps_cons]
    exact (prefix_prepared_step notifiers step s).trans (ih _)

/-- A run keeps a postponed delivery that none of its steps runs or drops. -/
theorem postponed_runSteps {steps : List Step} (s : Session (Journaled ε σ)) {index : Nat}
    (spared : ∀ step ∈ steps, step.Spares index) (h : index < s.postponed.length) :
    ((runSteps notifiers steps).run s).state.postponed[index]? = s.postponed[index]? := by
  induction steps generalizing s with
  | nil => simp
  | cons step steps ih =>
    have longer := Nat.lt_of_lt_of_le h (length_postponed_step notifiers step s)
    rw [state_runSteps_cons, ih _ (fun t ht => spared t (.tail _ ht)) longer,
      postponed_step notifiers s (spared step (.head _)) h]

end Runs

end GuardedSms.Session
