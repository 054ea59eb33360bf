import GuardedSms.Proofs.Notifier.Screening
import GuardedSms.Proofs.Session.Frame

/-!
# Delivering at once, prepared or postponed

The three ways to deliver screen the number in the same way and at the same time, when the
notification is made. What the screening decided is fixed then: whatever happens before a prepared
or a postponed delivery is performed, performing it adds the one entry that delivering at once
would have added.

## Main statements

* `Session.notify_prepare_postpone_agree`: the three forms agree around any run of other steps.
-/
namespace GuardedSms.Session

variable {σ : Type}

/-- The session after a step. -/
def after (notifiers : Nat → Option (Notifier σ)) (s : Session σ) (step : Step) : Session σ :=
  ((Session.step notifiers step).run s).state

/-- The session after a run of steps. -/
def afterAll {ε : Type} (notifiers : Nat → Option (Notifier (Journaled ε σ)))
    (s : Session (Journaled ε σ)) (steps : List Step) : Session (Journaled ε σ) :=
  ((runSteps notifiers steps).run s).state

section Forms

variable {notifiers : Nat → Option (Notifier σ)} {a : Nat} {n : Notifier σ}
variable (held : notifiers a = some n) (s : Session σ)
variable (number : Option String) (region message : String)

include held

/-- Preparing keeps the delivery that follows from the screening. -/
theorem after_prepare :
    after notifiers s (.ask a (.prepare number region message)) =
      let screened := (n.screen number region).run s.world
      { s with
        world := screened.state
        prepared := s.prepared ++ [Notifier.deliveryOf message screened.value] } := by
  simp [after, Session.step, held, answer, Notifier.run_prepare]

/-- Postponing keeps an action that performs that delivery. -/
theorem after_postpone :
    after notifiers s (.ask a (.postpone number region message)) =
      let screened := (n.screen number region).run s.world
      { s with
        world := screened.state
        postponed :=
          s.postponed ++ [some (n.perform (Notifier.deliveryOf message screened.value))] } := by
  simp [after, Session.step, held, answer, Notifier.run_postpone, Notifier.run_prepare]

/-- Notifying performs it. -/
theorem after_notify :
    after notifiers s (.ask a (.notify number region message)) =
      let screened := (n.screen number region).run s.world
      let d := Notifier.deliveryOf message screened.value
      { s with world := ((n.perform d).run screened.state).state } := by
  simp [after, Session.step, held, answer, Notifier.run_notify]

end Forms

section Later

variable {ε : Type} (notifiers : Nat → Option (Notifier (Journaled ε σ)))
variable (s : Session (Journaled ε σ)) {index : Nat}

/-- After any run of steps a prepared delivery is performed as it was prepared. -/
theorem world_perform_later {a : Nat} {n : Notifier (Journaled ε σ)} {d : Delivery}
    (held : notifiers a = some n) (prepared : s.prepared[index]? = some d) (steps : List Step) :
    (after notifiers (afterAll notifiers s steps) (.ask a (.perform index))).world =
      ((n.perform d).run (afterAll notifiers s steps).world).state := by
  obtain ⟨more, kept⟩ := prefix_prepared_runSteps notifiers steps s
  have found : (afterAll notifiers s steps).prepared[index]? = some d := by
    obtain ⟨inside, _⟩ := List.getElem?_eq_some_iff.mp prepared
    rw [afterAll, ← kept, List.getElem?_append_left inside, prepared]
  simp [after, Session.step, held, answer, found]

/-- After any run that spares it a postponed action runs as it was handed out. -/
theorem world_run_later {action : Action (Journaled ε σ) Unit}
    (postponed : s.postponed[index]? = some (some action)) (steps : List Step)
    (spared : ∀ step ∈ steps, step.Spares index) :
    (after notifiers (afterAll notifiers s steps) (.run index)).world =
      (action.run (afterAll notifiers s steps).world).state := by
  obtain ⟨inside, _⟩ := List.getElem?_eq_some_iff.mp postponed
  have found : (afterAll notifiers s steps).postponed[index]? = some (some action) := by
    rw [afterAll, postponed_runSteps notifiers s spared inside, postponed]
  simp [after, Session.step, found]

end Later

/-- A world with one more entry in its journal and the rest as it was. -/
def withEntry (w : Recorded σ) (e : Entry) : Recorded σ := { w with entries := w.entries ++ [e] }

/-- How the three forms of one notification agree on a delivery `d`, in a session `s`. -/
structure Agreement (notifiers : Nat → Option (Notifier (Recorded σ))) (a : Nat)
    (validator sender logger : String) (number : Option String) (region message : String)
    (s : Session (Recorded σ)) (d : Delivery) : Prop where
  /-- Preparing records the consultations of the validator and nothing else. -/
  screened : (after notifiers s (.ask a (.prepare number region message))).world.entries =
    s.world.entries ++ Notifier.consultations validator number region
  /-- Postponing leaves the validator and the journal as preparing does. -/
  postponed : (after notifiers s (.ask a (.postpone number region message))).world =
    (after notifiers s (.ask a (.prepare number region message))).world
  /-- Notifying adds the entry of the delivery to that. -/
  eager : (after notifiers s (.ask a (.notify number region message))).world =
    withEntry (after notifiers s (.ask a (.prepare number region message))).world
      (d.entry sender logger)
  /-- Performing what was prepared adds that entry, whatever happened before. -/
  performed : ∀ further : List Step,
    let later :=
      afterAll notifiers (after notifiers s (.ask a (.prepare number region message))) further
    (after notifiers later (.ask a (.perform s.prepared.length))).world =
      withEntry later.world (d.entry sender logger)
  /-- Running what was postponed adds that entry, whatever else happened before. -/
  invoked : ∀ further : List Step, (∀ step ∈ further, step.Spares s.postponed.length) →
    let later :=
      afterAll notifiers (after notifiers s (.ask a (.postpone number region message))) further
    (after notifiers later (.run s.postponed.length)).world =
      withEntry later.world (d.entry sender logger)
  /-- When nothing happens in between, the three forms leave the same world. -/
  performedAtOnce :
    (after notifiers (after notifiers s (.ask a (.prepare number region message)))
        (.ask a (.perform s.prepared.length))).world =
      (after notifiers s (.ask a (.notify number region message))).world
  invokedAtOnce :
    (after notifiers (after notifiers s (.ask a (.postpone number region message)))
        (.run s.postponed.length)).world =
      (after notifiers s (.ask a (.notify number region message))).world

/-- Notifying, preparing and postponing agree on one delivery, whatever the validator answers and
whatever is done by this or any other notifier before the delivery is performed. -/
theorem notify_prepare_postpone_agree (notifiers : Nat → Option (Notifier (Recorded σ))) (a : Nat)
    (validator sender logger : String) (v : Validator σ)
    (held : notifiers a = some (.recorded validator sender logger v))
    (number : Option String) (region message : String) (s : Session (Recorded σ)) :
    ∃ d, Agreement notifiers a validator sender logger number region message s d := by
  let n := Notifier.recorded validator sender logger v
  let screened := (n.screen number region).run s.world
  let d := Notifier.deliveryOf message screened.value
  have entry (w : Recorded σ) :
      ((n.perform d).run w).state = withEntry w (d.entry sender logger) := by
    rw [Notifier.run_perform_recorded, withEntry]
  have prepared := after_prepare held s number region message
  have postponed := after_postpone held s number region message
  have notified := after_notify held s number region message
  have eager : (after notifiers s (.ask a (.notify number region message))).world =
      withEntry screened.state (d.entry sender logger) := by
    rw [notified]
    exact entry screened.state
  have keptPrepared : (after notifiers s (.ask a (.prepare number region message))).prepared[
      s.prepared.length]? = some d := by
    simp [prepared, d, screened, n]
  have keptPostponed : (after notifiers s (.ask a (.postpone number region message))).postponed[
      s.postponed.length]? = some (some (n.perform d)) := by
    simp [postponed, d, screened, n]
  refine ⟨d, ?screened, ?postponed, ?eager, ?performed, ?invoked, ?performedAtOnce,
    ?invokedAtOnce⟩
  case screened =>
    rw [prepared]
    exact Notifier.entries_screen_recorded validator sender logger v number region s.world
  case postponed => rw [postponed, prepared]
  case eager => rw [eager, prepared]
  case performed =>
    intro further later
    exact (world_perform_later notifiers _ held keptPrepared further).trans (entry _)
  case invoked =>
    intro further spared later
    exact (world_run_later notifiers _ keptPostponed further spared).trans (entry _)
  case performedAtOnce =>
    have atOnce := (world_perform_later notifiers _ held keptPrepared []).trans (entry _)
    rw [eager]
    exact atOnce.trans (by rw [prepared]; rfl)
  case invokedAtOnce =>
    have atOnce := (world_run_later notifiers _ keptPostponed [] (by simp)).trans (entry _)
    rw [eager]
    exact atOnce.trans (by rw [postponed]; rfl)

/-- Says yes and no in turn, and counts how often it was asked. -/
def alternating : Validator Nat := fun _ _ => do
  let asked ← get
  set (asked + 1)
  return .ok (asked % 2 == 0)

/-- Two notifiers that share one validator, sender and logger. -/
def alternatingPair (a : Nat) : Option (Notifier (Recorded Nat)) :=
  if a < 2 then some (.recorded "V" "S" "L" alternating) else none

theorem notify_prepare_postpone_agree_alternating :
    alternatingPair 0 = some (.recorded "V" "S" "L" alternating) ∧
      ∃ d, Agreement alternatingPair 0 "V" "S" "L" (some "+1") "FR" "hi" ⟨.start 0, [], []⟩ d :=
  ⟨rfl, notify_prepare_postpone_agree alternatingPair 0 "V" "S" "L" alternating rfl (some "+1")
    "FR" "hi" ⟨.start 0, [], []⟩⟩

end GuardedSms.Session
