import GuardedSms.Proofs.Notifier.Screening
import GuardedSms.Proofs.Session.Frame

/-!
# One effect for each delivery

Over any run of recording notifiers the journal holds one effect for each delivery that was made,
at once, from what was prepared or from what was postponed, and no other effect. It holds one
consultation of a validator for each number that was screened, unless there was none. What was
prepared and is never performed, or postponed and never run, leaves no effect.

Which steps deliver is a matter of their order alone. A ledger keeps count of it: how many
deliveries have been prepared, and which of the postponed ones are still open.

## Main definitions

* `Ledger.delivers`, `deliveries`: which steps of a run deliver.
* `Accounting`: how the entries of a run belong to its steps.

## Main statements

* `accounted_step`: one step adds its consultations and, if it delivers, one effect.
* `accounting_runSteps`: every run is accounted for.
-/
namespace GuardedSms

/-- The names under which the capabilities of a notifier record. -/
structure Labels where
  validator : String
  sender : String
  logger : String

/-- Whether an entry tells of an effect. Otherwise it tells of a consultation. -/
def Entry.isEffect : Entry → Bool
  | validated .. => false
  | sent .. | logged .. => true

@[simp] theorem Delivery.isEffect_entry (sender logger : String) (d : Delivery) :
    (d.entry sender logger).isEffect := by cases d <;> rfl

theorem Notifier.isEffect_consultations (validator : String) (number : Option String)
    (region : String) : ∀ e ∈ consultations validator number region, e.isEffect = false := by
  cases number with
  | none => simp [consultations]
  | some number => by_cases h : number = "" <;> simp [consultations, h, Entry.isEffect]

namespace Session

variable {σ : Type}

/-- Recording notifiers over one state, each under its own names and with its own validator. -/
def recordedFamily (labels : Nat → Option Labels) (judges : Nat → Validator σ) (a : Nat) :
    Option (Notifier (Recorded σ)) :=
  (labels a).map fun l => .recorded l.validator l.sender l.logger (judges a)

theorem step_ask_of_some {labels : Nat → Option Labels} {a : Nat} {l : Labels}
    (known : labels a = some l) (judges : Nat → Validator σ) (request : Request) :
    Session.step (recordedFamily labels judges) (.ask a request) =
      answer (.recorded l.validator l.sender l.logger (judges a)) request := by
  simp [Session.step, recordedFamily, known]

theorem step_ask_of_none {labels : Nat → Option Labels} {a : Nat} (known : labels a = none)
    (judges : Nat → Validator σ) (request : Request) :
    Session.step (recordedFamily labels judges) (.ask a request) = pure .noNotifier := by
  simp [Session.step, recordedFamily, known]

/-! ## The ledger -/

/-- How many deliveries have been prepared, and which of the postponed ones are still open. -/
structure Ledger where
  prepared : Nat := 0
  isOpen : List Bool := []

namespace Ledger

variable (labels : Nat → Option Labels)

/-- Whether a step delivers. -/
def delivers (l : Ledger) : Step → Bool
  | .ask a (.notify ..) => (labels a).isSome
  | .ask a (.perform index) => (labels a).isSome && decide (index < l.prepared)
  | .ask a (.performJson json) => (labels a).isSome && (Delivery.decode json.text).isOk
  | .ask _ _ => false
  | .run index => l.isOpen[index]? == some true
  | .drop _ => false

/-- The ledger after a step. -/
def after (l : Ledger) : Step → Ledger
  | .ask a (.prepare ..) =>
    if (labels a).isSome then { l with prepared := l.prepared + 1 } else l
  | .ask a (.postpone ..) =>
    if (labels a).isSome then { l with isOpen := l.isOpen ++ [true] } else l
  | .ask _ _ => l
  | .run index | .drop index => { l with isOpen := l.isOpen.set index false }

end Ledger

/-- Which steps of a run deliver. -/
def deliveries (labels : Nat → Option Labels) : Ledger → List Step → List Bool
  | _, [] => []
  | l, step :: rest => l.delivers labels step :: deliveries labels (l.after labels step) rest

/-- What a request has a validator record. -/
def Request.consultations (validator : String) : Request → List Entry
  | .screen number region | .notify number region _ | .prepare number region _
  | .postpone number region _ => Notifier.consultations validator number region
  | .perform _ | .performJson _ => []

/-- What a step has a validator record. -/
def Step.consultations (labels : Nat → Option Labels) : Step → List Entry
  | .ask a request =>
    match labels a with
    | some l => request.consultations l.validator
    | none => []
  | .run _ | .drop _ => []

/-! ## One step -/

/-- The ledger that a session bears out. -/
def ledger (s : Session σ) : Ledger := ⟨s.prepared.length, s.postponed.map Option.isSome⟩

/-- An action that adds one effect to the journal. -/
def AddsEffect (action : Action (Recorded σ) Unit) : Prop :=
  ∀ w, ∃ e : Entry, e.isEffect ∧ (action.run w).state.entries = w.entries ++ [e]

/-- Whatever is still postponed adds one effect. -/
def OweEffects (postponed : List (Option (Action (Recorded σ) Unit))) : Prop :=
  ∀ action, some action ∈ postponed → AddsEffect action

/-- What lies between two sessions: some consultations and at most one effect. -/
structure Accounted (s t : Session (Recorded σ)) (consultations : List Entry) (delivers : Bool)
    (l : Ledger) : Prop where
  entries : ∃ effects : List Entry,
    t.world.entries = s.world.entries ++ (consultations ++ effects) ∧
      effects.length = delivers.toNat ∧ ∀ e ∈ effects, e.isEffect
  ledger : t.ledger = l
  owe : OweEffects t.postponed

theorem OweEffects.set_none {postponed : List (Option (Action (Recorded σ) Unit))}
    (owe : OweEffects postponed) (index : Nat) : OweEffects (postponed.set index none) :=
  EachPostponed.set_none owe index

theorem OweEffects.concat {postponed : List (Option (Action (Recorded σ) Unit))}
    (owe : OweEffects postponed) {action : Action (Recorded σ) Unit} (adds : AddsEffect action) :
    OweEffects (postponed ++ [some action]) :=
  EachPostponed.concat owe adds

theorem set_false_of_closed {isOpen : List Bool} {index : Nat}
    (closed : isOpen[index]? ≠ some true) : isOpen.set index false = isOpen := by
  by_cases inside : index < isOpen.length
  · have shut : isOpen[index] = false := by simpa [inside] using closed
    rw [← shut, List.set_getElem_self]
  · exact List.set_eq_of_length_le (by omega)

theorem addsEffect_perform (l : Labels) (v : Validator σ) (d : Delivery) :
    AddsEffect ((Notifier.recorded l.validator l.sender l.logger v).perform d) := by
  intro w
  exact ⟨d.entry l.sender l.logger, d.isEffect_entry _ _, by rw [Notifier.run_perform_recorded]⟩

/-- The answer to a request adds its consultations and, if it delivers, one effect. -/
theorem accounted_answer {labels : Nat → Option Labels} {a : Nat} {l : Labels}
    (known : labels a = some l) (v : Validator σ) (request : Request) {s : Session (Recorded σ)}
    (owe : OweEffects s.postponed) :
    Accounted s ((answer (.recorded l.validator l.sender l.logger v) request).run s).state
      (request.consultations l.validator) (s.ledger.delivers labels (.ask a request))
      (s.ledger.after labels (.ask a request)) := by
  let n := Notifier.recorded l.validator l.sender l.logger v
  cases request with
  | screen number region =>
    refine ⟨⟨[], ?_, rfl, by simp⟩, rfl, owe⟩
    simp [answer, Notifier.entries_screen_recorded, Request.consultations]
  | notify number region message =>
    let d := Notifier.deliveryOf message ((n.screen number region).run s.world).value
    refine ⟨⟨[d.entry l.sender l.logger], ?_, ?_, by simp⟩, rfl, owe⟩
    · simp [answer, Notifier.run_notify, Notifier.run_perform_recorded,
        Notifier.entries_screen_recorded, Request.consultations, d, n]
    · simp [Ledger.delivers, known]
  | prepare number region message =>
    refine ⟨⟨[], ?_, rfl, by simp⟩, ?_, owe⟩
    · simp [answer, Notifier.run_prepare, Notifier.entries_screen_recorded, Request.consultations]
    · simp [answer, ledger, Ledger.after, known]
  | perform index =>
    cases found : s.prepared[index]? with
    | some d =>
      obtain ⟨inside, -⟩ := List.getElem?_eq_some_iff.mp found
      refine ⟨⟨[d.entry l.sender l.logger], ?_, ?_, by simp⟩, ?_, ?_⟩
      · simp [answer, found, Notifier.run_perform_recorded, Request.consultations]
      · simp [Ledger.delivers, ledger, known, inside]
      · simp [answer, found, ledger, Ledger.after]
      · simpa [answer, found] using owe
    | none =>
      have outside : ¬ index < s.prepared.length := by simpa using found
      refine ⟨⟨[], ?_, ?_, by simp⟩, ?_, ?_⟩
      · simp [answer, found, Request.consultations]
      · simp [Ledger.delivers, ledger, outside]
      · simp [answer, found, ledger, Ledger.after]
      · simpa [answer, found] using owe
  | performJson json =>
    cases read : Delivery.decode json.text with
    | ok d =>
      refine ⟨⟨[d.entry l.sender l.logger], ?_, ?_, by simp⟩, ?_, ?_⟩
      · simp [answer, read, Notifier.run_perform_recorded, Request.consultations]
      · simp [Ledger.delivers, read, known, Except.isOk, Except.toBool]
      · simp [answer, read, ledger, Ledger.after]
      · simpa [answer, read] using owe
    | error fault =>
      refine ⟨⟨[], ?_, ?_, by simp⟩, ?_, ?_⟩
      · simp [answer, read, Request.consultations]
      · simp [Ledger.delivers, read, Except.isOk, Except.toBool]
      · simp [answer, read, ledger, Ledger.after]
      · simpa [answer, read] using owe
  | postpone number region message =>
    refine ⟨⟨[], ?_, rfl, by simp⟩, ?_, ?_⟩
    · simp [answer, Notifier.run_postpone, Notifier.run_prepare, Notifier.entries_screen_recorded,
        Request.consultations]
    · simp [answer, ledger, Ledger.after, known]
    · exact owe.concat (addsEffect_perform l v _)

/-- One step adds its consultations and, if it delivers, one effect. -/
theorem accounted_step (labels : Nat → Option Labels) (judges : Nat → Validator σ) (step : Step)
    {s : Session (Recorded σ)} (owe : OweEffects s.postponed) :
    Accounted s ((Session.step (recordedFamily labels judges) step).run s).state
      (step.consultations labels) (s.ledger.delivers labels step)
      (s.ledger.after labels step) := by
  cases step with
  | ask a request =>
    cases known : labels a with
    | some l =>
      simp only [step_ask_of_some known, Step.consultations, known]
      exact accounted_answer known (judges a) request owe
    | none =>
      rw [step_ask_of_none known]
      refine ⟨⟨[], ?_, ?_, by simp⟩, ?_, owe⟩
      · simp [Step.consultations, known]
      · cases request <;> simp [Ledger.delivers, known]
      · cases request <;> simp [Ledger.after, known]
  | run index =>
    rw [run_step_run]
    split
    · rename_i action found
      obtain ⟨e, effect, added⟩ := owe action (List.mem_of_getElem? found) s.world
      refine ⟨⟨[e], ?_, ?_, by simpa using effect⟩, ?_, owe.set_none index⟩
      · simp [added, Step.consultations]
      · simp [Ledger.delivers, ledger, found]
      · simp [ledger, Ledger.after, List.map_set]
    · rename_i spent
      -- Closing what is closed already leaves the ledger as it was.
      have closed : s.ledger.isOpen[index]? ≠ some true := by
        intro still
        obtain ⟨left, found, there⟩ : ∃ left, s.postponed[index]? = some left ∧ left.isSome := by
          simpa [ledger] using still
        obtain ⟨action, rfl⟩ := Option.isSome_iff_exists.mp there
        exact spent action found
      refine ⟨⟨[], ?_, ?_, by simp⟩, ?_, owe⟩
      · simp [Step.consultations]
      · simp [Ledger.delivers, beq_false_of_ne closed]
      · simp [Ledger.after, set_false_of_closed closed]
  | drop index =>
    refine ⟨⟨[], ?_, rfl, by simp⟩, ?_, owe.set_none index⟩
    · simp [Session.step, Step.consultations]
    · simp [Session.step, ledger, Ledger.after, List.map_set]

/-! ## Runs -/

/-- How the entries of a run belong to its steps, which start with a ledger and in a world. -/
structure Accounting (labels : Nat → Option Labels) (l : Ledger) (steps : List Step)
    (w : Recorded σ) (ran : Ran (Session (Recorded σ)) (List (Answer × List Entry))) : Prop where
  /-- The journal grows by the entries of the steps, in the order of the steps. -/
  journal : ran.state.world.entries = w.entries ++ ran.value.flatMap Prod.snd
  /-- A step that delivers adds one effect, any other step none. -/
  effects : ran.value.map (fun p => p.2.countP Entry.isEffect) =
    (deliveries labels l steps).map Bool.toNat
  /-- Beside that a step adds its consultations and nothing else. -/
  consultations : ran.value.map (fun p => p.2.filter fun e => !e.isEffect) =
    steps.map (Step.consultations labels)

theorem isEffect_consultations (labels : Nat → Option Labels) (step : Step) :
    ∀ e ∈ step.consultations labels, e.isEffect = false := by
  intro e mem
  cases step with
  | ask a request =>
    rw [Step.consultations] at mem
    split at mem
    · cases request with
      | perform | performJson => contradiction
      | _ => exact Notifier.isEffect_consultations _ _ _ e mem
    · contradiction
  | run | drop => contradiction

/-- A run is accounted for wherever every postponed action adds one effect. -/
theorem accounting_of_oweEffects (labels : Nat → Option Labels) (judges : Nat → Validator σ)
    (steps : List Step) {s : Session (Recorded σ)} (owe : OweEffects s.postponed) :
    Accounting labels s.ledger steps s.world
      ((runSteps (recordedFamily labels judges) steps).run s) := by
  induction steps generalizing s with
  | nil => exact ⟨by simp [runSteps], rfl, rfl⟩
  | cons step steps ih =>
    obtain ⟨⟨effects, added, count, areEffects⟩, ledger, owe'⟩ :=
      accounted_step labels judges step owe
    obtain ⟨journal, delivered, consulted⟩ := ih owe'
    -- The entries of the first step are those it added: its consultations, then its effects.
    have own : ((Session.step (recordedFamily labels judges) step).run s).state.world.entries.drop
        s.world.entries.length = step.consultations labels ++ effects := by
      rw [added, List.drop_left]
    have notEffects := isEffect_consultations labels step
    refine ⟨?journal, ?effects, ?consultations⟩
    case journal =>
      rw [state_runSteps_cons, value_runSteps_cons, journal, own, List.flatMap_cons, added]
      simp
    case effects =>
      have none : (step.consultations labels).countP Entry.isEffect = 0 := by
        simpa [List.countP_eq_zero] using notEffects
      have all : effects.countP Entry.isEffect = effects.length :=
        List.countP_eq_length.mpr areEffects
      rw [value_runSteps_cons, own, List.map_cons, delivered, ledger, deliveries, List.map_cons,
        List.countP_append, none, all, count, Nat.zero_add]
    case consultations =>
      have all : (step.consultations labels).filter (fun e => !e.isEffect) =
          step.consultations labels := List.filter_eq_self.mpr (by simpa using notEffects)
      have none : effects.filter (fun e => !e.isEffect) = [] :=
        List.filter_eq_nil_iff.mpr (by simpa using areEffects)
      rw [value_runSteps_cons, own, List.map_cons, consulted, List.map_cons, List.filter_append,
        all, none, List.append_nil]

/-- In every run of recording notifiers there is one effect for each delivery and one consultation
for each number that was screened. -/
theorem accounting_runSteps (labels : Nat → Option Labels) (judges : Nat → Validator σ)
    (steps : List Step) (w : Recorded σ) :
    Accounting labels {} steps w
      ((runSteps (recordedFamily labels judges) steps).run { world := w }) := by
  have nothing : OweEffects (Session.mk w [] []).postponed := by
    intro action mem
    contradiction
  exact accounting_of_oweEffects labels judges steps nothing

end Session

end GuardedSms
