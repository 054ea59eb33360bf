import GuardedSms.Proofs.Notifier.Tracing
import GuardedSms.Proofs.Session.Accounting

/-!
# Trace and journal of a run

Over a whole run the notices in the trace and the effects of notifying are equally many: an
acceptance for each message that notifying sent, a rejection for each reason that it logged. What
validators emit themselves is counted apart. Performing what was prepared or postponed has effects
but emits nothing.

## Main definitions

* `Paired`: a kind of notice and the kind of effect that goes with it.
* `Session.ownEvents`, `Session.notified`: what the validators of a run emit themselves, and what
  its notifying steps write into the journal.

## Main statements

* `Session.count_step`, `Session.count_runSteps`: notices and effects of one step and of a run.
* `Session.trace_tells_effects`: trace and effects tell the same story.
-/
namespace GuardedSms

variable {σ : Type}

/-! ## Kinds of notices and of effects -/

def Event.isAcceptance : Event → Bool
  | numberAccepted .. => true
  | _ => false

def Event.isRejection : Event → Bool
  | numberRejected _ => true
  | _ => false

def Entry.isSent : Entry → Bool
  | sent .. => true
  | _ => false

def Entry.isLogged : Entry → Bool
  | logged .. => true
  | _ => false

/-- A kind of notice that is given exactly when an effect of some kind follows. -/
structure Paired (notice : Event → Bool) (effect : Entry → Bool) : Prop where
  matched : ∀ i, notice (.guardMatched i) = false
  unmatched : ∀ n, notice (.noGuardMatched n) = false
  refused : ∀ e, notice (.errorRefused e) = false
  validated : ∀ name number region, effect (.validated name number region) = false
  together : ∀ region message sender logger outcome, notice (Notifier.noticeOf region outcome) =
    effect ((Notifier.deliveryOf message outcome).entry sender logger)

theorem paired_acceptance : Paired Event.isAcceptance Entry.isSent :=
  ⟨fun _ => rfl, fun _ => rfl, fun _ => rfl, fun _ _ _ => rfl, fun _ _ _ _ o => by cases o <;> rfl⟩

theorem paired_rejection : Paired Event.isRejection Entry.isLogged :=
  ⟨fun _ => rfl, fun _ => rfl, fun _ => rfl, fun _ _ _ => rfl, fun _ _ _ _ o => by cases o <;> rfl⟩

namespace Notifier

variable {notice : Event → Bool} {effect : Entry → Bool} (paired : Paired notice effect)
variable (validator sender logger : String) (v : Validator σ)
variable (number : Option String) (region : String) (w : Recorded σ)

include paired

theorem count_consultations : (consultations validator number region).countP effect = 0 := by
  cases number with
  | none => rfl
  | some number => by_cases empty : number = "" <;> simp [consultations, empty, paired.validated]

theorem count_complaint (s : σ) : (complaint v number region s).countP notice = 0 := by
  unfold complaint
  cases asked v number region s with
  | none => rfl
  | some judged => cases h : judged.value <;> simp [Verdict.events, h, paired.refused]

/-- A screening gives no notice. -/
theorem count_screen :
    (((recorded validator sender logger v).screen number region).run w).events.countP notice =
      (ownEvents v number region w.state).countP notice := by
  have screened := screen_cases (recorded validator sender logger v) number region w
  simp only [recorded, ownEvents_recorded, complaint_recorded] at screened
  obtain ⟨i, -, -, -, emitted⟩ | ⟨-, -, -, emitted⟩ := screened <;>
    simp [recorded, emitted, count_complaint paired, paired.matched, paired.unmatched]

end Notifier

namespace Session

/-! ## What belongs to the validators -/

/-- What a validator emits itself in the course of a request. -/
def Request.ownEvents (v : Validator σ) (s : σ) : Request → List Event
  | .screen number region | .notify number region _ | .prepare number region _
  | .postpone number region _ => Notifier.ownEvents v number region s
  | .perform _ | .performJson _ => []

/-- What a validator emits itself in the course of a step. -/
def Step.ownEvents (labels : Nat → Option Labels) (judges : Nat → Validator σ) (s : σ) :
    Step → List Event
  | .ask a request => if (labels a).isSome then request.ownEvents (judges a) s else []
  | .run _ | .drop _ => []

/-- What the validators emit themselves in the course of a run. -/
def ownEvents (labels : Nat → Option Labels) (judges : Nat → Validator σ) :
    List Step → Session (Recorded σ) → List Event
  | [], _ => []
  | step :: steps, s =>
    step.ownEvents labels judges s.world.state ++
      ownEvents labels judges steps
        ((Session.step (recordedFamily labels judges) step).run s).state

/-! ## What notifying writes into the journal -/

def Step.notifies : Step → Bool
  | .ask _ (.notify ..) => true
  | _ => false

/-- The entries that the notifying steps of a run added, by what is told of each step. -/
def notified (steps : List Step) (told : List (Answer × List Entry)) : List Entry :=
  (steps.zip told).flatMap fun (step, _, entries) => if step.notifies then entries else []

theorem notified_cons (step : Step) (steps : List Step) (answer : Answer) (entries : List Entry)
    (told : List (Answer × List Entry)) :
    notified (step :: steps) ((answer, entries) :: told) =
      (if step.notifies then entries else []) ++ notified steps told := rfl

/-! ## One step -/

/-- An action that emits nothing. -/
def Silent (action : Action (Recorded σ) Unit) : Prop := ∀ w, (action.run w).events = []

theorem silent_perform (l : Labels) (v : Validator σ) (d : Delivery) :
    Silent ((Notifier.recorded l.validator l.sender l.logger v).perform d) := by
  intro w
  rw [Notifier.run_perform_recorded]

/-- Notices and effects between two sessions, where nothing that is postponed will emit. -/
structure Counted (notice : Event → Bool) (effect : Entry → Bool) (events own : List Event)
    (entries : List Entry) (t : Session (Recorded σ)) : Prop where
  count : events.countP notice = own.countP notice + entries.countP effect
  silent : EachPostponed Silent t.postponed

section Steps

variable {notice : Event → Bool} {effect : Entry → Bool} (paired : Paired notice effect)
variable (labels : Nat → Option Labels) (judges : Nat → Validator σ)
variable {s : Session (Recorded σ)} (silent : EachPostponed Silent s.postponed)

include paired silent

theorem count_answer (l : Labels) (v : Validator σ) (a : Nat) (request : Request) :
    let answered := (answer (.recorded l.validator l.sender l.logger v) request).run s
    let added := answered.state.world.entries.drop s.world.entries.length
    Counted notice effect answered.events (request.ownEvents v s.world.state)
      (if (Step.ask a request).notifies then added else []) answered.state := by
  have screened := fun number region =>
    Notifier.count_screen paired l.validator l.sender l.logger v number region s.world
  cases request with
  | screen number region =>
    refine ⟨?_, silent⟩
    simp [answer, screened, Request.ownEvents, Step.notifies]
  | notify number region message =>
    refine ⟨?_, silent⟩
    have consulted := Notifier.count_consultations paired l.validator number region
    simp [answer, Notifier.run_notify, Notifier.run_perform_recorded, screened, Request.ownEvents,
      Step.notifies, Notifier.entries_screen_recorded, consulted, List.countP_append,
      List.countP_cons, paired.together region message l.sender l.logger]
  | prepare number region message =>
    refine ⟨?_, silent⟩
    simp [answer, Notifier.run_prepare, screened, Request.ownEvents, Step.notifies]
  | perform index =>
    cases found : s.prepared[index]? <;>
      exact ⟨by simp [answer, found, Notifier.run_perform_recorded, Request.ownEvents,
        Step.notifies], by simpa [answer, found] using silent⟩
  | performJson json =>
    cases read : Delivery.decode json.text <;>
      exact ⟨by simp [answer, read, Notifier.run_perform_recorded, Request.ownEvents,
        Step.notifies], by simpa [answer, read] using silent⟩
  | postpone number region message =>
    refine ⟨?_, silent.concat (silent_perform l v _)⟩
    simp [answer, Notifier.run_postpone, Notifier.run_prepare, screened, Request.ownEvents,
      Step.notifies]

/-- A step gives the notices that go with the effects of notifying in it. -/
theorem count_step (step : Step) :
    let stepped := (Session.step (recordedFamily labels judges) step).run s
    let added := stepped.state.world.entries.drop s.world.entries.length
    Counted notice effect stepped.events (step.ownEvents labels judges s.world.state)
      (if step.notifies then added else []) stepped.state := by
  cases step with
  | ask a request =>
    cases known : labels a with
    | some l =>
      simp only [step_ask_of_some known, Step.ownEvents, known, Option.isSome_some, if_true]
      exact count_answer paired silent l (judges a) a request
    | none =>
      simp only [step_ask_of_none known, Step.ownEvents, known, Action.run_pure]
      exact ⟨by simp, silent⟩
  | run index =>
    rw [run_step_run]
    split
    · rename_i action found
      have quiet := silent action (List.mem_of_getElem? found) s.world
      exact ⟨by simp [quiet, Step.ownEvents, Step.notifies], silent.set_none index⟩
    · exact ⟨by simp [Step.ownEvents, Step.notifies], silent⟩
  | drop index =>
    exact ⟨by simp [Session.step, Step.ownEvents, Step.notifies], silent.set_none index⟩

/-- So does a run. -/
theorem count_runSteps (steps : List Step) :
    let ran := (runSteps (recordedFamily labels judges) steps).run s
    ran.events.countP notice = (ownEvents labels judges steps s).countP notice +
      (notified steps ran.value).countP effect := by
  induction steps generalizing s with
  | nil => rfl
  | cons step steps ih =>
    obtain ⟨count, silent'⟩ := count_step paired labels judges silent step
    have rest := ih silent'
    dsimp only at rest ⊢
    rw [events_runSteps_cons, value_runSteps_cons, ownEvents, notified_cons, List.countP_append,
      List.countP_append, List.countP_append, count, rest]
    omega

end Steps

/-- Trace and effects tell the same story. Each operation on a number emits the events of one
decision, and that is the decision which the effect of notifying shows. Over a run, beside what the
validators emit themselves, there are as many acceptances as messages that notifying sent, and as
many rejections as reasons that it logged. -/
theorem trace_tells_effects :
    (∀ (validator sender logger : String) (v : Validator σ) (number : Option String)
      (region message : String) (w : Recorded σ), ∃ choice notice effect,
        Notifier.Traced validator sender logger v number region message w choice notice effect ∧
        Notifier.Tells sender logger number region message choice notice effect) ∧
    ∀ (labels : Nat → Option Labels) (judges : Nat → Validator σ) (steps : List Step)
      (w : Recorded σ),
      let ran := (runSteps (recordedFamily labels judges) steps).run { world := w }
      let own := ownEvents labels judges steps { world := w }
      ran.events.countP Event.isAcceptance =
          own.countP Event.isAcceptance + (notified steps ran.value).countP Entry.isSent ∧
        ran.events.countP Event.isRejection =
          own.countP Event.isRejection + (notified steps ran.value).countP Entry.isLogged := by
  refine ⟨Notifier.exists_traced, ?_⟩
  intro labels judges steps w ran own
  have nothing : EachPostponed Silent (Session.mk w [] []).postponed := by
    intro action mem
    contradiction
  exact ⟨count_runSteps paired_acceptance labels judges nothing steps,
    count_runSteps paired_rejection labels judges nothing steps⟩

end Session

end GuardedSms
