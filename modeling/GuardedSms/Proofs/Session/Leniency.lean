import GuardedSms.Proofs.Notifier.Screening
import GuardedSms.Proofs.Session.Frame
import Mathlib.Data.List.Forall2

/-!
# Errors as refusals

A validator that gives up is treated like one that says no. Of two runs that differ only in that
some answers of the validators are errors in the first and refusals in the second, nothing tells
which one it was: answers, prepared deliveries and journals are the same. Only the trace does, by
one event for each such answer.

## Main definitions

* `Without`: events with some refusals of errors left out.
* `SameBut`: two runs that agree but for the events of some errors.
* `Softer`: a notifier that agrees with another one, but may refuse where that one gives up.

## Main statements

* `Notifier.sameBut_screen`: what remains of an error after a screening.
* `Session.sameBut_step`, `Session.sameBut_runSteps`: what remains of it after steps.
-/
namespace GuardedSms

variable {σ τ α β : Type}

/-! ## Events left out -/

/-- The second events are the first ones, without one refusal for each of the errors. -/
inductive Without : List ValidationError → List Event → List Event → Prop
  | nil : Without [] [] []
  | keep {errors : List ValidationError} {l m : List Event} (e : Event) (h : Without errors l m) :
    Without errors (e :: l) (e :: m)
  | leave {errors : List ValidationError} {l m : List Event} (error : ValidationError)
    (h : Without errors l m) : Without (error :: errors) (.errorRefused error :: l) m

theorem Without.refl (l : List Event) : Without [] l l := by
  induction l with
  | nil => exact .nil
  | cons e l ih => exact ih.keep e

theorem Without.append {errors errors' : List ValidationError} {l m l' m' : List Event}
    (h : Without errors l m) (h' : Without errors' l' m') :
    Without (errors ++ errors') (l ++ l') (m ++ m') := by
  induction h with
  | nil => exact h'
  | keep e _ ih => exact ih.keep e
  | leave error _ ih => exact ih.leave error

theorem Without.between {errors : List ValidationError} {l m : List Event}
    (h : Without errors l m) (front back : List Event) :
    Without errors (front ++ l ++ back) (front ++ m ++ back) := by
  simpa using ((Without.refl front).append h).append (Without.refl back)

/-! ## Actions that agree -/

/-- Two runs with the same value and related states, of which the first also tells of the given
errors. -/
structure SameBut (R : σ → τ → Prop) (errors : List ValidationError) (r : Ran σ α) (t : Ran τ α) :
    Prop where
  value : r.value = t.value
  state : R r.state t.state
  events : Without errors r.events t.events

/-- Two actions that do the same in related states. -/
def Alike (R : σ → τ → Prop) (a : Action σ α) (b : Action τ α) : Prop :=
  ∀ s t, R s t → SameBut R [] (a.run s) (b.run t)

/-! ## Verdicts -/

/-- Two verdicts that are the same, or an error and a refusal. -/
inductive Verdict.Softens : Verdict → Verdict → Prop
  | same (verdict : Verdict) : Softens verdict verdict
  | refused (error : ValidationError) : Softens (.error error) (.ok false)

/-- The error that is a refusal in the second of two verdicts. -/
def Verdict.softened : Verdict → Verdict → List ValidationError
  | .error error, .ok false => [error]
  | _, _ => []

theorem Verdict.Softens.accepts_eq {v w : Verdict} (h : v.Softens w) :
    v.accepts = w.accepts := by
  cases h <;> rfl

theorem Verdict.Softens.without {v w : Verdict} (h : v.Softens w) :
    Without (v.softened w) v.events w.events := by
  cases h with
  | same =>
    cases v with
    | ok => exact .refl _
    | error e => exact .refl _
  | refused error => exact .leave error .nil

/-- A notifier that does what another one does in related states, but may refuse a number where
that one gives up on it. -/
structure Softer (R : σ → τ → Prop) (n : Notifier σ) (m : Notifier τ) : Prop where
  validator : ∀ number region s t, R s t →
    let judged := (n.validator number region).run s
    let judged' := (m.validator number region).run t
    judged.value.Softens judged'.value ∧ R judged.state judged'.state ∧
      judged.events = judged'.events
  sender : ∀ number message, Alike R (n.sender number message) (m.sender number message)
  logger : ∀ text, Alike R (n.logger text) (m.logger text)

namespace Notifier

/-- What the validator says about a number that is screened, if it is asked. -/
def verdict? (n : Notifier σ) (number : Option String) (region : String) (s : σ) :
    Option Verdict :=
  match number with
  | none => none
  | some number => if number = "" then none else some ((n.validator number region).run s).value

end Notifier

/-- The error that is a refusal in the second of two verdicts, if both are there. -/
def softened? : Option Verdict → Option Verdict → List ValidationError
  | some v, some w => v.softened w
  | _, _ => []

section Notifiers

variable {R : σ → τ → Prop} {n : Notifier σ} {m : Notifier τ}

/-- After a screening an error is left in the events only. -/
theorem Notifier.sameBut_screen (soft : Softer R n m) (number : Option String) (region : String)
    {s : σ} {t : τ} (h : R s t) :
    SameBut R (softened? (n.verdict? number region s) (m.verdict? number region t))
      ((n.screen number region).run s) ((m.screen number region).run t) := by
  cases number with
  | none => exact ⟨rfl, h, .refl _⟩
  | some number =>
    by_cases empty : number = ""
    · subst empty
      exact ⟨rfl, h, .refl _⟩
    · obtain ⟨softens, state, events⟩ := soft.validator number region s t h
      have asked : softened? (n.verdict? number region s) (m.verdict? number region t) =
          ((n.validator number region).run s).value.softened
            ((m.validator number region).run t).value := by
        simp [verdict?, softened?, empty]
      rw [asked, run_screen n region s empty, run_screen m region t empty]
      refine ⟨?value, state, ?events⟩
      case value => simp only [outcomeOf, softens.accepts_eq]
      case events =>
        have outcome : screeningEvent ((n.validator number region).run s).value =
            screeningEvent ((m.validator number region).run t).value := by
          simp only [screeningEvent, softens.accepts_eq]
        dsimp only
        rw [events, outcome]
        exact softens.without.between _ _

theorem SameBut.then {f : α → Action σ β} {g : α → Action τ β} {errors : List ValidationError}
    {a : Action σ α} {b : Action τ α} {s : σ} {t : τ} (first : SameBut R errors (a.run s) (b.run t))
    (next : ∀ v, Alike R (f v) (g v)) :
    SameBut R errors ((a >>= f).run s) ((b >>= g).run t) := by
  obtain ⟨value, state, events⟩ := next (a.run s).value _ _ first.state
  rw [first.value] at value state events
  rw [Action.run_bind, Action.run_bind, first.value]
  exact ⟨value, state, by simpa using first.events.append events⟩

theorem alike_pure (R : σ → τ → Prop) (v : α) : Alike R (pure v) (pure v) :=
  fun _ _ h => ⟨rfl, h, .nil⟩

theorem alike_emit (R : σ → τ → Prop) (e : Event) : Alike R (Action.emit e) (Action.emit e) :=
  fun _ _ h => ⟨rfl, h, .refl [e]⟩

/-- Performing a delivery does the same with either notifier. -/
theorem Notifier.alike_perform (soft : Softer R n m) (d : Delivery) :
    Alike R (n.perform d) (m.perform d) := by
  cases d with
  | send number message => exact soft.sender number message
  | log text => exact soft.logger text

theorem Notifier.sameBut_notify (soft : Softer R n m) (number : Option String)
    (region message : String) {s : σ} {t : τ} (h : R s t) :
    SameBut R (softened? (n.verdict? number region s) (m.verdict? number region t))
      ((n.notify number region message).run s) ((m.notify number region message).run t) := by
  refine (sameBut_screen soft number region h).then fun outcome s t h => ?_
  cases outcome with
  | success number =>
    have accepted := alike_emit R (.numberAccepted number region) s t h
    exact accepted.then fun _ => soft.sender number message
  | failure reason =>
    have rejected := alike_emit R (.numberRejected reason) s t h
    exact rejected.then fun _ => soft.logger (Wording.rejection reason)

theorem Notifier.sameBut_prepare (soft : Softer R n m) (number : Option String)
    (region message : String) {s : σ} {t : τ} (h : R s t) :
    SameBut R (softened? (n.verdict? number region s) (m.verdict? number region t))
      ((n.prepare number region message).run s) ((m.prepare number region message).run t) :=
  (sameBut_screen soft number region h).then fun _ => alike_pure R _

end Notifiers

/-! ## Sessions -/

namespace Session

section Requests

variable {R : σ → τ → Prop} {n : Notifier σ} {m : Notifier τ}

/-- Two sessions with related worlds in which the same was prepared and the like postponed. -/
structure Match (R : σ → τ → Prop) (s : Session σ) (t : Session τ) : Prop where
  world : R s.world t.world
  prepared : s.prepared = t.prepared
  postponed : List.Forall₂ (Option.Rel (Alike R)) s.postponed t.postponed

/-- What the validator says when a request is answered, if it is asked. -/
def Request.verdict? (n : Notifier σ) (s : σ) : Request → Option Verdict
  | .screen number region | .notify number region _ | .prepare number region _
  | .postpone number region _ => n.verdict? number region s
  | .perform _ | .performJson _ => none

theorem sameBut_inWorld {a : Action σ α} {b : Action τ α} {s : Session σ} {t : Session τ}
    (h : Match R s t) {errors : List ValidationError}
    (same : SameBut R errors (a.run s.world) (b.run t.world)) :
    SameBut (Match R) errors ((inWorld a).run s) ((inWorld b).run t) :=
  ⟨same.value, ⟨same.state, h.prepared, h.postponed⟩, same.events⟩

theorem run_answer_postpone (n : Notifier σ) (number : Option String) (region message : String)
    (s : Session σ) :
    (answer n (.postpone number region message)).run s =
      let prepared := (n.prepare number region message).run s.world
      ⟨.postponed s.postponed.length,
        { s with
          world := prepared.state
          postponed := s.postponed ++ [some (n.perform prepared.value)] },
        prepared.events⟩ := by
  simp [answer, Notifier.run_postpone]

/-- After the answer to a request an error is left in the events only. -/
theorem sameBut_answer (soft : Softer R n m) (request : Request) {s : Session σ} {t : Session τ}
    (h : Match R s t) :
    SameBut (Match R) (softened? (request.verdict? n s.world) (request.verdict? m t.world))
      ((answer n request).run s) ((answer m request).run t) := by
  cases request with
  | screen number region =>
    exact (sameBut_inWorld h (Notifier.sameBut_screen soft number region h.world)).then
      fun _ => alike_pure _ _
  | notify number region message =>
    exact (sameBut_inWorld h (Notifier.sameBut_notify soft number region message h.world)).then
      fun _ => alike_pure _ _
  | prepare number region message =>
    refine (sameBut_inWorld h (Notifier.sameBut_prepare soft number region message h.world)).then
      fun d s t h => ?_
    exact ⟨rfl, ⟨h.world, congrArg (· ++ [d]) h.prepared, h.postponed⟩, .nil⟩
  | perform index =>
    have same : t.prepared[index]? = s.prepared[index]? := by rw [h.prepared]
    cases found : s.prepared[index]? with
    | some d =>
      have left : (answer n (.perform index)).run s =
          (inWorld (n.perform d) >>= fun _ => pure Answer.nothing).run s := by
        simp [answer, found]
      have right : (answer m (.perform index)).run t =
          (inWorld (m.perform d) >>= fun _ => pure Answer.nothing).run t := by
        simp [answer, same.trans found]
      rw [left, right]
      exact (sameBut_inWorld h (Notifier.alike_perform soft d _ _ h.world)).then
        fun _ => alike_pure _ _
    | none =>
      have left : (answer n (.perform index)).run s = ⟨.outOfRange, s, []⟩ := by
        simp [answer, found]
      have right : (answer m (.perform index)).run t = ⟨.outOfRange, t, []⟩ := by
        simp [answer, same.trans found]
      rw [left, right]
      exact ⟨rfl, h, .nil⟩
  | performJson json =>
    rw [answer, answer]
    cases Delivery.decode json.text with
    | ok d =>
      exact (sameBut_inWorld h (Notifier.alike_perform soft d _ _ h.world)).then
        fun _ => alike_pure _ _
    | error fault => exact ⟨rfl, h, .nil⟩
  | postpone number region message =>
    obtain ⟨value, state, events⟩ :=
      Notifier.sameBut_prepare soft number region message h.world
    -- The two actions that are kept differ, so they match only by what they do later.
    have alike : Alike R (n.perform ((n.prepare number region message).run s.world).value)
        (m.perform ((m.prepare number region message).run t.world).value) := by
      rw [value]
      exact Notifier.alike_perform soft _
    rw [run_answer_postpone, run_answer_postpone]
    refine ⟨?value, ⟨state, h.prepared, ?postponed⟩, events⟩
    case value => exact congrArg Answer.postponed h.postponed.length_eq
    case postponed => exact List.rel_append h.postponed (.cons (.some alike) .nil)

end Requests

/-! ## Steps -/

section Steps

variable {R : σ → τ → Prop}

/-- What the validator says when a step is taken, if it is asked. -/
def Step.verdict? (notifiers : Nat → Option (Notifier σ)) (s : σ) : Step → Option Verdict
  | .ask a request => (notifiers a).bind (request.verdict? · s)
  | .run _ | .drop _ => none

/-- After a step an error is left in the events only. -/
theorem sameBut_step {n : Nat → Option (Notifier σ)} {m : Nat → Option (Notifier τ)}
    (soft : ∀ a, Option.Rel (Softer R) (n a) (m a)) (step : Step) {s : Session σ} {t : Session τ}
    (h : Match R s t) :
    SameBut (Match R) (softened? (step.verdict? n s.world) (step.verdict? m t.world))
      ((Session.step n step).run s) ((Session.step m step).run t) := by
  cases step with
  | ask a request =>
    have known := soft a
    simp only [Session.step, Step.verdict?]
    generalize n a = held, m a = held' at known ⊢
    cases known with
    | none => exact ⟨rfl, h, .nil⟩
    | some soft => exact sameBut_answer soft request h
  | run index =>
    have left := forall₂_getElem? h.postponed index
    rw [run_step_run, run_step_run]
    generalize s.postponed[index]? = action, t.postponed[index]? = action' at left ⊢
    cases left with
    | none => exact ⟨rfl, h, .nil⟩
    | some open? =>
      cases open? with
      | none => exact ⟨rfl, h, .nil⟩
      | some alike =>
        obtain ⟨-, state, events⟩ := alike s.world t.world h.world
        exact ⟨rfl, ⟨state, h.prepared, forall₂_set_none h.postponed index⟩, events⟩
  | drop index =>
    exact ⟨rfl, ⟨h.world, h.prepared, forall₂_set_none h.postponed index⟩, .nil⟩

end Steps

/-! ## Runs -/

section Runs

variable {ε : Type} {R : σ → τ → Prop}

/-- Related states beside the same journal. -/
def Beside (R : σ → τ → Prop) (v : Journaled ε σ) (w : Journaled ε τ) : Prop :=
  R v.state w.state ∧ v.entries = w.entries

/-- The errors of a first run of steps that are refusals in a second one. -/
def errorsSoftened (n : Nat → Option (Notifier σ)) (m : Nat → Option (Notifier τ)) :
    List Step → Session σ → Session τ → List ValidationError
  | [], _, _ => []
  | step :: steps, s, t =>
    softened? (step.verdict? n s.world) (step.verdict? m t.world) ++
      errorsSoftened n m steps ((Session.step n step).run s).state
        ((Session.step m step).run t).state

/-- Recording notifiers agree as far as their validators do. -/
theorem softer_recorded (validator sender logger : String) {v : Validator σ} {v' : Validator τ}
    (soft : ∀ number region s t, R s t →
      let judged := (v number region).run s
      let judged' := (v' number region).run t
      judged.value.Softens judged'.value ∧ R judged.state judged'.state ∧
        judged.events = judged'.events) :
    Softer (Beside R) (.recorded validator sender logger v)
      (.recorded validator sender logger v') where
  validator number region s t h := by
    obtain ⟨value, state, events⟩ := soft number region s.state t.state h.1
    simp only [Notifier.recorded, Notifier.run_validator_recorded]
    exact ⟨value, ⟨state, by rw [h.2]⟩, events⟩
  sender number message s t h := by
    refine ⟨rfl, ⟨h.1, ?_⟩, .nil⟩
    simp [Notifier.recorded, Sender.recorded, h.2]
  logger text s t h := by
    refine ⟨rfl, ⟨h.1, ?_⟩, .nil⟩
    simp [Notifier.recorded, Logger.recorded, h.2]

variable {n : Nat → Option (Notifier (Journaled ε σ))}
variable {m : Nat → Option (Notifier (Journaled ε τ))}

theorem sameBut_stepRecording (soft : ∀ a, Option.Rel (Softer (Beside R)) (n a) (m a))
    (step : Step) {s : Session (Journaled ε σ)} {t : Session (Journaled ε τ)}
    (h : Match (Beside R) s t) :
    SameBut (Match (Beside R)) (softened? (step.verdict? n s.world) (step.verdict? m t.world))
      ((stepRecording n step).run s) ((stepRecording m step).run t) := by
  obtain ⟨value, state, events⟩ := sameBut_step soft step h
  have before : s.world.entries.length = t.world.entries.length := by rw [h.world.2]
  have entries := state.world.2
  exact ⟨by simp [stepRecording, value, entries, before], by simpa [stepRecording] using state,
    by simpa [stepRecording] using events⟩

/-- From sessions that match, an error is left in the events of a run only. -/
theorem sameBut_runSteps_of_match (soft : ∀ a, Option.Rel (Softer (Beside R)) (n a) (m a))
    (steps : List Step) {s : Session (Journaled ε σ)} {t : Session (Journaled ε τ)}
    (h : Match (Beside R) s t) :
    SameBut (Match (Beside R)) (errorsSoftened n m steps s t) ((runSteps n steps).run s)
      ((runSteps m steps).run t) := by
  induction steps generalizing s t with
  | nil => exact ⟨rfl, h, .nil⟩
  | cons step steps ih =>
    obtain ⟨value, state, events⟩ := sameBut_stepRecording soft step h
    obtain ⟨values, final, laterEvents⟩ := ih state
    rw [run_runSteps_cons, run_runSteps_cons]
    refine ⟨?value, final, ?events⟩
    case value => exact congrArg₂ List.cons value values
    case events =>
      rw [state_stepRecording, state_stepRecording] at laterEvents
      rw [errorsSoftened]
      simpa using events.append laterEvents

/-- Errors of validators cannot be told from refusals. Two runs of the same steps, by notifiers that
agree but for errors that are refusals in the second, give the same answers and the same entries at
each step, and leave the same journal and the same deliveries prepared. Their events differ by one
refusal for each of these errors. -/
theorem sameBut_runSteps (soft : ∀ a, Option.Rel (Softer (Beside R)) (n a) (m a))
    (steps : List Step) {v : Journaled ε σ} {w : Journaled ε τ} (start : Beside R v w) :
    SameBut (Match (Beside R)) (errorsSoftened n m steps { world := v } { world := w })
      ((runSteps n steps).run { world := v }) ((runSteps m steps).run { world := w }) :=
  sameBut_runSteps_of_match soft steps ⟨start, rfl, .nil⟩

end Runs

/-- Says yes and something else in turn. -/
def everyOther (otherwise : String → Verdict) : Validator Nat := fun _ region => do
  let asked ← get
  set (asked + 1)
  return if asked % 2 = 0 then .ok true else otherwise region

/-- Two notifiers that share one validator, sender and logger. -/
def wavering (otherwise : String → Verdict) (a : Nat) : Option (Notifier (Recorded Nat)) :=
  if a < 2 then some (.recorded "V" "S" "L" (everyOther otherwise)) else none

/-- They give up on every other number. -/
abbrev givingUp : Nat → Option (Notifier (Recorded Nat)) :=
  wavering fun region => .error (.unknownRegion region)

/-- They refuse every other number. -/
abbrev refusing : Nat → Option (Notifier (Recorded Nat)) := wavering fun _ => .ok false

theorem softer_wavering (a : Nat) :
    Option.Rel (Softer (Beside Eq)) (givingUp a) (refusing a) := by
  by_cases inside : a < 2
  · simp only [wavering, if_pos inside]
    refine .some (softer_recorded "V" "S" "L" ?_)
    rintro number region s t rfl
    by_cases even : s % 2 = 0
    · simpa [everyOther, even] using Verdict.Softens.same _
    · simpa [everyOther, even] using Verdict.Softens.refused _
  · simp only [wavering, if_neg inside]
    exact .none

/-- Three numbers are screened, of which the second is not accepted. -/
def threeScreenings : List Step :=
  [.ask 0 (.notify (some "+1") "US" "a"), .ask 1 (.prepare (some "+2") "FR" "b"),
    .ask 0 (.postpone (some "+3") "IT" "c"), .ask 1 (.perform 0), .run 0]

theorem sameBut_runSteps_threeScreenings :
    (∀ a, Option.Rel (Softer (Beside Eq)) (givingUp a) (refusing a)) ∧
      Beside Eq (.start 0 : Recorded Nat) (.start 0 : Recorded Nat) ∧
      SameBut (Match (Beside Eq)) [.unknownRegion "FR"]
        ((runSteps givingUp threeScreenings).run { world := .start 0 })
        ((runSteps refusing threeScreenings).run { world := .start 0 }) := by
  have start : Beside Eq (.start 0 : Recorded Nat) (.start 0 : Recorded Nat) := ⟨rfl, rfl⟩
  have errors : errorsSoftened givingUp refusing threeScreenings { world := .start 0 }
      { world := .start 0 } = [.unknownRegion "FR"] := rfl
  exact ⟨softer_wavering, start, errors ▸ sameBut_runSteps softer_wavering threeScreenings start⟩

end Session

end GuardedSms
