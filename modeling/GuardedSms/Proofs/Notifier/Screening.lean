import GuardedSms.Notifier
import GuardedSms.Notifier.Recording

/-!
# Screening

What screening a number answers, leaves behind and emits: absent and empty numbers are turned down
without the validator, every other number by what the validator says. Notifying, preparing and
postponing are screening followed by the same delivery.

## Main statements

* `Notifier.run_screen`: the outcome, state and events of a screening.
* `Notifier.run_notify`, `Notifier.run_prepare`: how a delivery follows from a screening.
-/
namespace GuardedSms

variable {σ : Type}

/-- The event of a validator that gave up. -/
def Verdict.events : Verdict → List Event
  | .ok _ => []
  | .error e => [.errorRefused e]

namespace Notifier

/-- The outcome for a number that the validator judged. -/
def outcomeOf (number region : String) (verdict : Verdict) : Outcome String :=
  if verdict.accepts then .success number else .failure (Wording.invalidNumber number region)

/-- What the chain of a screening reports about a number that the validator judged. -/
def screeningEvent (verdict : Verdict) : Event :=
  if verdict.accepts then .noGuardMatched 3 else .guardMatched 2

@[simp] theorem run_accepts (n : Notifier σ) (number region : String) (s : σ) :
    (n.accepts number region).run s =
      let judged := (n.validator number region).run s
      ⟨judged.value.accepts, judged.state, judged.events ++ judged.value.events⟩ := by
  rw [accepts, Action.run_bind]
  cases h : ((n.validator number region).run s).value <;> simp [h, Verdict.accepts, Verdict.events]

@[simp] theorem run_screen_none (n : Notifier σ) (region : String) (s : σ) :
    (n.screen none region).run s = ⟨.failure Wording.absentNumber, s, [.guardMatched 0]⟩ := rfl

@[simp] theorem run_screen_empty (n : Notifier σ) (region : String) (s : σ) :
    (n.screen (some "") region).run s =
      ⟨.failure Wording.emptyNumber, s, [.guardMatched 1]⟩ := rfl

/-- A number that is there and not empty is judged by the validator alone. -/
theorem run_screen (n : Notifier σ) {number : String} (region : String) (s : σ)
    (h : number ≠ "") :
    (n.screen (some number) region).run s =
      let judged := (n.validator number region).run s
      ⟨outcomeOf number region judged.value, judged.state,
        judged.events ++ judged.value.events ++ [screeningEvent judged.value]⟩ := by
  have screened : n.screen (some number) region =
      (n.screening (some number) region).eval := rfl
  rw [screened, Chain.eval]
  simp only [screening, screening.refused, Guard.firstHolding]
  cases hv : ((n.validator number region).run s).value.accepts <;>
    simp [h, hv, outcomeOf, screeningEvent]

/-! ## Deliveries from a screening -/

theorem run_prepare (n : Notifier σ) (number : Option String) (region message : String) (s : σ) :
    (n.prepare number region message).run s =
      let screened := (n.screen number region).run s
      ⟨deliveryOf message screened.value, screened.state, screened.events⟩ := by
  simp [prepare]

theorem run_postpone (n : Notifier σ) (number : Option String) (region message : String) (s : σ) :
    (n.postpone number region message).run s =
      let prepared := (n.prepare number region message).run s
      ⟨n.perform prepared.value, prepared.state, prepared.events⟩ := by
  simp [postpone]

/-- The event by which notifying tells of the outcome of the screening. -/
def noticeOf (region : String) : Outcome String → Event
  | .success number => .numberAccepted number region
  | .failure reason => .numberRejected reason

/-- Notifying performs what preparing describes. -/
theorem run_notify (n : Notifier σ) (number : Option String) (region message : String) (s : σ) :
    (n.notify number region message).run s =
      let screened := (n.screen number region).run s
      let performed := (n.perform (deliveryOf message screened.value)).run screened.state
      ⟨(), performed.state,
        screened.events ++ noticeOf region screened.value :: performed.events⟩ := by
  rw [notify, Action.run_bind]
  cases (n.screen number region).run s with
  | mk outcome state events => cases outcome <;> simp [deliveryOf, perform, noticeOf]

/-! ## Recording capabilities -/

/-- A notifier whose capabilities all write into the journal under their names. -/
def recorded (validator sender logger : String) (v : Validator σ) : Notifier (Recorded σ) :=
  ⟨.recorded validator v, .recorded sender, .recorded logger⟩

/-- The entries of a validator when a number is screened. -/
def consultations (validator : String) (number : Option String) (region : String) : List Entry :=
  match number with
  | none => []
  | some number => if number = "" then [] else [.validated validator number region]

@[simp] theorem run_validator_recorded (name : String) (v : Validator σ) (number region : String)
    (w : Recorded σ) :
    (Validator.recorded name v number region).run w =
      let judged := (v number region).run w.state
      ⟨judged.value, ⟨judged.state, w.entries ++ [.validated name number region]⟩,
        judged.events⟩ := by
  simp [Validator.recorded]

/-- Screening writes the consultations of the validator into the journal and nothing else. -/
theorem entries_screen_recorded (validator sender logger : String) (v : Validator σ)
    (number : Option String) (region : String) (w : Recorded σ) :
    (((recorded validator sender logger v).screen number region).run w).state.entries =
      w.entries ++ consultations validator number region := by
  cases number with
  | none => simp [consultations]
  | some number =>
    by_cases h : number = ""
    · subst h
      simp [consultations]
    · rw [run_screen _ region w h]
      simp [recorded, consultations, h]

end Notifier

/-- The entry of a delivery that is performed by recording capabilities. -/
def Delivery.entry (sender logger : String) : Delivery → Entry
  | send number message => .sent sender number message
  | log message => .logged logger message

/-- A delivery performed by recording capabilities adds its entry and leaves the rest alone. -/
theorem Notifier.run_perform_recorded (validator sender logger : String) (v : Validator σ)
    (d : Delivery) (w : Recorded σ) :
    ((recorded validator sender logger v).perform d).run w =
      ⟨(), ⟨w.state, w.entries ++ [d.entry sender logger]⟩, []⟩ := by
  cases d <;> rfl

end GuardedSms
