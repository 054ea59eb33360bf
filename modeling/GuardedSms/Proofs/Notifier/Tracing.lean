import GuardedSms.Proofs.Notifier.Screening
import Mathlib.Data.List.Nodup

/-!
# Trace and journal of a notification

What a notifier emits about a number and what it does about it are the same story. The trace starts
with whatever the validator emits itself, if it is asked at all. Behind that stand the complaint
about a validator that gave up, the event of the chain, and, if the notifier acts at once, a notice
of what it decided. Performing a delivery later adds nothing to the trace.

## Main definitions

* `Notifier.asked`: what the validator does when a number is screened.
* `Notifier.reasons`: the reasons against a number, in the order of the guards.
* `Notifier.Tells`: trace and effect that tell of the same decision.
* `Notifier.Traced`: where in the trace of each operation these events stand.

## Main statements

* `Notifier.screen_cases`: what a screening answers goes with what it emits.
* `Notifier.exists_traced`: every number is traced, by every operation, as it is dealt with.
-/
namespace GuardedSms

variable {σ : Type}

namespace Notifier

/-! ## Consulting the validator -/

/-- What the validator does when a number is screened. It is not asked about a number that is absent
or empty. -/
def asked (v : Validator σ) (number : Option String) (region : String) (s : σ) :
    Option (Ran σ Verdict) :=
  match number with
  | none => none
  | some number => if number = "" then none else some ((v number region).run s)

/-- The events that the validator emits itself when a number is screened. -/
def ownEvents (v : Validator σ) (number : Option String) (region : String) (s : σ) :
    List Event :=
  ((asked v number region s).map Ran.events).getD []

/-- The complaint about a validator that gives up when a number is screened. -/
def complaint (v : Validator σ) (number : Option String) (region : String) (s : σ) :
    List Event :=
  ((asked v number region s).map fun judged => judged.value.events).getD []

/-- A recording validator emits what the validator emits that it records. -/
@[simp] theorem ownEvents_recorded (name : String) (v : Validator σ) (number : Option String)
    (region : String) (w : Recorded σ) :
    ownEvents (Validator.recorded name v) number region w = ownEvents v number region w.state := by
  cases number with
  | none => rfl
  | some number => by_cases empty : number = "" <;> simp [ownEvents, asked, empty]

@[simp] theorem complaint_recorded (name : String) (v : Validator σ) (number : Option String)
    (region : String) (w : Recorded σ) :
    complaint (Validator.recorded name v) number region w = complaint v number region w.state := by
  cases number with
  | none => rfl
  | some number => by_cases empty : number = "" <;> simp [complaint, asked, empty]

/-- The validator is complained about exactly if it was asked and gave up. -/
theorem mem_complaint {v : Validator σ} {number : Option String} {region : String} {s : σ}
    {e : ValidationError} :
    .errorRefused e ∈ complaint v number region s ↔
      ∃ judged, asked v number region s = some judged ∧ judged.value = .error e := by
  unfold complaint
  cases asked v number region s with
  | none => simp
  | some judged => cases h : judged.value <;> simp [Verdict.events, h, eq_comm]

/-! ## The reasons against a number -/

/-- The reasons against a number in the order in which the guards look for them. -/
def reasons (number : Option String) (region : String) : List String :=
  [Wording.absentNumber, Wording.emptyNumber, Wording.invalidNumber (number.getD "") region]

theorem length_invalidNumber (number region : String) :
    42 ≤ (Wording.invalidNumber number region).length := by
  have before : "the phone number ".length = 17 := rfl
  have behind : " is not valid for region ".length = 25 := rfl
  unfold Wording.invalidNumber
  rw [String.length_append, String.length_append, String.length_append, before, behind]
  omega

/-- The reasons differ, whatever the number and the region: the last one is longer. -/
theorem nodup_reasons (number : Option String) (region : String) :
    (reasons number region).Nodup := by
  have absent : Wording.absentNumber.length = 32 := rfl
  have empty : Wording.emptyNumber.length = 33 := rfl
  have long := length_invalidNumber (number.getD "") region
  refine List.Nodup.of_map String.length ?_
  have shorter : 32 ≠ (Wording.invalidNumber (number.getD "") region).length ∧
      33 ≠ (Wording.invalidNumber (number.getD "") region).length := by omega
  simpa [reasons, absent, empty] using shorter

theorem rejection_inj {reason reason' : String} :
    Wording.rejection reason = Wording.rejection reason' ↔ reason = reason' :=
  String.append_right_inj _

/-- A screening turns a number down for the reason of the guard that matched, or accepts it. What
it emits before the event of the chain is about the validator. -/
theorem screen_cases (n : Notifier σ) (number : Option String) (region : String) (s : σ) :
    let screened := (n.screen number region).run s
    let before := ownEvents n.validator number region s ++ complaint n.validator number region s
    (∃ i reason, (reasons number region)[i]? = some reason ∧ screened.value = .failure reason ∧
      screened.events = before ++ [.guardMatched i]) ∨
    ∃ recipient, number = some recipient ∧ screened.value = .success recipient ∧
      screened.events = before ++ [.noGuardMatched 3] := by
  cases number with
  | none => exact .inl ⟨0, _, rfl, rfl, rfl⟩
  | some number =>
    by_cases empty : number = ""
    · subst empty
      exact .inl ⟨1, _, rfl, rfl, rfl⟩
    · simp only [run_screen n region s empty, ownEvents, complaint, asked, if_neg empty,
        Option.map_some, Option.getD_some]
      by_cases accepted : ((n.validator number region).run s).value.accepts
      · exact .inr ⟨number, rfl, by simp [outcomeOf, accepted], by simp [screeningEvent, accepted]⟩
      · exact .inl ⟨2, _, rfl, by simp [outcomeOf, accepted], by simp [screeningEvent, accepted]⟩

/-! ## One decision -/

/-- The event of the chain, the notice and the effect of a notification that tell of the same
decision on a number. -/
structure Tells (sender logger : String) (number : Option String) (region message : String)
    (choice notice : Event) (effect : Entry) : Prop where
  choices : (∃ i < 3, choice = .guardMatched i) ∨ choice = .noGuardMatched 3
  matched : ∀ i, choice = .guardMatched i ↔
    ∃ reason, (reasons number region)[i]? = some reason ∧
      effect = .logged logger (Wording.rejection reason)
  unmatched : choice = .noGuardMatched 3 ↔ ∃ recipient, effect = .sent sender recipient message
  rejected : ∀ reason, notice = .numberRejected reason ↔
    effect = .logged logger (Wording.rejection reason)
  accepted : ∀ recipient place, notice = .numberAccepted recipient place ↔
    number = some recipient ∧ place = region ∧ effect = .sent sender recipient message

theorem tells_rejection (sender logger : String) {number : Option String} {region : String}
    (message : String) {i : Nat} {reason : String}
    (found : (reasons number region)[i]? = some reason) :
    Tells sender logger number region message (.guardMatched i) (.numberRejected reason)
      (.logged logger (Wording.rejection reason)) := by
  obtain ⟨inside, -⟩ := List.getElem?_eq_some_iff.mp found
  refine ⟨.inl ⟨i, inside, rfl⟩, ?matched, by simp, ?rejected, by simp⟩
  case matched =>
    intro j
    constructor
    · rintro ⟨rfl⟩
      exact ⟨reason, found, rfl⟩
    · rintro ⟨reason', found', same⟩
      obtain rfl := rejection_inj.mp (Entry.logged.inj same).2
      have same := (List.getElem?_inj inside (nodup_reasons number region)).mp
        (found.trans found'.symm)
      rw [same]
  case rejected =>
    intro reason'
    rw [Event.numberRejected.injEq, Entry.logged.injEq, rejection_inj]
    simp

theorem tells_acceptance (sender logger recipient region message : String) :
    Tells sender logger (some recipient) region message (.noGuardMatched 3)
      (.numberAccepted recipient region) (.sent sender recipient message) := by
  refine ⟨.inr rfl, by simp, by simp, by simp, ?_⟩
  intro recipient' place
  grind

/-- Where the events of a decision stand in what each operation on a number emits, with the effect
that notifying has. -/
structure Traced (validator sender logger : String) (v : Validator σ) (number : Option String)
    (region message : String) (w : Recorded σ) (choice notice : Event) (effect : Entry) :
    Prop where
  screen : (((recorded validator sender logger v).screen number region).run w).events =
    ownEvents v number region w.state ++ complaint v number region w.state ++ [choice]
  notify : (((recorded validator sender logger v).notify number region message).run w).events =
    ownEvents v number region w.state ++ complaint v number region w.state ++ [choice, notice]
  prepare : (((recorded validator sender logger v).prepare number region message).run w).events =
    ownEvents v number region w.state ++ complaint v number region w.state ++ [choice]
  postpone : (((recorded validator sender logger v).postpone number region message).run w).events =
    ownEvents v number region w.state ++ complaint v number region w.state ++ [choice]
  complained : ∀ e, .errorRefused e ∈ complaint v number region w.state ↔
    ∃ judged, asked v number region w.state = some judged ∧ judged.value = .error e
  perform : ∀ d w', (((recorded validator sender logger v).perform d).run w').events = []
  later : ∀ w',
    ((((recorded validator sender logger v).postpone number region message).run w).value.run
      w').events = []
  journal :
    (((recorded validator sender logger v).notify number region message).run w).state.entries =
      w.entries ++ consultations validator number region ++ [effect]

/-- What an operation emits and does follows from what screening emits and answers. -/
theorem traced_of_screen {validator sender logger : String} {v : Validator σ}
    {number : Option String} {region : String} (message : String) {w : Recorded σ}
    {choice : Event} {outcome : Outcome String}
    (answered : (((recorded validator sender logger v).screen number region).run w).value = outcome)
    (emitted : (((recorded validator sender logger v).screen number region).run w).events =
      ownEvents v number region w.state ++ complaint v number region w.state ++ [choice]) :
    Traced validator sender logger v number region message w choice (noticeOf region outcome)
      ((deliveryOf message outcome).entry sender logger) where
  screen := emitted
  notify := by simp [run_notify, run_perform_recorded, answered, emitted]
  prepare := by rw [run_prepare, emitted]
  postpone := by rw [run_postpone, run_prepare, emitted]
  complained := fun _ => mem_complaint
  perform := fun d w' => by rw [run_perform_recorded]
  later := fun w' => by rw [run_postpone, run_perform_recorded]
  journal := by
    simp only [run_notify, run_perform_recorded, answered, entries_screen_recorded]

/-- Every number is traced, by every operation, as it is dealt with. -/
theorem exists_traced (validator sender logger : String) (v : Validator σ)
    (number : Option String) (region message : String) (w : Recorded σ) :
    ∃ choice notice effect,
      Traced validator sender logger v number region message w choice notice effect ∧
      Tells sender logger number region message choice notice effect := by
  have screened := screen_cases (recorded validator sender logger v) number region w
  have own := ownEvents_recorded validator v number region w
  have complaint := complaint_recorded validator v number region w
  simp only [recorded] at screened
  rw [own, complaint] at screened
  obtain ⟨i, reason, found, answered, emitted⟩ | ⟨recipient, rfl, answered, emitted⟩ := screened
  · exact ⟨_, _, _, traced_of_screen message answered emitted,
      tells_rejection sender logger message found⟩
  · exact ⟨_, _, _, traced_of_screen message answered emitted,
      tells_acceptance sender logger recipient region message⟩

end Notifier

end GuardedSms
