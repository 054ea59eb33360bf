import GuardedSms.Proofs.Notifier.Screening

/-!
# How a number is decided on

A number is looked at in one order, whatever the validator: is it there, is it empty, does the
validator accept it. The validator is asked about numbers that are there and not empty, once, and
its state changes by this one call. What it says is final, and anything but a clear yes is a no.

`Decides` states this order as rules, without chains or guards.

## Main definitions

* `Decides`: the outcome for a number, with the state it leaves and the calls of the validator.
* `effectOf`: the effect that follows from an outcome.

## Main statements

* `Notifier.screen_iff_decides`: screening a number answers and leaves behind what is decided.
* `Notifier.screen_decides_notify_follows`: notifying adds the effect that follows from it.
-/
namespace GuardedSms

variable {σ : Type}

/-- How a number for a region is decided on in some state: the outcome, the state that is left, and
the calls of the validator with the given name. -/
inductive Decides (name : String) (v : Validator σ) (region : String) :
    Option String → σ → Outcome String → σ → List Entry → Prop
  | absent (s : σ) :
    Decides name v region none s (.failure "the phone number can not be null") s []
  | empty (s : σ) :
    Decides name v region (some "") s (.failure "the phone number can not be empty") s []
  | accepted {number : String} {s : σ} (filled : number ≠ "")
    (yes : ((v number region).run s).value = .ok true) :
    Decides name v region (some number) s (.success number) ((v number region).run s).state
      [.validated name number region]
  | refused {number : String} {s : σ} (filled : number ≠ "")
    (no : ((v number region).run s).value ≠ .ok true) :
    Decides name v region (some number) s
      (.failure ("the phone number " ++ number ++ " is not valid for region " ++ region))
      ((v number region).run s).state [.validated name number region]

/-- The effect that follows from an outcome, as a sender or a logger records it. -/
def effectOf (sender logger message : String) : Outcome String → Entry
  | .success number => .sent sender number message
  | .failure reason => .logged logger ("notification rejected: " ++ reason)

theorem Delivery.entry_deliveryOf (sender logger message : String) (outcome : Outcome String) :
    (Notifier.deliveryOf message outcome).entry sender logger =
      effectOf sender logger message outcome := by
  cases outcome <;> rfl

/-- Only a clear yes accepts a number. -/
theorem Verdict.accepts_iff {verdict : Verdict} : verdict.accepts ↔ verdict = .ok true := by
  cases verdict <;> simp [accepts]

/-- The rules decide on every number in one way only. -/
theorem Decides.unique {name region : String} {v : Validator σ} {number : Option String}
    {s t t' : σ} {outcome outcome' : Outcome String} {calls calls' : List Entry}
    (h : Decides name v region number s outcome t calls)
    (h' : Decides name v region number s outcome' t' calls') :
    outcome = outcome' ∧ t = t' ∧ calls = calls' := by
  cases h with
  | absent =>
    cases h'
    exact ⟨rfl, rfl, rfl⟩
  | empty =>
    cases h' with
    | empty => exact ⟨rfl, rfl, rfl⟩
    | accepted filled | refused filled => exact absurd rfl filled
  | accepted filled yes =>
    cases h' with
    | empty => exact absurd rfl filled
    | accepted => exact ⟨rfl, rfl, rfl⟩
    | refused _ no => exact absurd yes no
  | refused filled no =>
    cases h' with
    | empty => exact absurd rfl filled
    | accepted _ yes => exact absurd yes no
    | refused => exact ⟨rfl, rfl, rfl⟩

namespace Notifier

variable (validator sender logger : String) (v : Validator σ) (number : Option String)
variable (region : String) (w : Recorded σ)

/-- A screening answers and leaves behind what the rules decide. -/
theorem decides_screen :
    let screened := ((recorded validator sender logger v).screen number region).run w
    Decides validator v region number w.state screened.value screened.state.state
      (consultations validator number region) := by
  cases number with
  | none => exact .absent w.state
  | some number =>
    by_cases empty : number = ""
    · subst empty
      exact .empty w.state
    · simp only [run_screen _ region w empty, recorded, run_validator_recorded, consultations,
        if_neg empty]
      by_cases yes : ((v number region).run w.state).value = .ok true
      · rw [outcomeOf, if_pos (Verdict.accepts_iff.mpr yes)]
        exact .accepted empty yes
      · rw [outcomeOf, if_neg (mt Verdict.accepts_iff.mp yes)]
        exact .refused empty yes

/-- The rules decide for an outcome exactly if screening answers with it, leaves the same state and
has the journal grow by the same calls. -/
theorem screen_iff_decides {outcome : Outcome String} {s : σ} {calls : List Entry} :
    Decides validator v region number w.state outcome s calls ↔
      let screened := ((recorded validator sender logger v).screen number region).run w
      screened.value = outcome ∧ screened.state = ⟨s, w.entries ++ calls⟩ := by
  have decided := decides_screen validator sender logger v number region w
  have entries := entries_screen_recorded validator sender logger v number region w
  constructor
  · intro h
    obtain ⟨value, state, called⟩ := decided.unique h
    refine ⟨value, ?_⟩
    rw [← state, ← called, ← entries]
  · rintro ⟨rfl, left⟩
    have called : consultations validator number region = calls := by
      rw [left] at entries
      exact (List.append_cancel_left entries).symm
    dsimp only at decided
    rwa [left, called] at decided

/-- Every number is decided on in one fixed order, by screening and by notifying. Screening answers
what the rules decide, and the validator is called as they say. Notifying adds exactly the effect
that follows, behind the calls of the validator. -/
theorem screen_decides_notify_follows (message : String) :
    let screened := ((recorded validator sender logger v).screen number region).run w
    let notified := ((recorded validator sender logger v).notify number region message).run w
    (∀ outcome s calls, Decides validator v region number w.state outcome s calls ↔
      screened.value = outcome ∧ screened.state = ⟨s, w.entries ++ calls⟩) ∧
    ∃ outcome s calls, Decides validator v region number w.state outcome s calls ∧
      notified.state = ⟨s, w.entries ++ calls ++ [effectOf sender logger message outcome]⟩ := by
  intro screened notified
  have decided := decides_screen validator sender logger v number region w
  have entries := entries_screen_recorded validator sender logger v number region w
  refine ⟨fun _ _ _ => screen_iff_decides validator sender logger v number region w,
    screened.value, screened.state.state, _, decided, ?_⟩
  simp only [notified, run_notify, run_perform_recorded, Delivery.entry_deliveryOf, entries,
    screened]

end Notifier

end GuardedSms
