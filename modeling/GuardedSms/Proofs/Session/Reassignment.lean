import GuardedSms.Notifier.Stub
import GuardedSms.Proofs.Notifier.Drafting

/-!
# Reassigned steps

Notifiers that share one validator, one sender and one logger stand in for each other, however each
of them was assembled. Whatever steps are taken with them, it does not matter which of them is asked
for which step. One may perform what another prepared. All that a run leaves behind is the same.

## Main definitions

* `Notifier.Holds`: a notifier with given capabilities, assembled in some way.
* `Step.Reassigned`: a step that another member of a family is asked for.

## Main statements

* `runSteps_reassigned`: a run does not tell which member was asked for a step.
-/
namespace GuardedSms

variable {ε σ : Type}

/-- A notifier that holds given capabilities: it was made of them, or drafted with them as the last
of each kind. What a draft was not given is made up for as always. -/
inductive Notifier.Holds (v : Validator σ) (s : Sender σ) (l : Logger σ) : Notifier σ → Prop
  | direct : Holds v s l ⟨v, s, l⟩
  | drafted {ι : Type} (given : List (ι × Draft.Write σ)) {n : Notifier σ}
    (built : (Draft.ofGiven given).build = .ok n)
    (validator : (Draft.last Draft.Write.validator? given).elim Phone.validator Prod.snd = v)
    (sender : ∃ name, Draft.last Draft.Write.sender? given = some (name, s))
    (logger : (Draft.last Draft.Write.logger? given).elim Logger.diagnostics Prod.snd = l) :
    Holds v s l n

/-- However a notifier was assembled, it is nothing but its capabilities. -/
theorem Notifier.Holds.eq {v : Validator σ} {s : Sender σ} {l : Logger σ} {n : Notifier σ}
    (holds : n.Holds v s l) : n = ⟨v, s, l⟩ := by
  cases holds with
  | direct => rfl
  | drafted given built validator sender logger =>
    obtain ⟨name, last⟩ := sender
    rw [Draft.build_ofGiven, last] at built
    obtain rfl : Draft.assembly given (name, s) = n := by simpa using built
    rw [Draft.assembly, validator, logger]

namespace Session

/-- A step that is taken with some member of a family, and the same step with another member. -/
inductive Step.Reassigned (member : Nat → Prop) : Step → Step → Prop
  | ask {a b : Nat} (one : member a) (other : member b) (request : Request) :
    Reassigned member (.ask a request) (.ask b request)
  | same (step : Step) : Reassigned member step step

variable {member : Nat → Prop} {v : Validator (Journaled ε σ)} {s : Sender (Journaled ε σ)}
variable {l : Logger (Journaled ε σ)} {notifiers : Nat → Option (Notifier (Journaled ε σ))}

theorem step_reassigned
    (share : ∀ a, member a → ∃ n, notifiers a = some n ∧ n.Holds v s l) {step step' : Step}
    (reassigned : step.Reassigned member step') :
    Session.step notifiers step' = Session.step notifiers step := by
  cases reassigned with
  | same step => rfl
  | ask one other request =>
    obtain ⟨n, asked, holds⟩ := share _ one
    obtain ⟨m, asked', holds'⟩ := share _ other
    simp only [Session.step, asked, asked', holds.eq, holds'.eq]

/-- Whichever members of a family are asked for the steps of a run, from any session on: the answers
and the entries of each step, the journal, the validator and the trace are the same. -/
theorem runSteps_reassigned
    (share : ∀ a, member a → ∃ n, notifiers a = some n ∧ n.Holds v s l) {steps steps' : List Step}
    (reassigned : List.Forall₂ (Step.Reassigned member) steps steps') :
    runSteps notifiers steps' = runSteps notifiers steps := by
  induction reassigned with
  | nil => rfl
  | cons first _ ih =>
    simp only [runSteps, stepRecording, step_reassigned share first, ih]

/-- A scripted validator, which accepts every other number. -/
def sharedValidator : Validator (Recorded Usage) :=
  .recorded "V" (Stub.validator { script := [.ok true, .ok false, .ok true] } (.shared "V"))

/-- What one member is given: a validator and a sender at first, and then those of the family. -/
def redrafted : List (Nat × Notifier.Draft.Write (Recorded Usage)) :=
  [(0, .validator Phone.validator), (1, .sender (.recorded "S0")), (2, .logger (.recorded "L")),
    (3, .sender (.recorded "S")), (4, .validator sharedValidator)]

/-- Three notifiers that share their capabilities: two of them were made of these, one was
drafted. -/
def sharing (a : Nat) : Option (Notifier (Recorded Usage)) :=
  match a with
  | 0 | 1 => some ⟨sharedValidator, .recorded "S", .recorded "L"⟩
  | 2 => (Notifier.Draft.ofGiven redrafted).build.toOption
  | _ => none

/-- One member prepares a delivery that another performs, while a third one postpones another. -/
def errands (preparing performing : Nat) : List Step :=
  [.ask preparing (.prepare (some "+1") "FR" "a"), .ask 0 (.postpone (some "+2") "FR" "b"),
    .ask performing (.perform 0), .run 0]

theorem runSteps_reassigned_sharing :
    (∀ a, a < 3 → ∃ n, sharing a = some n ∧
        n.Holds sharedValidator (.recorded "S") (.recorded "L")) ∧
      List.Forall₂ (Step.Reassigned (· < 3)) (errands 0 0) (errands 2 1) ∧
      runSteps sharing (errands 2 1) = runSteps sharing (errands 0 0) := by
  have share (a : Nat) (member : a < 3) : ∃ n, sharing a = some n ∧
      n.Holds sharedValidator (.recorded "S") (.recorded "L") := by
    match a with
    | 0 | 1 => exact ⟨_, rfl, .direct⟩
    | 2 => exact ⟨_, rfl, .drafted redrafted rfl rfl ⟨3, rfl⟩ rfl⟩
  have reassigned : List.Forall₂ (Step.Reassigned (· < 3)) (errands 0 0) (errands 2 1) :=
    .cons (.ask (by decide) (by decide) _) (.cons (.same _)
      (.cons (.ask (by decide) (by decide) _) (.cons (.same _) .nil)))
  exact ⟨share, reassigned, runSteps_reassigned share reassigned⟩

end Session

end GuardedSms
