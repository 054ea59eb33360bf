import GuardedSms.Proofs.Notifier.Decisions
import GuardedSms.Proofs.Phone.International

/-!
# Who is to blame

A number that cannot be read is blamed itself where the region is known, and otherwise the region
is, since a number can be read in no region as well, if it carries its country code. So all regions
that are not known are alike: what they answer for a number differs in their own names at most.

To a notifier it makes no difference who is to blame. It rejects the number as one that was judged
invalid. All this does not depend on the plans of the directory.

## Main definitions

* `Notifier.Rejects`: a number is turned down for one reason by every operation of a notifier.
* `Blamed`: what the validator answers for a number in every region, and what notifiers make of it.

## Main statements

* `verdict_known`, `verdict_unknown`: how the verdict follows from reading the number.
* `Notifier.rejects_of_refused`: a number that a validator does not accept is rejected as invalid.
* `validator_blames`: the validator blames the number or the region, whichever is to blame.
-/
namespace GuardedSms

variable {σ : Type}

/-! ## Rejections -/

/-- A number is turned down for one reason whatever a notifier is asked to do with it. -/
structure Notifier.Rejects (n : Notifier σ) (number region reason : String) (s : σ) : Prop where
  screened : ((n.screen (some number) region).run s).value = .failure reason
  prepared : ∀ message, ((n.prepare (some number) region message).run s).value =
    .log (Wording.rejection reason)
  postponed : ∀ message, ((n.postpone (some number) region message).run s).value =
    n.logger (Wording.rejection reason)
  /-- The logger runs, in the state that the validator left, and the sender does not. -/
  notified : ∀ message, ((n.notify (some number) region message).run s).state =
    ((n.logger (Wording.rejection reason)).run ((n.validator number region).run s).state).state

/-- A number that the validator does not accept is rejected as invalid, whether it was judged or
not. -/
theorem Notifier.rejects_of_refused (n : Notifier σ) {number : String} (region : String) (s : σ)
    (filled : number ≠ "") (no : ((n.validator number region).run s).value ≠ .ok true) :
    n.Rejects number region (Wording.invalidNumber number region) s := by
  have refused : outcomeOf number region ((n.validator number region).run s).value =
      .failure (Wording.invalidNumber number region) := by
    rw [outcomeOf, if_neg (mt Verdict.accepts_iff.mp no)]
  -- All four operations begin with a screening and differ in what they do with its outcome.
  have screened := n.run_screen region s filled
  simp only [refused] at screened
  refine ⟨?screened, ?prepared, ?postponed, ?notified⟩
  case screened => rw [screened]
  case prepared =>
    intro message
    rw [run_prepare, screened]
    rfl
  case postponed =>
    intro message
    rw [run_postpone, run_prepare, screened]
    rfl
  case notified =>
    intro message
    rw [run_notify, screened]
    rfl

namespace Phone

variable {dir : Directory}

/-! ## Verdicts -/

/-- In a known region the verdict is that on the number as it is read there. What cannot be read is
blamed with the reason. -/
theorem verdict_known {region : String} (number : String) (known : isRegion region) :
    dir.verdict number region =
      match dir.read (dir.home? region) number with
      | .ok n => .ok (dir.isValid n)
      | .error e => .error (.unparsable number e.message) := by
  rw [Directory.verdict, Directory.readFor, if_pos known]
  cases dir.read (dir.home? region) number <;> rfl

/-- In any other region the verdict is that on the number as it is read in no region. What cannot
be read is blamed on the region, for whatever reason. -/
theorem verdict_unknown {region : String} (number : String) (unknown : ¬ isRegion region) :
    dir.verdict number region =
      match dir.read none number with
      | .ok n => .ok (dir.isValid n)
      | .error _ => .error (.unknownRegion region) := by
  rw [Directory.verdict, Directory.readFor, if_neg unknown]
  cases dir.read none number <;> rfl

example : Directory.listed.verdict "0615229808" "FR" = .ok true := by decide +kernel
example : Directory.listed.verdict "0615229808" "ZZZ" = .error (.unknownRegion "ZZZ") := by
  decide +kernel
example : Directory.listed.verdict "06" "FR" =
    .error (.unparsable "06" NumberError.tooShort.message) := by decide +kernel

/-- What the validator of a directory answers for a number in the regions, and what becomes of the
number through a notifier that asks this validator. -/
structure Blamed (dir : Directory) (number : String) (s : σ) : Prop where
  /-- In a known region: whether the number is valid, or else that the number could not be read,
  with the reason of the reader. -/
  known : ∀ region, isRegion region →
    (∃ n, dir.read (dir.home? region) number = .ok n ∧
      ((dir.validator number region).run s).value = .ok (dir.isValid n)) ∨
    ∃ e, dir.read (dir.home? region) number = .error e ∧
      ((dir.validator number region).run s).value = .error (.unparsable number e.message)
  /-- In any other region: whether the number is valid, or else that the region is not known. -/
  unknown : ∀ region, ¬ isRegion region →
    (∃ n, dir.read none number = .ok n ∧
      ((dir.validator number region).run s).value = .ok (dir.isValid n)) ∨
    ((dir.validator number region).run s).value = .error (.unknownRegion region)
  /-- Two regions that are not known judge alike, or else each of them is blamed. -/
  alike : ∀ r₁ r₂, ¬ isRegion r₁ → ¬ isRegion r₂ →
    (∃ valid, ((dir.validator number r₁).run s).value = .ok valid ∧
      ((dir.validator number r₂).run s).value = .ok valid) ∨
    ((dir.validator number r₁).run s).value = .error (.unknownRegion r₁) ∧
      ((dir.validator number r₂).run s).value = .error (.unknownRegion r₂)
  /-- A notifier rejects the number as invalid for either error, and for a judgement that it is. An
  empty number it rejects without asking. -/
  rejected : ∀ (n : Notifier σ) region, n.validator = dir.validator → number ≠ "" →
    ((dir.validator number region).run s).value ≠ .ok true →
    n.Rejects number region (Wording.invalidNumber number region) s

/-- The validator blames a number in a known region and the region otherwise, and notifiers reject
the number in either case as one that was judged invalid. -/
theorem validator_blames (dir : Directory) (number : String) (s : σ) : Blamed dir number s := by
  refine ⟨?known, ?unknown, ?alike, ?rejected⟩
  case known =>
    intro region known
    rw [Directory.value_validator, verdict_known number known]
    cases dir.read (dir.home? region) number with
    | ok n => exact .inl ⟨n, rfl, rfl⟩
    | error e => exact .inr ⟨e, rfl, rfl⟩
  case unknown =>
    intro region unknown
    rw [Directory.value_validator, verdict_unknown number unknown]
    cases dir.read none number with
    | ok n => exact .inl ⟨n, rfl, rfl⟩
    | error e => exact .inr rfl
  case alike =>
    intro r₁ r₂ unknown₁ unknown₂
    rw [Directory.value_validator, Directory.value_validator, verdict_unknown number unknown₁,
      verdict_unknown number unknown₂]
    cases dir.read none number with
    | ok n => exact .inl ⟨dir.isValid n, rfl, rfl⟩
    | error e => exact .inr ⟨rfl, rfl⟩
  case rejected =>
    intro n region asked filled no
    rw [← asked] at no
    exact n.rejects_of_refused region s filled no

end Phone

end GuardedSms
