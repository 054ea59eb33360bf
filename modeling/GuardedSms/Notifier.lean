import GuardedSms.Delivery
import GuardedSms.Guard

/-!
# Notifiers

A notifier screens a number and then sends a message or logs why it does not. It can do so at
once, describe the delivery and perform it later, or hand out an action that performs it. In all
three cases the number is screened when the notification is made.
-/
namespace GuardedSms

structure Notifier (σ : Type) where
  validator : Validator σ
  sender : Sender σ
  logger : Logger σ

namespace Notifier

variable {σ : Type}

/-- Whether the validator accepts a number. One that gives up does not. -/
def accepts (n : Notifier σ) (number region : String) : Action σ Bool := do
  match ← n.validator number region with
  | .ok valid => return valid
  | .error e =>
    Action.emit (.errorRefused e)
    return false

/-- The reasons against a number in the order in which they are looked for. The validator is asked
about numbers that are there and not empty. -/
def screening (n : Notifier σ) (number : Option String) (region : String) : Chain σ String where
  guards := [
    ⟨pure number.isNone, pure (.failure Wording.absentNumber)⟩,
    ⟨pure (number == some ""), pure (.failure Wording.emptyNumber)⟩,
    ⟨refused, pure (.failure (Wording.invalidNumber (number.getD "") region))⟩]
  fallback := pure (.success (number.getD ""))
where
  refused : Action σ Bool :=
    match number with
    | none => pure true
    | some number => do return !(← n.accepts number region)

/-- The number if nothing speaks against it. -/
def screen (n : Notifier σ) (number : Option String) (region : String) :
    Action σ (Outcome String) :=
  (n.screening number region).eval

/-- Screen a number and send it the message, or log why not. -/
def notify (n : Notifier σ) (number : Option String) (region message : String) :
    Action σ Unit := do
  (← n.screen number region).resolve
    (fun number => do
      Action.emit (.numberAccepted number region)
      n.sender number message)
    (fun reason => do
      Action.emit (.numberRejected reason)
      n.logger (Wording.rejection reason))

/-- The delivery that follows from a screening. -/
def deliveryOf (message : String) : Outcome String → Delivery :=
  Outcome.resolve (.send · message) fun reason => .log (Wording.rejection reason)

/-- Screen a number and describe the delivery. -/
def prepare (n : Notifier σ) (number : Option String) (region message : String) :
    Action σ Delivery := do
  return deliveryOf message (← n.screen number region)

def perform (n : Notifier σ) (d : Delivery) : Action σ Unit := d.perform n.sender n.logger

/-- Screen a number and hand out the action that performs the delivery. -/
def postpone (n : Notifier σ) (number : Option String) (region message : String) :
    Action σ (Action σ Unit) := do
  return n.perform (← n.prepare number region message)

end Notifier

end GuardedSms
