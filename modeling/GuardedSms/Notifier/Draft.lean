import GuardedSms.Notifier
import GuardedSms.Phone.Validator

/-!
# Notifier drafts

A notifier put together capability by capability. One that is given again replaces the earlier
one. Only the sender must be given: the validator is otherwise that of the numbering plans, the
logger that of the diagnostics log.
-/
namespace GuardedSms.Notifier

structure Draft (σ : Type) where
  validator : Option (Validator σ) := none
  sender : Option (Sender σ) := none
  logger : Option (Logger σ) := none

namespace Draft

variable {σ : Type}

def withValidator (d : Draft σ) (v : Validator σ) : Draft σ := { d with validator := some v }

def withSender (d : Draft σ) (s : Sender σ) : Draft σ := { d with sender := some s }

def withLogger (d : Draft σ) (l : Logger σ) : Draft σ := { d with logger := some l }

/-- One capability of a notifier. -/
inductive Write (σ : Type) where
  | validator (v : Validator σ)
  | sender (s : Sender σ)
  | logger (l : Logger σ)

def write (d : Draft σ) : Write σ → Draft σ
  | .validator v => d.withValidator v
  | .sender s => d.withSender s
  | .logger l => d.withLogger l

/-- The draft after giving capabilities in order. -/
def ofWrites (writes : List (Write σ)) : Draft σ := writes.foldl write {}

def build (d : Draft σ) : Except AssemblyError (Notifier σ) := do
  let some sender := d.sender | throw .missingSender
  return {
    validator := d.validator.getD Phone.validator
    sender
    logger := d.logger.getD Logger.diagnostics }

@[simp] theorem build_with_sender (v : Option (Validator σ)) (s : Sender σ)
    (l : Option (Logger σ)) :
    build ⟨v, some s, l⟩ = .ok ⟨v.getD Phone.validator, s, l.getD Logger.diagnostics⟩ := rfl

@[simp] theorem build_without_sender (v : Option (Validator σ)) (l : Option (Logger σ)) :
    build ⟨v, none, l⟩ = .error .missingSender := rfl

end Draft

end GuardedSms.Notifier
