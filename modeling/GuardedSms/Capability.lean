import GuardedSms.Action

/-!
# Capabilities

What a notifier is given: a validator that judges a number for a region, a sender that passes a
message on to a number, and a logger that takes a text for diagnosis. Each may change a state. A
validator may give up.
-/
namespace GuardedSms

abbrev Validator (σ : Type) : Type := (number region : String) → Action σ Verdict

abbrev Sender (σ : Type) : Type := (number message : String) → Action σ Unit

abbrev Logger (σ : Type) : Type := (text : String) → Action σ Unit

variable {σ : Type}

/-- Announces a message instead of passing it on. -/
def Sender.announcing : Sender σ := fun number body => Action.emit (.smsSent number body)

/-- Writes to the diagnostics log. -/
def Logger.diagnostics : Logger σ := fun text => Action.emit (.diagnostic text)

end GuardedSms
