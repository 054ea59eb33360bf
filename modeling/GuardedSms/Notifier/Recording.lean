import GuardedSms.Delivery
import GuardedSms.Journaled

/-!
# Recorded capabilities

Capabilities that write into a journal, under a name, when they are called and with what.
-/
namespace GuardedSms

inductive Entry where
  | validated (name number region : String)
  | sent (name number message : String)
  | logged (name text : String)
  deriving DecidableEq

abbrev Recorded (σ : Type) : Type := Journaled Entry σ

variable {σ : Type}

def Validator.recorded (name : String) (v : Validator σ) : Validator (Recorded σ) :=
  fun number region => do
    Journaled.record (.validated name number region)
    Journaled.beside (v number region)

def Sender.recorded (name : String) : Sender (Recorded σ) := fun number message =>
  Journaled.record (.sent name number message)

def Logger.recorded (name : String) : Logger (Recorded σ) := fun text =>
  Journaled.record (.logged name text)

/-- What performing a delivery records. -/
def Delivery.entries (sender logger : String) (d : Delivery) : List Entry :=
  ((d.perform (Sender.recorded sender) (Logger.recorded logger)).run (.start ())).state.entries

end GuardedSms
