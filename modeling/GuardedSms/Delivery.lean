import GuardedSms.Capability

/-!
# Deliveries

A delivery is one effect that is still to be performed: send a message to a number, or log a
text. Performing it calls one capability once.
-/
namespace GuardedSms

inductive Delivery where
  | send (number message : String)
  | log (message : String)
  deriving DecidableEq

namespace Delivery

variable {σ : Type}

def isSend : Delivery → Bool
  | send .. => true
  | log _ => false

def perform (sender : Sender σ) (logger : Logger σ) : Delivery → Action σ Unit
  | send number message => sender number message
  | log message => logger message

@[simp] theorem perform_send (sender : Sender σ) (logger : Logger σ) (n m : String) :
    (send n m).perform sender logger = sender n m := rfl
@[simp] theorem perform_log (sender : Sender σ) (logger : Logger σ) (m : String) :
    (log m).perform sender logger = logger m := rfl

end Delivery

end GuardedSms
