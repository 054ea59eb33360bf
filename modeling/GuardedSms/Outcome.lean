/-!
# Outcomes

An outcome is a success with a value or a failure with a message. It is consumed by two
continuations, of which exactly one runs.
-/
namespace GuardedSms

inductive Outcome (α : Type) where
  | success (value : α)
  | failure (message : String)
  deriving DecidableEq

namespace Outcome

variable {α β : Type}

/-- Hand the value or the message to the continuation meant for it. -/
def resolve (onSuccess : α → β) (onFailure : String → β) : Outcome α → β
  | success value => onSuccess value
  | failure message => onFailure message

def map (f : α → β) : Outcome α → Outcome β
  | success value => success (f value)
  | failure message => failure message

/-- Map with an effectful function, which does not run on a failure. -/
def mapM {m : Type → Type} [Monad m] (f : α → m β) : Outcome α → m (Outcome β)
  | success value => success <$> f value
  | failure message => pure (failure message)

def isSuccess : Outcome α → Bool
  | success _ => true
  | failure _ => false

def isFailure (o : Outcome α) : Bool := !o.isSuccess

def value? : Outcome α → Option α
  | success value => some value
  | failure _ => none

def message? : Outcome α → Option String
  | success _ => none
  | failure message => some message

def toExcept : Outcome α → Except String α := resolve .ok .error

/-- Where a result is expected, an outcome is converted. -/
instance : Coe (Outcome α) (Except String α) := ⟨toExcept⟩

@[simp] theorem resolve_success (f : α → β) (g : String → β) (v : α) :
    (success v).resolve f g = f v := rfl
@[simp] theorem resolve_failure (f : α → β) (g : String → β) (m : String) :
    (failure m : Outcome α).resolve f g = g m := rfl

@[simp] theorem resolve_constructors (o : Outcome α) : o.resolve success failure = o := by
  cases o <;> rfl

@[simp] theorem map_success (f : α → β) (v : α) : (success v).map f = success (f v) := rfl
@[simp] theorem map_failure (f : α → β) (m : String) :
    (failure m : Outcome α).map f = failure m := rfl

@[simp] theorem map_id (o : Outcome α) : o.map id = o := by cases o <;> rfl

@[simp] theorem mapM_success {m : Type → Type} [Monad m] (f : α → m β) (v : α) :
    (success v).mapM f = success <$> f v := rfl
@[simp] theorem mapM_failure {m : Type → Type} [Monad m] (f : α → m β) (t : String) :
    (failure t : Outcome α).mapM f = pure (failure t) := rfl

@[simp] theorem toExcept_success (v : α) : (success v).toExcept = .ok v := rfl
@[simp] theorem toExcept_failure (m : String) :
    (failure m : Outcome α).toExcept = .error m := rfl

end Outcome

end GuardedSms
