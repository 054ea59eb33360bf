/-!
# Errors and refusals

What can go wrong when something is put together or a number is judged, for what reasons a number is
turned down, and how all this is worded.
-/
namespace GuardedSms

/-! ## Assembly -/

/-- The part that is missing when a guard or a notifier is put together. -/
inductive AssemblyError where
  | missingPredicate
  | missingBranch
  | missingSender
  deriving DecidableEq

def AssemblyError.message : AssemblyError → String
  | missingPredicate => "Guard predicate not specified. Call .when(predicate)"
  | missingBranch => "Guard branch not specified. Call .then(branch)"
  | missingSender => "SMS sender not specified. Call .sender(sender) before .build()"

/-! ## Validation -/

/-- The two ways in which a validator can give up on a number instead of judging it. -/
inductive ValidationError where
  | unknownRegion (region : String)
  | unparsable (number reason : String)
  deriving DecidableEq

def ValidationError.message : ValidationError → String
  | unknownRegion region => "Unknown region '" ++ region ++ "'"
  | unparsable number reason => "Could not parse phone number '" ++ number ++ "': " ++ reason

/-- What a validator answers: whether the number is valid, or why it cannot tell. -/
abbrev Verdict := Except ValidationError Bool

namespace Verdict

/-- Anything but a clear yes counts as a no. -/
def accepts : Verdict → Bool
  | .ok valid => valid
  | .error _ => false

/-- Whether two verdicts are the same. -/
def agrees : Verdict → Verdict → Bool
  | .ok a, .ok b => a == b
  | .error e, .error f => e == f
  | _, _ => false

end Verdict

/-! ## Refusals -/

namespace Wording

def absentNumber : String := "the phone number can not be null"

def emptyNumber : String := "the phone number can not be empty"

def invalidNumber (number region : String) : String :=
  "the phone number " ++ number ++ " is not valid for region " ++ region

/-- How a refusal for some reason is reported. -/
def rejection (reason : String) : String := "notification rejected: " ++ reason

end Wording

end GuardedSms
