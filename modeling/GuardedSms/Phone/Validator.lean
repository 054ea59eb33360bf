import GuardedSms.Capability
import GuardedSms.Phone.Number

/-!
# Validation by numbering plans

The validator that goes by the plans of a directory. In a region that is not known, a number must
carry its country code.

## Main definitions

* `Directory.verdict`, `Directory.validator`: the verdict on a number, and the validator that gives
  it.
* `validator`: the validator that goes by the listed plans.
-/
namespace GuardedSms.Phone

namespace Directory

/-- Read a number for a region. What goes wrong in an unknown region is blamed on the region. -/
def readFor (dir : Directory) (number region : String) : Except ValidationError Number :=
  if isRegion region then
    (dir.read (dir.home? region) number).mapError fun e => .unparsable number e.message
  else (dir.read none number).mapError fun _ => .unknownRegion region

def verdict (dir : Directory) (number region : String) : Verdict :=
  (dir.readFor number region).map dir.isValid

/-- Judge a number, and tell so if it could be read. -/
def validator {σ : Type} (dir : Directory) : Validator σ := fun number region =>
  match dir.verdict number region with
  | .ok valid => do
    Action.emit (.numberJudged number region valid)
    return .ok valid
  | .error e => return .error e

end Directory

/-- The validator that goes by the listed plans. It can be relied on for numbers whose country code
is covered, in regions whose homes are listed and in unknown ones. -/
def validator {σ : Type} : Validator σ := Directory.listed.validator

end GuardedSms.Phone
