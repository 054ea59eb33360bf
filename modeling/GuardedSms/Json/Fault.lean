import GuardedSms.Decimal.Shortest
import GuardedSms.Text.Quoted

/-!
# Faults of a text

What is wrong with a text that should hold a value: it ends too early, it is not JSON, or it is
JSON of another shape. Only the last kind has a message.
-/
namespace GuardedSms.Json

/-- As much of a value as a message about it needs. -/
inductive Shape where
  | null
  | bool (value : Bool)
  | integer (value : Int)
  | floating (negative : Bool) (magnitude : Binary64)
  | string (value : String)
  | sequence
  | map
  deriving DecidableEq

def Shape.describe : Shape → String
  | null => "null"
  | bool true => "boolean `true`"
  | bool false => "boolean `false`"
  | integer n => "integer `" ++ toString n ++ "`"
  | floating negative magnitude =>
    "floating point `" ++ (if negative then "-" else "") ++ magnitude.text ++ "`"
  | string s => "string " ++ Text.quoted s
  | sequence => "sequence"
  | map => "map"

/-- Why a well-formed value does not fit. -/
inductive Misfit where
  | wrongType (found : Shape) (expected : String)
  | outOfRange (value : Int) (expected : String)
  | bareVariant
  | unknownVariant (name first second : String)
  | missingField (name : String)
  | duplicateField (name : String)
  | wrongLength (length : Nat) (expected : String)
  deriving DecidableEq

def Misfit.message : Misfit → String
  | wrongType found expected => "invalid type: " ++ found.describe ++ ", expected " ++ expected
  | outOfRange value expected =>
    "invalid value: " ++ (Shape.integer value).describe ++ ", expected " ++ expected
  | bareVariant => "invalid type: unit variant, expected newtype variant"
  | unknownVariant name first second =>
    "unknown variant `" ++ name ++ "`, expected `" ++ first ++ "` or `" ++ second ++ "`"
  | missingField name => "missing field `" ++ name ++ "`"
  | duplicateField name => "duplicate field `" ++ name ++ "`"
  | wrongLength length expected =>
    "invalid length " ++ toString length ++ ", expected " ++ expected

inductive Fault where
  | endOfText
  | malformed
  | unfit (misfit : Misfit)
  deriving DecidableEq

end GuardedSms.Json
