import GuardedSms.Json.Text
import GuardedSms.Json.Reader

/-!
# Payloads

Types whose values have a JSON form. A payload of another type is refused with the shape that
stands there and the name of the expected type.
-/
namespace GuardedSms

open Json

class Payload (α : Type) where
  toJson : α → Json
  read : Reader α

namespace Payload

/-- Read a value and turn its shape, or tell what would have been expected. -/
def readAs {α : Type} (expected : String) (turn : Shape → Option α) : Reader α := fun cs => do
  let (shape, rest) ← readOpening cs
  match turn shape with
  | some value => return (value, rest)
  | none => throw (.unfit (.wrongType shape expected))

/-- Read an integer between two bounds. -/
def readInteger (expected : String) (least greatest : Int) : Reader Int := fun cs => do
  let (n, rest) ← readAs expected (fun | .integer n => some n | _ => none) cs
  if least ≤ n ∧ n ≤ greatest then return (n, rest)
  else throw (.unfit (.outOfRange n expected))

def readText : Reader String := readAs "a string" fun | .string s => some s | _ => none

def readBool : Reader Bool := readAs "a boolean" fun | .bool b => some b | _ => none

def readUnit : Reader Unit := readAs "unit" fun | .null => some () | _ => none

def readOptionalText : Reader (Option String) :=
  readAs "a string" fun | .null => some none | .string s => some (some s) | _ => none

def readInt64 : Reader Int64 := fun cs => do
  let (n, rest) ← readInteger "i64" Int64.minValue.toInt Int64.maxValue.toInt cs
  return (Int64.ofInt n, rest)

def readUInt8 : Reader UInt8 := fun cs => do
  let (n, rest) ← readInteger "u8" 0 255 cs
  return (UInt8.ofNat n.toNat, rest)

def readList {α : Type} (item : Reader α) : Reader (List α) := fun cs => do
  let (_, rest) ← readAs "a sequence" (fun | .sequence => some () | _ => none) cs
  readItems item rest

instance : Payload String := ⟨.str, readText⟩
instance : Payload Bool := ⟨.bool, readBool⟩
instance : Payload Unit := ⟨fun _ => .null, readUnit⟩
instance : Payload (Option String) := ⟨fun | none => .null | some s => .str s, readOptionalText⟩
instance : Payload Int64 := ⟨fun n => .int n.toInt, readInt64⟩
instance : Payload UInt8 := ⟨fun n => .int n.toNat, readUInt8⟩

instance {α : Type} [Payload α] : Payload (List α) :=
  ⟨fun items => .arr (items.map toJson), readList read⟩

end Payload

end GuardedSms
