import GuardedSms.Proofs.Outcome.Reading

/-!
# Kinds of payload

The types that the payload of an outcome may have when it is decoded, each with the spellings of its
values.

## Main statements

* `reads_read`: the payloads of every kind are read exactly as they are spelled.
-/
namespace GuardedSms.Payload

open Json

inductive Kind where
  | text
  | int64
  | uint8
  | bool
  | unit
  | optionalText
  | int64s
  | outcome
  deriving DecidableEq

namespace Kind

/-- The values of a kind. -/
def Value : Kind → Type
  | text => String
  | int64 => Int64
  | uint8 => UInt8
  | bool => Bool
  | unit => Unit
  | optionalText => Option String
  | int64s => List Int64
  | outcome => Outcome String

instance (k : Kind) : Payload k.Value :=
  match k with
  | text => inferInstanceAs (Payload String)
  | int64 => inferInstanceAs (Payload Int64)
  | uint8 => inferInstanceAs (Payload UInt8)
  | bool => inferInstanceAs (Payload Bool)
  | unit => inferInstanceAs (Payload Unit)
  | optionalText => inferInstanceAs (Payload (Option String))
  | int64s => inferInstanceAs (Payload (List Int64))
  | outcome => inferInstanceAs (Payload (Outcome String))

/-- How the values of a kind are spelled. -/
def spelling : (k : Kind) → Spelling k.Value
  | text => TextSpelling
  | int64 => fun (n : Int64) w => IntegerSpelling n.toInt w
  | uint8 => fun (n : UInt8) w => IntegerSpelling n.toNat w
  | bool => fun b w => w = boolWord b
  | unit => fun _ w => w = nullWord
  | optionalText => OptionSpelling TextSpelling
  | int64s => ListSpelling fun (n : Int64) w => IntegerSpelling n.toInt w
  | outcome => OutcomeSpelling TextSpelling

/-- The payloads of a kind are read exactly as they are spelled. -/
theorem reads_read (k : Kind) : Reads Delimits (Payload.read : Reader k.Value) k.spelling := by
  cases k with
  | text => exact reads_readText
  | int64 => exact reads_readInt64
  | uint8 => exact reads_readUInt8
  | bool => exact reads_readBool
  | unit => exact reads_readUnit
  | optionalText => exact reads_readOptionalText
  | int64s => exact (reads_readList reads_readInt64).mono fun _ _ => trivial
  | outcome => exact (Outcome.reads_reader reads_readText).mono fun _ _ => trivial

end Kind

end GuardedSms.Payload
