import GuardedSms.Outcome
import GuardedSms.Payload

/-!
# The JSON form of outcomes

An outcome is an object with one member, whose key tells success from failure. A key that is
neither is refused before the colon behind it is looked at.
-/
namespace GuardedSms.Outcome

open Json

variable {α : Type}

def successKey : String := "Success"
def failureKey : String := "Failure"

def toJson (payload : α → Json) : Outcome α → Json
  | success value => .obj [(successKey, payload value)]
  | failure message => .obj [(failureKey, .str message)]

/-- Read the member behind its key. -/
def readMember (payload : Reader α) (key : String) : Reader (Outcome α) := fun cs =>
  if key = successKey then do
    let (value, rest) ← payload (← readColon cs)
    return (success value, rest)
  else if key = failureKey then do
    let (message, rest) ← Payload.readText (← readColon cs)
    return (failure message, rest)
  else throw (.unfit (.unknownVariant key successKey failureKey))

/-- Read the object behind its opening brace. Whatever is no string in the place of the key is
malformed, be it a value of another type. -/
def readObject (payload : Reader α) : Reader (Outcome α) := fun cs =>
  match skipBlanks cs with
  | [] => .error .endOfText
  | '"' :: rest => do
    let (key, rest) ← readString rest
    let (outcome, rest) ← readMember payload key rest
    match skipBlanks rest with
    | [] => throw .endOfText
    | '}' :: rest => return (outcome, rest)
    | _ => throw .malformed
  | _ => .error .malformed

/-- What is wrong with a bare string in the place of an outcome. -/
def bareMisfit (name : String) : Misfit :=
  if name = successKey ∨ name = failureKey then .bareVariant
  else .unknownVariant name successKey failureKey

def reader (payload : Reader α) : Reader (Outcome α) := fun cs =>
  match skipBlanks cs with
  | [] => .error .endOfText
  | '{' :: rest => readObject payload rest
  | '"' :: rest => do
    let (name, _) ← readString rest
    throw (.unfit (bareMisfit name))
  | _ => .error .malformed

instance [Payload α] : Payload (Outcome α) := ⟨toJson Payload.toJson, reader Payload.read⟩

/-- The text of an outcome. -/
def encode [Payload α] (o : Outcome α) : String := (Payload.toJson o).text

/-- The outcome that a text holds. -/
def decode [Payload α] (text : String) : Except Fault (Outcome α) := readAll Payload.read text

end GuardedSms.Outcome
