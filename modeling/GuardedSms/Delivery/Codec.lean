import GuardedSms.Delivery
import GuardedSms.Payload

/-!
# The JSON form of deliveries

A delivery is an object whose member `effect` names its kind, or an array that starts with that
name. The other members may come in any order and before the kind is known, so a text is read
whole first, down to the shapes of its parts, and its fields are looked at after that. Only a
wrong or repeated kind is reported as soon as it is met.
-/
namespace GuardedSms.Delivery

open Json

inductive Kind where
  | send
  | log
  deriving DecidableEq

namespace Kind

def name : Kind → String
  | send => "send"
  | log => "log"

def ofName? (s : String) : Option Kind :=
  if s = send.name then some send else if s = log.name then some log else none

/-- The wording for an array that is too short. -/
def lengthExpected : Kind → String
  | send => "struct variant Dispatch::Send with 2 elements"
  | log => "struct variant Dispatch::Log with 1 element"

/-- The wording for an array that is too long. -/
def sequenceExpected : Kind → String
  | send => "2 elements in sequence"
  | log => "1 element in sequence"

end Kind

def effectKey : String := "effect"
def numberKey : String := "number"
def messageKey : String := "message"

/-! ## Writing -/

def members : Delivery → List (String × Json)
  | send number message =>
    [(effectKey, .str Kind.send.name), (numberKey, .str number), (messageKey, .str message)]
  | log message => [(effectKey, .str Kind.log.name), (messageKey, .str message)]

def toJson (d : Delivery) : Json := .obj d.members

/-- The text of a delivery: the kind first, then its fields. -/
def encode (d : Delivery) : String := String.ofList d.toJson.chars

/-! ## The fields of a known kind -/

def text? : Shape → Except Misfit String
  | .string s => .ok s
  | shape => .error (.wrongType shape "a string")

/-- The fields met so far. -/
structure Fields where
  number : Option String := none
  message : Option String := none
  deriving DecidableEq

def Fields.put (kind : Kind) (f : Fields) (key : String) (shape : Shape) :
    Except Misfit Fields :=
  if key = numberKey ∧ kind = .send then
    if f.number.isSome then .error (.duplicateField numberKey)
    else return { f with number := some (← text? shape) }
  else if key = messageKey then
    if f.message.isSome then .error (.duplicateField messageKey)
    else return { f with message := some (← text? shape) }
  else .ok f

def Fields.putAll (kind : Kind) : Fields → List (String × Shape) → Except Misfit Fields
  | f, [] => .ok f
  | f, (key, shape) :: rest => do (← f.put kind key shape).putAll kind rest

def Fields.finish (f : Fields) : Kind → Except Misfit Delivery
  | .send => do
    let some number := f.number | throw (.missingField numberKey)
    let some message := f.message | throw (.missingField messageKey)
    return send number message
  | .log => do
    let some message := f.message | throw (.missingField messageKey)
    return log message

/-- The delivery that the members beside the kind make up. -/
def ofMembers (kind : Kind) (members : List (String × Shape)) : Except Misfit Delivery := do
  (← Fields.putAll kind {} members).finish kind

/-- The delivery that the elements behind the kind make up. An element that is no text counts
before the number of elements does. -/
def ofElements : (kind : Kind) → List Shape → Except Misfit Delivery
  | .send, [] => .error (.wrongLength 0 Kind.send.lengthExpected)
  | .send, [number] => do
    let _ ← text? number
    throw (.wrongLength 1 Kind.send.lengthExpected)
  | .send, number :: message :: rest => do
    let delivery := send (← text? number) (← text? message)
    if rest.isEmpty then return delivery
    else throw (.wrongLength (rest.length + 2) Kind.send.sequenceExpected)
  | .log, [] => .error (.wrongLength 0 Kind.log.lengthExpected)
  | .log, message :: rest => do
    let delivery := log (← text? message)
    if rest.isEmpty then return delivery
    else throw (.wrongLength (rest.length + 1) Kind.log.sequenceExpected)

/-! ## Reading -/

def readKind : Reader Kind := fun cs => do
  let (name, rest) ←
    Payload.readAs "variant identifier" (fun | .string s => some s | _ => none) cs
  match Kind.ofName? name with
  | some kind => return (kind, rest)
  | none => throw (.unfit (.unknownVariant name Kind.send.name Kind.log.name))

/-- The members met so far: the kind apart, the others in order. -/
structure Gathered where
  kind : Option Kind := none
  others : List (String × Shape) := []
  deriving DecidableEq

def readMember (g : Gathered) (key : String) : Reader Gathered := fun cs =>
  if key = effectKey then
    if g.kind.isSome then .error (.unfit (.duplicateField effectKey))
    else do
      let (kind, rest) ← readKind (← readColon cs)
      return ({ g with kind := some kind }, rest)
  else do
    let (shape, rest) ← readShape (nestingLimit - 1) (← readColon cs)
    return ({ g with others := g.others ++ [(key, shape)] }, rest)

/-- Read an object behind its opening brace. -/
def readObject : Reader Delivery := fun cs => do
  let (gathered, rest) ← readMembers readMember {} cs
  match gathered.kind with
  | none => throw (.unfit (.missingField effectKey))
  | some kind => return (← (ofMembers kind gathered.others).mapError .unfit, rest)

/-- Read an array behind its opening bracket. -/
def readArray : Reader Delivery := fun cs =>
  match skipBlanks cs with
  | [] => .error .endOfText
  | ']' :: _ => .error (.unfit (.missingField effectKey))
  | cs => do
    let (kind, rest) ← readKind cs
    let (elements, rest) ← readMoreItems (readShape (nestingLimit - 1)) rest.length rest
    return (← (ofElements kind elements).mapError .unfit, rest)

def reader : Reader Delivery := fun cs => do
  let (shape, rest) ← readOpening cs
  match shape with
  | .sequence => readArray rest
  | .map => readObject rest
  | shape => throw (.unfit (.wrongType shape "internally tagged enum Dispatch"))

/-- The delivery that a text holds. -/
def decode (text : String) : Except Fault Delivery := readAll reader text

end GuardedSms.Delivery
