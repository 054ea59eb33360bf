import GuardedSms.Phone.Dialled
import GuardedSms.Phone.Directory

/-!
# Phone numbers

Reads a text as a country code with a national number, and judges it by the plan whose number it
is.
-/
namespace GuardedSms.Phone

/-- Why a text is not read as a number. -/
inductive NumberError where
  | notANumber
  | invalidCountryCode
  | tooShort
  | tooLong
  | emptyInteger
  | integerTooLarge
  deriving DecidableEq

def NumberError.message : NumberError → String
  | notANumber => "not a number"
  | invalidCountryCode => "invalid country code"
  | tooShort => "the number is too short after the country code"
  | tooLong => "the number is too long"
  | emptyInteger =>
    "malformed integer part in phone number: cannot parse integer from empty string"
  | integerTooLarge =>
    "malformed integer part in phone number: number too large to fit in target type"

structure Number where
  code : Nat
  national : List Digit
  deriving DecidableEq

namespace Number

/-- Where the country code of a number is to be found. -/
inductive Origin where
  /-- Given apart from the number. -/
  | given (country : List Digit)
  /-- At the front of the number, which was dialled for calls abroad. -/
  | abroad
  /-- Nowhere: the number was dialled inside its region. -/
  | inside
  deriving DecidableEq

/-- The keys of a dialled text, and where its country code is. -/
def keys (home : Option Home) (d : Dialled) : Origin × List Digit :=
  match d.country with
  | some country => (.given (Digit.ofKeys country), Digit.ofKeys d.national)
  | none =>
    let n := Digit.ofKeys d.national
    let plus := (d.national.head?.map Dialled.isPlus).getD false
    match home.bind (·.cutExitCode? n) with
    | some n => (.abroad, n)
    | none => (if plus then .abroad else .inside, n)

/-- The fewest digits at the front that are a country code. -/
def frontCode? (n : List Digit) : Option (Nat × List Digit) :=
  [1, 2, 3].findSome? fun k =>
    let code := Digit.value (n.take k)
    if isCountryCode code then some (code, n.drop k) else none

/-- Numbers with a country code have more digits than this. -/
def leastDigits : Nat := 2

def greatestDigits : Nat := 17

/-- Split the country code off. -/
def splitCode (home : Option Home) (origin : Origin) (n : List Digit) :
    Except NumberError (Nat × List Digit) := do
  match origin with
  | .given country =>
    if n.length ≤ leastDigits then throw .tooShort
    if country.isEmpty then throw .emptyInteger
    if UInt16.size ≤ Digit.value country then throw .integerTooLarge
    if isCountryCode (Digit.value country) then return (Digit.value country, n)
    else throw .invalidCountryCode
  | .abroad =>
    if n.length ≤ leastDigits then throw .tooShort
    if n.head? = some 0 then throw .invalidCountryCode
    match frontCode? n with
    | some split => return split
    | none => throw .invalidCountryCode
  | .inside =>
    match home with
    | some home => return (home.code, Digit.cut (Digit.ofNat home.code) n)
    | none => throw .invalidCountryCode

def checkNational (n : List Digit) : Except NumberError Unit := do
  if n.length < leastDigits then throw .tooShort
  if greatestDigits < n.length then throw .tooLong
  if (Digit.dropZeros n).isEmpty then throw .emptyInteger
  if 1 <<< 56 ≤ Digit.value n then throw .tooLong

end Number

namespace Directory

/-- Leave out the trunk code: as in the home region, whosever number it is, and by the plan of the
number only without one. -/
def stripTrunk (dir : Directory) (home : Option Home) (code : Nat) (n : List Digit) : List Digit :=
  match home.or ((dir.owner? code (Digit.dropZeros n)).map Plan.toHome) with
  | some h => h.stripTrunk n
  | none => n

/-- Read a text that is dialled in a region, or nowhere in particular. -/
def read (dir : Directory) (home : Option Home) (text : String) : Except NumberError Number := do
  let some dialled := Dialled.ofText? text | throw .notANumber
  unless Dialled.isViable dialled.national do throw .notANumber
  let (origin, n) := Number.keys home dialled
  let (code, n) ← Number.splitCode home origin n
  let n := dir.stripTrunk home code n
  Number.checkNational n
  return ⟨code, n⟩

/-- Whether a number fits the plan that it follows. -/
def isValid (dir : Directory) (n : Number) : Bool :=
  match dir.owner? n.code n.national with
  | some plan => plan.fits n.national
  | none => false

end Directory

end GuardedSms.Phone
