import GuardedSms.Json.Fault

/-!
# Tokens

Blanks, literals and strings of a JSON text. A reader takes the characters that are left and
answers with what it read and what then remains, or with the first fault from the left.
-/
namespace GuardedSms.Json

abbrev Reader (α : Type) : Type := List Char → Except Fault (α × List Char)

def isBlank (c : Char) : Bool := c = ' ' || c = '\t' || c = '\n' || c = '\r'

def skipBlanks (cs : List Char) : List Char := cs.dropWhile isBlank

/-- Read the given word, the rest of a literal. -/
def readWord : (word : List Char) → List Char → Except Fault (List Char)
  | [], cs => .ok cs
  | _ :: _, [] => .error .endOfText
  | w :: word, c :: cs => if c = w then readWord word cs else .error .malformed

/-! ## Strings -/

def shortEscape? : Char → Option Char
  | '"' => some '"'
  | '\\' => some '\\'
  | '/' => some '/'
  | 'b' => some '\x08'
  | 'f' => some '\x0c'
  | 'n' => some '\n'
  | 'r' => some '\r'
  | 't' => some '\t'
  | _ => none

def hexValue? (c : Char) : Option Nat :=
  if '0' ≤ c ∧ c ≤ '9' then some (c.toNat - '0'.toNat)
  else if 'a' ≤ c ∧ c ≤ 'f' then some (c.toNat - 'a'.toNat + 10)
  else if 'A' ≤ c ∧ c ≤ 'F' then some (c.toNat - 'A'.toNat + 10)
  else none

/-- Four hexadecimal digits. The text must have four more bytes for them to be looked at. -/
def readUnit (cs : List Char) : Except Fault (Nat × List Char) :=
  if (String.ofList (cs.take 4)).utf8ByteSize < 4 then .error .endOfText
  else
    match cs with
    | a :: b :: c :: d :: rest =>
      match hexValue? a, hexValue? b, hexValue? c, hexValue? d with
      | some a, some b, some c, some d => .ok (((a * 16 + b) * 16 + c) * 16 + d, rest)
      | _, _, _, _ => .error .malformed
    | _ => .error .malformed

def isLeading (unit : Nat) : Bool := 0xD800 ≤ unit && unit ≤ 0xDBFF

def isTrailing (unit : Nat) : Bool := 0xDC00 ≤ unit && unit ≤ 0xDFFF

/-- The character of a surrogate pair. -/
def paired (leading trailing : Nat) : Char :=
  Char.ofNat (0x10000 + (leading - 0xD800) * 0x400 + (trailing - 0xDC00))

/-- The trailing half that a leading one calls for. -/
def readTrailing : List Char → Except Fault (Nat × List Char)
  | [] => .error .endOfText
  | '\\' :: [] => .error .endOfText
  | '\\' :: 'u' :: rest => do
    let (unit, rest) ← readUnit rest
    if isTrailing unit then return (unit, rest) else throw .malformed
  | _ => .error .malformed

/-- The part of a code escape after its `u`. -/
def readCode (cs : List Char) : Except Fault (Char × List Char) := do
  let (unit, rest) ← readUnit cs
  if isTrailing unit then throw .malformed
  else if isLeading unit then
    let (trailing, rest) ← readTrailing rest
    return (paired unit trailing, rest)
  else return (Char.ofNat unit, rest)

/-- The part of an escape after its backslash. -/
def readEscape : List Char → Except Fault (Char × List Char)
  | [] => .error .endOfText
  | c :: rest =>
    match shortEscape? c with
    | some d => .ok (d, rest)
    | none => if c = 'u' then readCode rest else .error .malformed

/-- One character of a string, raw or escaped. -/
def readChar : List Char → Except Fault (Char × List Char)
  | [] => .error .endOfText
  | c :: rest =>
    if c = '\\' then readEscape rest
    else if c.toNat < 32 then .error .malformed
    else .ok (c, rest)

/-- The characters up to the closing quote, at most `fuel` of them; every one takes at least one
character of the text. -/
def readChars : (fuel : Nat) → List Char → Except Fault (List Char × List Char)
  | 0, _ => .error .endOfText
  | fuel + 1, cs =>
    match cs with
    | '"' :: rest => .ok ([], rest)
    | cs => do
      let (c, rest) ← readChar cs
      let (more, rest) ← readChars fuel rest
      return (c :: more, rest)

/-- The rest of a string after its opening quote. -/
def readString (cs : List Char) : Except Fault (String × List Char) := do
  let (chars, rest) ← readChars cs.length cs
  return (String.ofList chars, rest)

end GuardedSms.Json
