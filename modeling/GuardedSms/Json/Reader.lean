import GuardedSms.Json.Numeral

/-!
# Reading values

Readers for whole values. The readers of arrays and objects are given the reader of their parts,
so that a typed reader and one that only keeps shapes share them.
-/
namespace GuardedSms.Json

/-! ## Arrays and objects -/

/-- Read the items after the first, up to and with the closing bracket. Every round takes at least
one character, so the fuel is the number of characters left. -/
def readMoreItems {α : Type} (item : Reader α) : (fuel : Nat) → Reader (List α)
  | 0, _ => .error .endOfText
  | fuel + 1, cs =>
    match skipBlanks cs with
    | [] => .error .endOfText
    | ']' :: rest => .ok ([], rest)
    | ',' :: rest =>
      match skipBlanks rest with
      | [] => .error .endOfText
      | ']' :: _ => .error .malformed
      | rest => do
        let (first, rest) ← item rest
        let (more, rest) ← readMoreItems item fuel rest
        return (first :: more, rest)
    | _ => .error .malformed

/-- Read the items of an array after its opening bracket. -/
def readItems {α : Type} (item : Reader α) : Reader (List α) := fun cs =>
  match skipBlanks cs with
  | [] => .error .endOfText
  | ']' :: rest => .ok ([], rest)
  | rest => do
    let (first, rest) ← item rest
    let (more, rest) ← readMoreItems item rest.length rest
    return (first :: more, rest)

def readColon (cs : List Char) : Except Fault (List Char) :=
  match skipBlanks cs with
  | [] => .error .endOfText
  | ':' :: rest => .ok rest
  | _ => .error .malformed

/-- Read the members after the first. Each is given what was made of the earlier ones, its key, and
the text from its colon on. -/
def readMoreMembers {σ : Type} (member : σ → String → Reader σ) : (fuel : Nat) → σ → Reader σ
  | 0, _, _ => .error .endOfText
  | fuel + 1, s, cs =>
    match skipBlanks cs with
    | [] => .error .endOfText
    | '}' :: rest => .ok (s, rest)
    | ',' :: rest =>
      match skipBlanks rest with
      | [] => .error .endOfText
      | '"' :: rest => do
        let (key, rest) ← readString rest
        let (s, rest) ← member s key rest
        readMoreMembers member fuel s rest
      | _ => .error .malformed
    | _ => .error .malformed

/-- Read the members of an object after its opening brace. -/
def readMembers {σ : Type} (member : σ → String → Reader σ) (s : σ) : Reader σ := fun cs =>
  match skipBlanks cs with
  | [] => .error .endOfText
  | '}' :: rest => .ok (s, rest)
  | '"' :: rest => do
    let (key, rest) ← readString rest
    let (s, rest) ← member s key rest
    readMoreMembers member rest.length s rest
  | _ => .error .malformed

/-! ## Shapes -/

/-- Read a value; what follows an opening bracket or brace is left to the given readers. -/
def readValue (array object : Reader Shape) : Reader Shape := fun cs =>
  match skipBlanks cs with
  | [] => .error .endOfText
  | '[' :: rest => array rest
  | '{' :: rest => object rest
  | '"' :: rest => do
    let (s, rest) ← readString rest
    return (.string s, rest)
  | 'n' :: rest => do
    return (.null, ← readWord ['u', 'l', 'l'] rest)
  | 't' :: rest => do
    return (.bool true, ← readWord ['r', 'u', 'e'] rest)
  | 'f' :: rest => do
    return (.bool false, ← readWord ['a', 'l', 's', 'e'] rest)
  | '-' :: rest => readNumeral true rest
  | c :: rest => if isDigit c then readNumeral false (c :: rest) else .error .malformed

/-- Read a scalar whole, and of an array or object no more than its opening. -/
def readOpening : Reader Shape :=
  readValue (fun rest => .ok (.sequence, rest)) (fun rest => .ok (.map, rest))

/-- Read a value whole. Arrays and objects may be nested as deep as the budget allows. -/
def readShape : (budget : Nat) → Reader Shape
  | 0 => readValue (fun _ => .error .malformed) (fun _ => .error .malformed)
  | budget + 1 =>
    readValue
      (fun cs => do
        let (_, rest) ← readItems (readShape budget) cs
        return (.sequence, rest))
      (fun cs => do
        let (_, rest) ← readMembers (fun _ _ cs => do
          let cs ← readColon cs
          readShape budget cs) .map cs
        return (.map, rest))

/-- How deep arrays and objects may be nested, the outermost counted. -/
def nestingLimit : Nat := 127

/-- Read a text that holds one value and nothing else but blanks. -/
def readAll {α : Type} (reader : Reader α) (text : String) : Except Fault α := do
  let (value, rest) ← reader text.toList
  if (skipBlanks rest).isEmpty then return value else throw .malformed

end GuardedSms.Json
