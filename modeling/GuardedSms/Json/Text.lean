import GuardedSms.Json

/-!
# JSON text

The compact text of a value: no blanks, the short escapes where there are some, `\u00xx` for the
other control characters, all else as it is.
-/
namespace GuardedSms.Json

def hexDigit (n : Nat) : Char := Nat.digitChar (n % 16)

/-- A character as it stands between quotes. -/
def escape (c : Char) : List Char :=
  match c with
  | '"' => ['\\', '"']
  | '\\' => ['\\', '\\']
  | '\n' => ['\\', 'n']
  | '\r' => ['\\', 'r']
  | '\t' => ['\\', 't']
  | c =>
    if c.toNat = 8 then ['\\', 'b']
    else if c.toNat = 12 then ['\\', 'f']
    else if c.toNat < 32 then ['\\', 'u', '0', '0', hexDigit (c.toNat / 16), hexDigit c.toNat]
    else [c]

def quoted (s : String) : List Char := '"' :: (s.toList.flatMap escape ++ ['"'])

def intChars : Int → List Char
  | .ofNat n => Nat.toDigits 10 n
  | .negSucc n => '-' :: Nat.toDigits 10 (n + 1)

mutual

/-- The characters of a value, members in the order given. -/
def chars : Json → List Char
  | null => ['n', 'u', 'l', 'l']
  | bool true => ['t', 'r', 'u', 'e']
  | bool false => ['f', 'a', 'l', 's', 'e']
  | int n => intChars n
  | str s => quoted s
  | arr [] => ['[', ']']
  | arr (item :: rest) => '[' :: (item.chars ++ moreItems rest)
  | obj [] => ['{', '}']
  | obj ((key, value) :: rest) =>
    '{' :: (quoted key ++ ':' :: (value.chars ++ moreMembers rest))

/-- The items after the first, with the closing bracket. -/
def moreItems : List Json → List Char
  | [] => [']']
  | item :: rest => ',' :: (item.chars ++ moreItems rest)

def moreMembers : List (String × Json) → List Char
  | [] => ['}']
  | (key, value) :: rest => ',' :: (quoted key ++ ':' :: (value.chars ++ moreMembers rest))

end

/-- The text of a value with sorted members. -/
def text (j : Json) : String := String.ofList j.canonical.chars

end GuardedSms.Json
