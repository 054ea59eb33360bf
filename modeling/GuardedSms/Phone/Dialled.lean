import GuardedSms.Phone.Pattern
import GuardedSms.Text.LettersAndNumbers

/-!
# Dialled texts

Finds the number in a text: as a telephone link, with parameters behind the number, or else in
free text, where what stands around the number is cut off.
-/
namespace GuardedSms.Phone

/-- The part of a text that is dialled, and a country code given apart from it. -/
structure Dialled where
  national : List Char
  country : Option (List Char)

namespace Dialled

def isPlus (c : Char) : Bool := c == '+' || c == '\uff0b'

/-! ## Telephone links -/

def isSeparator (c : Char) : Bool := "-.()".toList.contains c

def isLinkDigit (c : Char) : Bool :=
  c.isDigit || ('a' ≤ c && c ≤ 'f') || ('A' ≤ c && c ≤ 'F') || isSeparator c

def isKeyChar (c : Char) : Bool := c.isAlphanum || c == '-'

def isValueChar (c : Char) : Bool := c.isAlphanum || "-_.!~*'()[]/:&+$".toList.contains c

def dropScheme (cs : List Char) : List Char :=
  if (cs.take 4).map Char.toLower = "tel:".toList then cs.drop 4 else cs

/-- The country code behind a plus, up to the next separator. -/
def takeCountry : List Char → Option (List Char) × List Char
  | '+' :: rest =>
    match rest.span (!isSeparator ·) with
    | ([], _) => (none, '+' :: rest)
    | (country, rest) => (some country, rest)
  | cs => (none, cs)

/-- Parameters `;key=value` as long as there are some. Each takes at least two characters. -/
def parameters : (fuel : Nat) → List Char → List (List Char × List Char)
  | 0, _ => []
  | fuel + 1, cs =>
    match cs with
    | ';' :: rest =>
      match rest.span isKeyChar with
      | (key, '=' :: rest) =>
        let (value, rest) := rest.span isValueChar
        (key, value) :: parameters fuel rest
      | _ => []
    | _ => []

/-- The country code among the parameters, without its plus. The last of them counts. -/
def context? (ps : List (List Char × List Char)) : Option (List Char) :=
  (ps.reverse.lookup "phone-context".toList).map fun value =>
    match value with
    | '+' :: rest => rest
    | value => value

/-- Read a telephone link, which has no space. -/
def ofLink? (cs : List Char) : Option Dialled :=
  if cs.contains ' ' then none
  else
    let (country, rest) := takeCountry (dropScheme cs)
    match rest.span isLinkDigit with
    | ([], _) => none
    | (national, rest) =>
      match rest with
      | [] => some ⟨national, country⟩
      | ';' :: _ => some ⟨national, country.or (context? (parameters rest.length rest))⟩
      | _ => none

/-! ## Free text -/

def startsNumber (c : Char) : Bool := isPlus c || CodePointSet.decimalDigits.contains c

def endsNumber (c : Char) : Bool := c == '#' || CodePointSet.lettersAndNumbers.contains c

def dropTail (cs : List Char) : List Char := (cs.reverse.dropWhile (!endsNumber ·)).reverse

/-- Whether a second number begins here: a slash, spaces, and an `x`. -/
def startsSecond : List Char → Bool
  | c :: rest => (c == '/' || c == '\\') && (rest.dropWhile (· == ' ')).head? == some 'x'
  | [] => false

def dropSecond : List Char → List Char
  | [] => []
  | c :: rest => if startsSecond (c :: rest) then [] else c :: dropSecond rest

section Extension

open Pattern

/-- A letter of a word for "extension", in either case. -/
def key (forms : String) : Pattern Char := oneOf forms.toList

def digits (least most : Nat) : Pattern Char :=
  times (one CodePointSet.decimalDigits.contains) least (most - least)

/-- A word or sign that announces an extension. -/
def announcement : Pattern Char :=
  optional (key "eE") ++ key "xX" ++ key "tT" ++
    optional (key "eE" ++ key "nN" ++ key "sSſ" ++ key "iI" ++
      (key "oO" ++ optional (key "\u0301") <|> key "óÓ")) ++ optional (key "nN")
  <|> optional (key "ｅＥ") ++ key "ｘＸ" ++ key "ｔＴ" ++ optional (key "ｎＮ")
  <|> key ",;xXｘＸ#＃~～"
  <|> key "iI" ++ key "nN" ++ key "tT"
  <|> key "aA" ++ key "nN" ++ key "eE" ++ key "xX" ++ key "oO"
  <|> key "ｉＩ" ++ key "ｎＮ" ++ key "ｔＴ"

/-- Blanks around an announcement. -/
def gap (members : String) : Pattern Char := run members.toList.contains

/-- The group that holds an extension by which a number can be cut. -/
def announcedGroup : Nat := 2

/-- An extension at the end of a text: as a parameter, announced, or before a closing hash. -/
def extension : Pattern Char :=
  (word ";" ++ key "eE" ++ key "xX" ++ key "tT" ++ word "=" ++ group 1 (digits 0 7)
    <|> gap " \u00a0\t," ++ announcement ++ optional (key ":.．") ++ gap " \u00a0\t,-" ++
      group announcedGroup (digits 0 7) ++ optional (word "#")
    <|> key "- " ++ gap "- " ++ group 3 (digits 1 5) ++ word "#") ++ atEnd
where
  word (s : String) : Pattern Char := Pattern.word s.toList

end Extension

/-- Cut off an extension. None if it is of a form that cannot be cut. -/
def cutExtension? (cs : List Char) : Option (List Char) :=
  match extension.search? cs with
  | none => some cs
  | some (before, m) => if (m.groups.lookup announcedGroup).isSome then some before else none

/-- Find the number in free text. -/
def ofFreeText? (cs : List Char) : Option Dialled := do
  let cs := dropSecond (dropTail (cs.dropWhile (!startsNumber ·)))
  if cs.isEmpty then none
  else return ⟨← cutExtension? cs, none⟩

def ofText? (s : String) : Option Dialled :=
  match ofLink? s.toList with
  | some d => some d
  | none => ofFreeText? s.toList

/-! ## What can be dialled -/

def isPunctuation (c : Char) : Bool :=
  "-x\u2010\u2011\u2012\u2013\u2014\u2015\u2212\u30fc\uff0d\uff0f \u00a0\u00ad\u200b\u2060\u3000()\uff08\uff09\uff3b\uff3d.[]/~\u2053\u223c\uff5e".toList.contains c

def isFiller (c : Char) : Bool := isPunctuation c || c == '*'

/-- What is left behind a number of digits with fillers before each. -/
def behindDigits : Nat → List Char → Option (List Char)
  | 0, cs => some cs
  | n + 1, cs =>
    match cs.dropWhile isFiller with
    | c :: rest => if c.isDigit then behindDigits n rest else none
    | [] => none

/-- Whether a text can be a number at all: two digits, or three digits and then only digits,
letters and fillers. -/
def isViable (cs : List Char) : Bool :=
  (cs.length == 2 && cs.all Char.isDigit) ||
    match behindDigits 3 (cs.dropWhile isPlus) with
    | some rest => rest.all fun c => isFiller c || c.isAlphanum
    | none => false

end Dialled

end GuardedSms.Phone
