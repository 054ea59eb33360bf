/-!
# Digits

Digit sequences as they are dialled on a keypad.
-/
namespace GuardedSms.Phone

abbrev Digit : Type := Fin 10

namespace Digit

instance : @NeZero Nat Zero.ofOfNat0 10 := ⟨nofun⟩

def ofChar? (c : Char) : Option Digit :=
  if '0' ≤ c ∧ c ≤ '9' then some (Fin.ofNat 10 (c.toNat - '0'.toNat)) else none

/-- The key that carries a lower-case letter. -/
def ofLetter? (c : Char) : Option Digit :=
  if c < 'a' ∨ 'z' < c then none
  else if c ≤ 'c' then some 2
  else if c ≤ 'f' then some 3
  else if c ≤ 'i' then some 4
  else if c ≤ 'l' then some 5
  else if c ≤ 'o' then some 6
  else if c ≤ 's' then some 7
  else if c ≤ 'v' then some 8
  else some 9

/-- The key to press for a character, if there is one. -/
def ofKey? (c : Char) : Option Digit :=
  match ofChar? c with
  | some d => some d
  | none => ofLetter? c.toLower

/-- The keys to press for a text, whose other characters are dropped. -/
def ofKeys (cs : List Char) : List Digit := cs.filterMap ofKey?

/-- The digits that a text shows. -/
def ofText (s : String) : List Digit := s.toList.filterMap ofChar?

/-- The digits of a number. -/
def ofNat (n : Nat) : List Digit := (Nat.toDigits 10 n).filterMap ofChar?

/-- The number that digits write. -/
def value (ds : List Digit) : Nat := ds.foldl (fun n d => n * 10 + d.val) 0

def dropZeros (ds : List Digit) : List Digit := ds.dropWhile (· == 0)

/-- Cut a beginning off if it is there. -/
def cut (front ds : List Digit) : List Digit :=
  if front.isPrefixOf ds then ds.drop front.length else ds

end Digit

end GuardedSms.Phone
