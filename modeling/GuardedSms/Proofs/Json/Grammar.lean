import GuardedSms.Outcome

/-!
# How values are spelled

A value has many spellings as strict JSON: blanks may stand between any two tokens, and a
character of a string may stand as it is or as an escape. The relations here say which texts spell
a value, from the value to the text and without a reader. No spelling has blanks at its ends.

## Main definitions

* `CharSpelling`, `TextSpelling`: the characters of a string, and a string.
* `IntegerSpelling`: an integer by its decimal digits.
* `ListSpelling`, `OutcomeSpelling`: arrays, and outcomes tagged by their key.
-/
namespace GuardedSms.Json

/-- Which texts spell a value. -/
abbrev Spelling (α : Type) : Type := α → List Char → Prop

/-- Space, tab, line feed and carriage return, in any number. -/
def Blanks (cs : List Char) : Prop := ∀ c ∈ cs, c ∈ [' ', '\t', '\n', '\r']

@[simp] theorem blanks_nil : Blanks [] := by simp [Blanks]

/-! ## Strings -/

/-- A hexadecimal digit in either case. -/
def HexSpelling (n : Nat) (c : Char) : Prop :=
  n < 16 ∧ (c = n.digitChar ∨ c = n.digitChar.toUpper)

/-- Four hexadecimal digits of a number below 65536. -/
inductive UnitSpelling : Spelling Nat
  | digits {n : Nat} {a b c d : Char} (ha : HexSpelling (n / 4096) a)
      (hb : HexSpelling (n / 256 % 16) b) (hc : HexSpelling (n / 16 % 16) c)
      (hd : HexSpelling (n % 16) d) : UnitSpelling n [a, b, c, d]

/-- What may follow a backslash, and the character that the two then spell. -/
def shortEscapes : List (Char × Char) :=
  [('"', '"'), ('\\', '\\'), ('/', '/'), ('b', '\x08'), ('f', '\x0c'), ('n', '\n'), ('r', '\r'),
    ('t', '\t')]

/-- A character stands as it is, as a short escape, or by its code; beyond `U+FFFF` the code is that
of its surrogate pair. -/
inductive CharSpelling : Spelling Char
  | raw {c : Char} (printable : 0x20 ≤ c.toNat) (noQuote : c ≠ '"') (noBackslash : c ≠ '\\') :
      CharSpelling c [c]
  | short {c e : Char} (h : (e, c) ∈ shortEscapes) : CharSpelling c ['\\', e]
  | unit {c : Char} {ds : List Char} (h : UnitSpelling c.toNat ds) :
      CharSpelling c ('\\' :: 'u' :: ds)
  | pair {c : Char} {ds es : List Char} (beyond : 0xFFFF < c.toNat)
      (leading : UnitSpelling (0xD800 + (c.toNat - 0x10000) / 0x400) ds)
      (trailing : UnitSpelling (0xDC00 + (c.toNat - 0x10000) % 0x400) es) :
      CharSpelling c ('\\' :: 'u' :: (ds ++ '\\' :: 'u' :: es))

/-- The characters of a string, up to and with its closing quote. -/
inductive CharsSpelling : Spelling (List Char)
  | close : CharsSpelling [] ['"']
  | char {c : Char} {cs w m : List Char} (h : CharSpelling c w) (more : CharsSpelling cs m) :
      CharsSpelling (c :: cs) (w ++ m)

/-- A string between quotes. -/
inductive TextSpelling : Spelling String
  | quoted {s : String} {m : List Char} (h : CharsSpelling s.toList m) : TextSpelling s ('"' :: m)

/-! ## Numbers and literals -/

/-- The decimal digits of an integer, without superfluous zeros; only a negative one has a sign. -/
inductive IntegerSpelling : Spelling Int
  | nonneg (n : Nat) : IntegerSpelling n (Nat.toDigits 10 n)
  | neg {n : Nat} (h : 0 < n) : IntegerSpelling (-n) ('-' :: Nat.toDigits 10 n)

def nullWord : List Char := ['n', 'u', 'l', 'l']

def boolWord : Bool → List Char
  | true => ['t', 'r', 'u', 'e']
  | false => ['f', 'a', 'l', 's', 'e']

/-! ## Arrays and outcomes -/

section Parts

variable {α : Type}

/-- The items of an array that follow an item, up to and with the closing bracket. -/
inductive MoreItemsSpelling (item : Spelling α) : Spelling (List α)
  | close {b : List Char} (blanks : Blanks b) : MoreItemsSpelling item [] (b ++ [']'])
  | item {x : α} {xs : List α} {b b' w m : List Char} (before : Blanks b) (after : Blanks b')
      (h : item x w) (more : MoreItemsSpelling item xs m) :
      MoreItemsSpelling item (x :: xs) (b ++ ',' :: (b' ++ (w ++ m)))

/-- An array: items between brackets, with commas between them and none at the end. -/
inductive ListSpelling (item : Spelling α) : Spelling (List α)
  | empty {b : List Char} (blanks : Blanks b) : ListSpelling item [] ('[' :: (b ++ [']']))
  | items {x : α} {xs : List α} {b w m : List Char} (blanks : Blanks b) (h : item x w)
      (more : MoreItemsSpelling item xs m) : ListSpelling item (x :: xs) ('[' :: (b ++ (w ++ m)))

/-- An object with exactly one member: its key and value are spelled in any way, and blanks stand
anywhere between the tokens. -/
inductive SoleMemberSpelling (key : String) (value : List Char → Prop) : List Char → Prop
  | object {b₁ k b₂ b₃ w b₄ : List Char} (h₁ : Blanks b₁) (hk : TextSpelling key k)
      (h₂ : Blanks b₂) (h₃ : Blanks b₃) (hw : value w) (h₄ : Blanks b₄) :
      SoleMemberSpelling key value
        ('{' :: (b₁ ++ (k ++ (b₂ ++ ':' :: (b₃ ++ (w ++ (b₄ ++ ['}'])))))))

/-- An outcome: the key of its only member tells success from failure. -/
def OutcomeSpelling (payload : Spelling α) : Spelling (Outcome α)
  | .success value => SoleMemberSpelling "Success" (payload value)
  | .failure message => SoleMemberSpelling "Failure" (TextSpelling message)

/-- An optional value: `null` if there is none. -/
def OptionSpelling (value : Spelling α) : Spelling (Option α)
  | none => (· = nullWord)
  | some v => value v

end Parts

end GuardedSms.Json
