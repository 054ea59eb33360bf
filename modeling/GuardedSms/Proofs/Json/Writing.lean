import GuardedSms.Json.Text
import GuardedSms.Proofs.Json.Grammar

/-!
# Written values

The compact text of a value is one of its spellings.

## Main statements

* `textSpelling_quoted`: a written string spells the string.
* `integerSpelling_intChars`: a written integer spells the integer.
* `listSpelling_chars`: a written array spells its items, if each of them is spelled.
-/
namespace GuardedSms.Json

/-! ## Strings -/

theorem hexSpelling_hexDigit (n : Nat) : HexSpelling (n % 16) (hexDigit n) :=
  ⟨Nat.mod_lt n (by decide), .inl rfl⟩

/-- The code of a control character takes two of the four digits. -/
theorem unitSpelling_control {n : Nat} (control : n < 32) :
    UnitSpelling n ['0', '0', hexDigit (n / 16), hexDigit n] := by
  refine .digits ?_ ?_ (hexSpelling_hexDigit (n / 16)) (hexSpelling_hexDigit n)
  · rw [Nat.div_eq_of_lt (by omega)]
    exact hexSpelling_hexDigit 0
  · rw [Nat.div_eq_of_lt (by omega)]
    exact hexSpelling_hexDigit 0

/-- The escape of a character spells it. -/
theorem charSpelling_escape (c : Char) : CharSpelling c (escape c) := by
  unfold escape
  split
  · exact .short (by decide)
  · exact .short (by decide)
  · exact .short (by decide)
  · exact .short (by decide)
  · exact .short (by decide)
  · rename_i noQuote noBackslash _ _ _
    split
    · rename_i code
      obtain rfl : c = '\x08' := Char.toNat_inj.mp code
      exact .short (by decide)
    · split
      · rename_i code
        obtain rfl : c = '\x0c' := Char.toNat_inj.mp code
        exact .short (by decide)
      · split
        · rename_i control
          exact .unit (unitSpelling_control control)
        · rename_i printable
          exact .raw (Nat.not_lt.mp printable) noQuote noBackslash

theorem charsSpelling_flatMap (cs : List Char) : CharsSpelling cs (cs.flatMap escape ++ ['"']) := by
  induction cs with
  | nil => exact .close
  | cons c cs ih =>
    rw [List.flatMap_cons, List.append_assoc]
    exact .char (charSpelling_escape c) ih

theorem textSpelling_quoted (s : String) : TextSpelling s (quoted s) :=
  .quoted (charsSpelling_flatMap s.toList)

/-! ## Integers -/

theorem integerSpelling_intChars (z : Int) : IntegerSpelling z (intChars z) := by
  cases z with
  | ofNat n => exact .nonneg n
  | negSucc n => exact .neg (Nat.succ_pos n)

/-! ## Arrays -/

section Arrays

variable {α : Type} {item : Spelling α} {f : α → Json}

theorem moreItemsSpelling_moreItems (h : ∀ a, item a (f a).chars) (xs : List α) :
    MoreItemsSpelling item xs (moreItems (xs.map f)) := by
  induction xs with
  | nil =>
    rw [List.map_nil, moreItems]
    exact .close blanks_nil
  | cons x xs ih =>
    rw [List.map_cons, moreItems]
    exact .item blanks_nil blanks_nil (h x) ih

/-- A written array spells its items. -/
theorem listSpelling_chars (h : ∀ a, item a (f a).chars) (xs : List α) :
    ListSpelling item xs (arr (xs.map f)).chars := by
  cases xs with
  | nil =>
    rw [List.map_nil, chars]
    exact .empty blanks_nil
  | cons x xs =>
    rw [List.map_cons, chars]
    exact .items blanks_nil (h x) (moreItemsSpelling_moreItems h xs)

end Arrays

end GuardedSms.Json
