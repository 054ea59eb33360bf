import GuardedSms.Proofs.Json.Reading
import Mathlib.Algebra.Group.Int.Defs
import Mathlib.Data.List.TakeDrop

/-!
# Reading integers

A numeral is read as an integer exactly where the decimal digits of one stand. A numeral that is cut
is a shorter numeral, so that a reader takes it for a smaller integer.

## Main statements

* `exists_of_readNumeral`: what is read as an integer are its digits.
* `readNumeral_append`: the digits of an integer are read whole.
* `readNumeral_cut`: a numeral that is cut ends too early or is that of a smaller integer.
-/
namespace GuardedSms.Json

/-! ## Digits -/

theorem isDigit_of_mem_toDigits {n : Nat} {c : Char} (h : c ∈ Nat.toDigits 10 n) : isDigit c :=
  Nat.isDigit_of_mem_toDigits (by decide) (by decide) h

theorem isDigit_iff {c : Char} : isDigit c ↔ 48 ≤ c.toNat ∧ c.toNat ≤ 57 := by
  simp only [isDigit, Bool.and_eq_true, decide_eq_true_eq, Char.le_def, UInt32.le_iff_toNat_le]
  rfl

theorem digitValue_lt {c : Char} (h : isDigit c) : digitValue c < 10 := by
  have := (isDigit_iff.mp h).2
  have : '0'.toNat = 48 := rfl
  unfold digitValue
  omega

/-- A digit is the digit of its value. -/
theorem digitChar_digitValue {c : Char} (h : isDigit c) : (digitValue c).digitChar = c := by
  apply Char.toNat_inj.mp
  rw [Nat.toNat_digitChar_of_lt_ten (digitValue_lt h)]
  have := (isDigit_iff.mp h).1
  have : '0'.toNat = 48 := rfl
  unfold digitValue
  omega

/-- Digits behind those of a positive number are the digits of a greater one. -/
theorem toDigits_append {n : Nat} (positive : 0 < n) {ds : List Char} (h : ∀ c ∈ ds, isDigit c) :
    Nat.toDigits 10 n ++ ds = Nat.toDigits 10 (Nat.ofDigitChars 10 ds n) := by
  induction ds generalizing n with
  | nil => simp
  | cons d ds ih =>
    rw [List.forall_mem_cons] at h
    obtain ⟨digit, digits⟩ := h
    have small := digitValue_lt digit
    have grown : Nat.toDigits 10 n ++ [d] = Nat.toDigits 10 (10 * n + digitValue d) := by
      rw [← Nat.toDigits_append_toDigits (by decide) positive small,
        Nat.toDigits_of_lt_base small, digitChar_digitValue digit]
    calc Nat.toDigits 10 n ++ d :: ds
        = Nat.toDigits 10 (10 * n + digitValue d) ++ ds := by rw [← grown]; simp
      _ = Nat.toDigits 10 (Nat.ofDigitChars 10 (d :: ds) n) := by
        rw [ih (by omega) digits, Nat.ofDigitChars_cons, digitValue]

/-- Digits without superfluous zeros are those of the number that they write. -/
theorem eq_toDigits {d : Char} {ds : List Char} (h : ∀ c ∈ d :: ds, isDigit c)
    (noZeros : d = '0' → ds = []) :
    d :: ds = Nat.toDigits 10 (Nat.ofDigitChars 10 (d :: ds) 0) := by
  rw [List.forall_mem_cons] at h
  obtain ⟨digit, digits⟩ := h
  have small := digitValue_lt digit
  have first : Nat.toDigits 10 (digitValue d) = [d] := by
    rw [Nat.toDigits_of_lt_base small, digitChar_digitValue digit]
  have value : Nat.ofDigitChars 10 (d :: ds) 0 = Nat.ofDigitChars 10 ds (digitValue d) := by
    rw [Nat.ofDigitChars_cons, Nat.mul_zero, Nat.zero_add, digitValue]
  obtain zero | positive := Nat.eq_zero_or_pos (digitValue d)
  · have : d = '0' := by rw [← digitChar_digitValue digit, zero]; rfl
    rw [value, noZeros this, Nat.ofDigitChars_nil, first]
  · rw [value, ← toDigits_append positive digits, first]
    rfl

/-- The digits of a positive number do not start with a zero. -/
theorem head_toDigits_ne_zero {n : Nat} (positive : 0 < n) :
    (Nat.toDigits 10 n).head? ≠ some '0' := by
  induction n using Nat.strongRecOn with
  | ind n ih =>
    by_cases small : n < 10
    · rw [Nat.toDigits_of_lt_base small]
      simpa using Nat.ne_of_gt positive
    · rw [Nat.toDigits_of_base_le (by decide) (by omega),
        List.head?_append_of_ne_nil _ Nat.toDigits_ne_nil]
      exact ih (n / 10) (by omega) (by omega)

/-- Digits that are cut are the digits of a smaller number. -/
theorem exists_toDigits_of_append {n : Nat} {p q : List Char} (h : Nat.toDigits 10 n = p ++ q)
    (hp : p ≠ []) (hq : q ≠ []) : ∃ m, 0 < m ∧ m ≤ n ∧ p = Nat.toDigits 10 m := by
  induction n using Nat.strongRecOn generalizing q with
  | ind n ih =>
    obtain ⟨q, d, rfl⟩ := (List.eq_nil_or_concat q).resolve_left hq
    by_cases small : n < 10
    · rw [Nat.toDigits_of_lt_base small] at h
      have := congrArg List.length h
      have := List.length_pos_iff.mpr hp
      simp at *
      omega
    · rw [Nat.toDigits_of_base_le (by decide) (by omega), List.concat_eq_append,
        ← List.append_assoc] at h
      obtain ⟨shorter, -⟩ := List.append_inj' h rfl
      by_cases empty : q = []
      · subst empty
        exact ⟨n / 10, by omega, by omega, by simpa using shorter.symm⟩
      · obtain ⟨m, positive, le, rfl⟩ := ih (n / 10) (by omega) shorter empty
        exact ⟨m, positive, by omega, rfl⟩

/-! ## The significand -/

theorem le_ofDigitChars (n : Nat) (ds : List Char) : n ≤ Nat.ofDigitChars 10 ds n := by
  induction ds generalizing n with
  | nil => simp
  | cons d ds ih =>
    rw [Nat.ofDigitChars_cons]
    exact Nat.le_trans (by omega) (ih _)

/-- All digits are gathered if their number fits, and only then. -/
theorem gather_eq_iff {s n : Nat} {ds : List Char} (h : fits s) :
    gather s ds = (n, 0) ↔ Nat.ofDigitChars 10 ds s = n ∧ fits n := by
  induction ds generalizing s with
  | nil =>
    simp only [gather, Prod.mk.injEq, and_true, Nat.ofDigitChars_nil]
    exact ⟨fun e => ⟨e, e ▸ h⟩, And.left⟩
  | cons d ds ih =>
    have step : Nat.ofDigitChars 10 (d :: ds) s =
        Nat.ofDigitChars 10 ds (s * 10 + digitValue d) := by
      rw [Nat.ofDigitChars_cons, Nat.mul_comm, digitValue]
    rw [gather, step]
    split
    · exact ih ‹_›
    · constructor
      · simp
      · rintro ⟨rfl, small⟩
        have := le_ofDigitChars (s * 10 + digitValue d) ds
        simp only [fits, decide_eq_true_eq] at *
        omega

/-- The integers that are read as such. -/
def Fits (z : Int) : Prop := -2 ^ 63 ≤ z ∧ z < 2 ^ 64

/-- The integer that digits write, by their number. -/
theorem integer?_eq (negative : Bool) (ds : List Char) :
    integer? negative ds =
      if negative then
        if 0 < Nat.ofDigitChars 10 ds 0 ∧ 2 * Nat.ofDigitChars 10 ds 0 ≤ UInt64.size then
          some (-(Nat.ofDigitChars 10 ds 0 : Int))
        else none
      else if fits (Nat.ofDigitChars 10 ds 0) then some (Nat.ofDigitChars 10 ds 0 : Int)
      else none := by
  by_cases small : fits (Nat.ofDigitChars 10 ds 0)
  · have whole : gather 0 ds = (Nat.ofDigitChars 10 ds 0, 0) :=
      (gather_eq_iff (by decide)).mpr ⟨rfl, small⟩
    cases negative <;> simp [integer?, whole, small]
  · have large : ¬ 2 * Nat.ofDigitChars 10 ds 0 ≤ UInt64.size := by
      simp only [fits, decide_eq_true_eq] at small
      have : 0 < UInt64.size := by decide
      omega
    have part : ∀ n, gather 0 ds ≠ (n, 0) := by
      intro n h
      obtain ⟨rfl, fit⟩ := (gather_eq_iff (by decide)).mp h
      exact small fit
    have none : integer? negative ds = none := by
      unfold integer?
      split
      · exact absurd ‹_› (part _)
      · rfl
    rw [none]
    cases negative with
    | false => simp [small]
    | true => rw [if_pos rfl, if_neg fun bounds => large bounds.2]

/-- The digits of a number write an integer if it fits in 64 bits; none is a minus zero. -/
theorem integer?_toDigits_iff {negative : Bool} {n : Nat} {z : Int} :
    integer? negative (Nat.toDigits 10 n) = some z ↔
      Fits z ∧ (negative = false ∧ z = n ∨ negative = true ∧ 0 < n ∧ z = -n) := by
  rw [integer?_eq, Nat.ofDigitChars_ten_toDigits, Fits]
  have size : UInt64.size = 2 ^ 64 := rfl
  cases negative
  · simp [fits]
    omega
  · simp
    omega

/-! ## Numerals -/

theorem spanDigits_append {ds rest : List Char} (digits : ∀ c ∈ ds, isDigit c)
    (ends : ∀ c ∈ rest.head?, isDigit c = false) : spanDigits (ds ++ rest) = (ds, rest) := by
  have stop : rest.takeWhile isDigit = [] ∧ rest.dropWhile isDigit = rest := by
    cases rest <;> simp_all
  rw [spanDigits, List.span_eq_takeWhile_dropWhile, List.takeWhile_append_of_pos digits,
    List.dropWhile_append_of_pos digits, stop.1, stop.2, List.append_nil]

theorem readDigits_append {ds rest : List Char} (digits : ∀ c ∈ ds, isDigit c) (filled : ds ≠ [])
    (ends : ∀ c ∈ rest.head?, isDigit c = false) : readDigits (ds ++ rest) = .ok (ds, rest) := by
  unfold readDigits
  rw [spanDigits_append digits ends]
  cases ds with
  | nil => exact absurd rfl filled
  | cons d ds => rfl

theorem exists_of_readDigits {cs ds rest : List Char} (h : readDigits cs = .ok (ds, rest)) :
    cs = ds ++ rest ∧ ds ≠ [] ∧ ∀ c ∈ ds, isDigit c := by
  have parts : cs.takeWhile isDigit ++ cs.dropWhile isDigit = cs := List.takeWhile_append_dropWhile
  have digits : ∀ c ∈ cs.takeWhile isDigit, isDigit c := fun c => List.mem_takeWhile_imp
  rw [readDigits, spanDigits, List.span_eq_takeWhile_dropWhile] at h
  generalize cs.takeWhile isDigit = front at *
  generalize cs.dropWhile isDigit = back at *
  match front, back with
  | [], [] => simp at h
  | [], _ :: _ => simp at h
  | d :: front, back =>
    obtain ⟨rfl, rfl⟩ : d :: front = ds ∧ back = rest := by simpa using h
    exact ⟨parts.symm, by simp, digits⟩

/-- The digits of a number are read whole. -/
theorem readWhole_append {n : Nat} {rest : List Char}
    (ends : ∀ c ∈ rest.head?, isDigit c = false) :
    readWhole (Nat.toDigits 10 n ++ rest) = .ok (Nat.toDigits 10 n, rest) := by
  have read := readDigits_append (fun _ => isDigit_of_mem_toDigits (n := n))
    Nat.toDigits_ne_nil ends
  rw [readWhole, read, ok_bind]
  obtain rfl | positive := Nat.eq_zero_or_pos n
  · simp
  · have noZero := head_toDigits_ne_zero positive
    generalize Nat.toDigits 10 n = ds at *
    match ds with
    | [] => rfl
    | d :: ds =>
      dsimp only
      split
      · grind
      · rfl

/-- What is read before the point are the digits of a number. -/
theorem exists_of_readWhole {cs ds rest : List Char} (h : readWhole cs = .ok (ds, rest)) :
    ds = Nat.toDigits 10 (Nat.ofDigitChars 10 ds 0) ∧ cs = ds ++ rest := by
  obtain ⟨⟨ds', left⟩, read, done⟩ := bind_eq_ok_iff.mp h
  obtain ⟨rfl, nonempty, digits⟩ := exists_of_readDigits read
  dsimp only at done
  split at done
  · contradiction
  · rename_i noZeros
    obtain ⟨rfl, rfl⟩ : ds' = ds ∧ left = rest := by simpa using done
    refine ⟨?_, rfl⟩
    match ds' with
    | d :: ds =>
      refine eq_toDigits digits ?_
      rintro rfl
      cases ds with
      | nil => rfl
      | cons e ds => exact absurd rfl (noZeros e ds)

theorem readFraction_none {cs : List Char} (h : cs.head? ≠ some '.') :
    readFraction cs = .ok (none, cs) := by
  unfold readFraction
  split
  · simp at h
  · rfl

theorem readExponent_none {cs : List Char} (h : ∀ c ∈ cs.head?, c ≠ 'e' ∧ c ≠ 'E') :
    readExponent cs = .ok (none, cs) := by
  cases cs with
  | nil => rfl
  | cons c cs => grind [readExponent]

/-- Digits without fraction and exponent are read as the numeral that they are. -/
theorem readNumeral_toDigits (negative : Bool) (n : Nat) {rest : List Char}
    (ends : Delimits rest) :
    readNumeral negative (Nat.toDigits 10 n ++ rest) =
      match numeral? negative (Nat.toDigits 10 n) none none with
      | some shape => .ok (shape, rest)
      | none => .error .malformed := by
  have whole := readWhole_append (n := n) fun c hc => (ends c hc).1
  have fraction : readFraction rest = .ok (none, rest) :=
    readFraction_none fun dot => (ends '.' dot).2.1 rfl
  have exponent := readExponent_none fun c hc => (ends c hc).2.2
  simp only [readNumeral, whole, fraction, exponent, ok_bind]
  rfl

/-- A numeral without fraction and exponent that writes an integer is read as the integer. -/
theorem readNumeral_append {negative : Bool} {n : Nat} {z : Int} {rest : List Char}
    (fit : integer? negative (Nat.toDigits 10 n) = some z) (ends : Delimits rest) :
    readNumeral negative (Nat.toDigits 10 n ++ rest) = .ok (.integer z, rest) := by
  simp [readNumeral_toDigits negative n ends, numeral?, fit]

/-- Digits that write no integer are read as a floating point number, if it is not too large. -/
theorem readNumeral_large {negative : Bool} {n : Nat} {rest : List Char}
    (large : integer? negative (Nat.toDigits 10 n) = none) (ends : Delimits rest) :
    readNumeral negative (Nat.toDigits 10 n ++ rest) = .error .malformed ∨
      ∃ magnitude,
        readNumeral negative (Nat.toDigits 10 n ++ rest) =
          .ok (.floating negative magnitude, rest) := by
  rw [readNumeral_toDigits negative n ends]
  simp only [numeral?, large, Option.getD_none]
  cases magnitude? (Nat.toDigits 10 n) [] 0 with
  | none => exact .inl rfl
  | some magnitude => exact .inr ⟨magnitude, rfl⟩

theorem eq_of_readFraction_none {cs rest : List Char} (h : readFraction cs = .ok (none, rest)) :
    rest = cs := by
  unfold readFraction at h
  split at h
  · obtain ⟨_, -, done⟩ := bind_eq_ok_iff.mp h
    simp at done
  · simpa using h.symm

theorem eq_of_readExponent_none {cs rest : List Char} (h : readExponent cs = .ok (none, rest)) :
    rest = cs := by
  unfold readExponent at h
  split at h
  · split at h
    · obtain ⟨_, -, done⟩ := bind_eq_ok_iff.mp h
      simp at done
    · simpa using h.symm
  · simpa using h.symm

/-- Only digits without fraction and exponent are an integer. -/
theorem numeral?_eq_integer {negative : Bool} {whole : List Char} {fraction : Option (List Char)}
    {exponent : Option Int} {z : Int}
    (h : numeral? negative whole fraction exponent = some (.integer z)) :
    fraction = none ∧ exponent = none ∧ integer? negative whole = some z := by
  unfold numeral? at h
  split at h
  · rename_i whole
    obtain rfl : _ = z := by simpa using h
    exact ⟨rfl, rfl, whole⟩
  · simp at h

/-- What is read as an integer are its digits, with a sign before them if it is negative. -/
theorem exists_of_readNumeral {negative : Bool} {z : Int} {cs rest : List Char}
    (h : readNumeral negative cs = .ok (.integer z, rest)) :
    ∃ n, integer? negative (Nat.toDigits 10 n) = some z ∧ cs = Nat.toDigits 10 n ++ rest := by
  obtain ⟨⟨whole, behindWhole⟩, first, later⟩ := bind_eq_ok_iff.mp h
  obtain ⟨⟨fraction, behindFraction⟩, second, later'⟩ := bind_eq_ok_iff.mp later
  obtain ⟨⟨exponent, behindExponent⟩, third, done⟩ := bind_eq_ok_iff.mp later'
  dsimp only at second third done
  split at done
  · rename_i shape isInteger
    obtain ⟨rfl, rfl⟩ : shape = .integer z ∧ behindExponent = rest := by simpa using done
    obtain ⟨rfl, rfl, written⟩ := numeral?_eq_integer isInteger
    obtain ⟨digits, rfl⟩ := exists_of_readWhole first
    obtain rfl := eq_of_readFraction_none second
    obtain rfl := eq_of_readExponent_none third
    rw [digits] at written
    exact ⟨_, written, by rw [← digits]⟩
  · contradiction

/-- An integer from zero to another one. -/
def Within (z m : Int) : Prop := 0 ≤ m ∧ m ≤ z ∨ z ≤ m ∧ m ≤ 0

/-- A numeral that is cut ends too early or is that of a smaller integer. -/
theorem readNumeral_cut {negative : Bool} {n : Nat} {z : Int} {p q : List Char}
    (fit : integer? negative (Nat.toDigits 10 n) = some z) (cut : Nat.toDigits 10 n = p ++ q)
    (hq : q ≠ []) :
    readNumeral negative p = .error .endOfText ∨
      ∃ m, Within z m ∧ readNumeral negative p = .ok (.integer m, []) := by
  by_cases empty : p = []
  · subst empty
    exact .inl rfl
  · obtain ⟨m, positive, le, rfl⟩ := exists_toDigits_of_append cut empty hq
    obtain ⟨z', within, fit'⟩ : ∃ z', Within z z' ∧
        integer? negative (Nat.toDigits 10 m) = some z' := by
      simp only [integer?_toDigits_iff, Within, Fits] at *
      obtain ⟨bounds, ⟨rfl, rfl⟩ | ⟨rfl, -, rfl⟩⟩ := fit
      · exact ⟨m, by omega, by omega, .inl ⟨rfl, rfl⟩⟩
      · exact ⟨-m, by omega, by omega, .inr ⟨rfl, positive, rfl⟩⟩
    have read := readNumeral_append fit' (show Delimits [] by simp [Delimits])
    rw [List.append_nil] at read
    exact .inr ⟨z', within, read⟩

end GuardedSms.Json
