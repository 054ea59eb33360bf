import GuardedSms.Proofs.Json.Shapes
import GuardedSms.Proofs.Payload.Reading

/-!
# Integers within bounds

An integer of any size is read by its decimal digits. One within the bounds of a type is a value of
the type; one that fits in 64 bits is refused by its name; of a greater one only a floating point
number is left, or nothing at all. In a list the first refusal counts, whatever stands behind it.

## Main definitions

* `Judges`: a reader accepts the integers between two bounds and refuses all others.
* `listed`: integers by their digits, with commas between them.

## Main statements

* `judges_readInt64`, `judges_readUInt8`: the readers of integers judge them by their bounds.
* `Judges.readItems_accepted`, `Judges.readItems_refused`: lists are judged from the left.
-/
namespace GuardedSms.Payload

open Json

variable {α : Type}

/-! ## One integer -/

/-- An integer that does not fit in 64 bits is no integer to the reader. -/
theorem readOpening_large {n : Int} (large : ¬ Fits n) {rest : List Char} (ends : Delimits rest) :
    readOpening (intChars n ++ rest) = .error .malformed ∨
      ∃ negative magnitude,
        readOpening (intChars n ++ rest) = .ok (.floating negative magnitude, rest) := by
  cases n with
  | ofNat n =>
    have none : integer? false (Nat.toDigits 10 n) = none := by
      rw [Option.eq_none_iff_forall_ne_some]
      intro z written
      obtain ⟨fit, h⟩ := integer?_toDigits_iff.mp written
      obtain rfl : z = n := by simpa using h
      exact large fit
    obtain ⟨c, t, digits, digit⟩ := exists_cons_toDigits n
    have read := readNumeral_large none ends
    have opened : readOpening (intChars (.ofNat n) ++ rest) =
        readNumeral false (Nat.toDigits 10 n ++ rest) := by
      rw [intChars, digits]
      exact readOpening_digit digit _
    rw [opened]
    exact read.imp_right fun ⟨magnitude, h⟩ => ⟨false, magnitude, h⟩
  | negSucc n =>
    have none : integer? true (Nat.toDigits 10 (n + 1)) = none := by
      rw [Option.eq_none_iff_forall_ne_some]
      intro z written
      obtain ⟨fit, h⟩ := integer?_toDigits_iff.mp written
      obtain rfl : z = .negSucc n := by simp at h; omega
      exact large fit
    have opened : readOpening (intChars (.negSucc n) ++ rest) =
        readNumeral true (Nat.toDigits 10 (n + 1) ++ rest) := rfl
    rw [opened]
    exact (readNumeral_large none ends).imp_right fun ⟨magnitude, h⟩ => ⟨true, magnitude, h⟩

/-- A reader of integers accepts those between two bounds. It refuses all others, and by name those
that fit in 64 bits. -/
structure Judges (r : Reader α) (toInt : α → Int) (name : String) (least greatest : Int) :
    Prop where
  accepts : ∀ {n rest}, least ≤ n ∧ n ≤ greatest → Delimits rest →
    ∃ v, toInt v = n ∧ r (intChars n ++ rest) = .ok (v, rest)
  refuses : ∀ {n rest}, ¬ (least ≤ n ∧ n ≤ greatest) → Delimits rest →
    ∃ fault, r (intChars n ++ rest) = .error fault ∧
      (Fits n → fault = .unfit (.outOfRange n name))

theorem judges_readInteger {name : String} {least greatest : Int} (low : -2 ^ 63 ≤ least)
    (high : greatest < 2 ^ 64) :
    Judges (readInteger name least greatest) id name least greatest where
  accepts {n rest} inside ends := by
    have fit : Fits n := ⟨by omega, by omega⟩
    have opened := readOpening_integer (integerSpelling_intChars n) fit ends
    refine ⟨n, rfl, ?_⟩
    simp [readInteger_eq, opened, bounded_eq_ok_iff.mpr ⟨rfl, inside⟩]
  refuses {n rest} outside ends := by
    by_cases fit : Fits n
    · have opened := readOpening_integer (integerSpelling_intChars n) fit ends
      refine ⟨.unfit (.outOfRange n name), ?_, fun _ => rfl⟩
      simp [readInteger_eq, opened, bounded, verdict, outside]
    · obtain malformed | ⟨negative, magnitude, floating⟩ := readOpening_large fit ends
      · exact ⟨.malformed, by simp [readInteger_eq, malformed], fun h => absurd h fit⟩
      · refine ⟨.unfit (.wrongType (.floating negative magnitude) name), ?_, fun h => absurd h fit⟩
        simp [readInteger_eq, floating, bounded, verdict]

/-- A reader that renames the integers within its bounds judges them all the same. -/
theorem Judges.map {r : Reader Int} {name : String} {least greatest : Int}
    (h : Judges r id name least greatest) {f : Int → α} {toInt : α → Int}
    (back : ∀ n, least ≤ n ∧ n ≤ greatest → toInt (f n) = n) :
    Judges (fun cs => r cs >>= fun p => pure (f p.1, p.2)) toInt name least greatest where
  accepts inside ends := by
    obtain ⟨n, rfl, read⟩ := h.accepts inside ends
    refine ⟨f n, back n inside, ?_⟩
    simp only [id] at read
    simp [read]
  refuses outside ends := by
    obtain ⟨fault, read, named⟩ := h.refuses outside ends
    exact ⟨fault, by rw [read, error_bind], named⟩

theorem judges_readInt64 : Judges readInt64 Int64.toInt "i64" (-2 ^ 63) (2 ^ 63 - 1) := by
  have judged : Judges (readInteger "i64" (-2 ^ 63) (2 ^ 63 - 1)) id "i64" (-2 ^ 63) (2 ^ 63 - 1) :=
    judges_readInteger (by decide) (by decide)
  refine judged.map (f := Int64.ofInt) ?_
  intro n inside
  exact Int64.toInt_ofInt_of_le (by omega) (by omega)

theorem judges_readUInt8 : Judges readUInt8 (fun v => (v.toNat : Int)) "u8" 0 255 := by
  have judged : Judges (readInteger "u8" 0 255) id "u8" 0 255 :=
    judges_readInteger (by decide) (by decide)
  refine judged.map (f := fun n => UInt8.ofNat n.toNat) ?_
  intro n inside
  rw [UInt8.toNat_ofNat']
  omega

/-! ## Many integers -/

/-- Integers by their digits, with commas between them. -/
def listed (ns : List Int) : List Char := [','].intercalate (ns.map intChars)

/-- Integers by their digits, each behind a comma. -/
def moreNumbers (ns : List Int) : List Char := ns.flatMap fun n => ',' :: intChars n

@[simp] theorem moreNumbers_nil : moreNumbers [] = [] := rfl

@[simp] theorem moreNumbers_cons (n : Int) (ns : List Int) :
    moreNumbers (n :: ns) = ',' :: (intChars n ++ moreNumbers ns) := rfl

@[simp] theorem moreNumbers_append (ns ms : List Int) :
    moreNumbers (ns ++ ms) = moreNumbers ns ++ moreNumbers ms := by
  simp [moreNumbers]

theorem listed_cons (n : Int) (ns : List Int) :
    listed (n :: ns) = intChars n ++ moreNumbers ns := by
  induction ns generalizing n with
  | nil => simp [listed]
  | cons m ns ih => simpa [listed] using ih m

theorem length_le_moreNumbers (ns : List Int) : ns.length ≤ (moreNumbers ns).length := by
  induction ns with
  | nil => simp
  | cons n ns ih =>
    simp only [moreNumbers_cons, List.length_cons, List.length_append]
    omega

theorem delimits_moreNumbers (ns : List Int) {rest : List Char} (ends : Delimits rest) :
    Delimits (moreNumbers ns ++ rest) := by
  cases ns with
  | nil => exact ends
  | cons n ns => exact blanks_nil.delimits (c := ',') (by decide) _

/-- The digits of an integer open an item. -/
theorem front_intChars (n : Int) (rest : List Char) :
    ∃ c t, skipBlanks (intChars n ++ rest) = c :: t ∧ c ≠ ']' := by
  obtain ⟨c, t, written, noBlank, noEnd⟩ := (Json.int n).exists_cons_chars
  rw [chars] at written
  exact ⟨c, t ++ rest, by rw [written]; exact skipBlanks_cons noBlank _, noEnd⟩

namespace Judges

variable {r : Reader α} {toInt : α → Int} {name : String} {least greatest : Int}

/-- Integers within the bounds are read one by one, and the reader goes on behind them. -/
theorem readMoreItems_inside (h : Judges r toInt name least greatest)
    (skips : ∀ cs, r (skipBlanks cs) = r cs) {ns : List Int}
    (inside : ∀ n ∈ ns, least ≤ n ∧ n ≤ greatest) (fuel : Nat) {rest : List Char}
    (ends : Delimits rest) :
    ∃ vs, vs.map toInt = ns ∧
      readMoreItems r (ns.length + fuel) (moreNumbers ns ++ rest) =
        (readMoreItems r fuel rest).map fun p => (vs ++ p.1, p.2) := by
  induction ns with
  | nil =>
    refine ⟨[], rfl, ?_⟩
    simp only [List.length_nil, Nat.zero_add, moreNumbers_nil, List.nil_append]
    cases readMoreItems r fuel rest <;> rfl
  | cons n ns ih =>
    rw [List.forall_mem_cons] at inside
    obtain ⟨vs, same, others⟩ := ih inside.2
    obtain ⟨v, rfl, first⟩ := h.accepts inside.1 (delimits_moreNumbers ns ends)
    obtain ⟨c, t, front, noEnd⟩ := front_intChars (toInt v) (moreNumbers ns ++ rest)
    refine ⟨v :: vs, by simp [same], ?_⟩
    have fuelled : (toInt v :: ns).length + fuel = ns.length + fuel + 1 := by simp; omega
    simp only [fuelled, moreNumbers_cons, List.cons_append, List.append_assoc]
    rw [readMoreItems_comma skips rfl front noEnd, first]
    change (readMoreItems r (ns.length + fuel) (moreNumbers ns ++ rest) >>= _) = _
    rw [others]
    cases readMoreItems r fuel rest <;> rfl

/-- Integers within the bounds are read behind an opening bracket. The fuel that is left is enough
for what stands behind them. -/
theorem readItems_inside (h : Judges r toInt name least greatest)
    (skips : ∀ cs, r (skipBlanks cs) = r cs) {n : Int} {ns : List Int}
    (inside : ∀ m ∈ n :: ns, least ≤ m ∧ m ≤ greatest) {rest : List Char} (ends : Delimits rest) :
    ∃ vs fuel, vs.map toInt = n :: ns ∧ rest.length ≤ fuel ∧
      readItems r (listed (n :: ns) ++ rest) =
        (readMoreItems r fuel rest).map fun p => (vs ++ p.1, p.2) := by
  rw [List.forall_mem_cons] at inside
  obtain ⟨v, rfl, first⟩ := h.accepts inside.1 (delimits_moreNumbers ns ends)
  obtain ⟨c, t, front, noEnd⟩ := front_intChars (toInt v) (moreNumbers ns ++ rest)
  -- The fuel is the number of characters left, of which each integer takes one at least.
  obtain ⟨fuel, split, enough⟩ : ∃ fuel,
      (moreNumbers ns ++ rest).length = ns.length + fuel ∧ rest.length ≤ fuel := by
    have := length_le_moreNumbers ns
    exact ⟨(moreNumbers ns ++ rest).length - ns.length, by simp; omega, by simp; omega⟩
  obtain ⟨vs, same, others⟩ := h.readMoreItems_inside skips inside.2 fuel ends
  refine ⟨v :: vs, fuel, by simp [same], enough, ?_⟩
  rw [listed_cons, List.append_assoc, readItems_first skips front noEnd, first]
  change (readMoreItems r (moreNumbers ns ++ rest).length (moreNumbers ns ++ rest) >>= _) = _
  rw [split, others]
  cases readMoreItems r fuel rest <;> rfl

/-- A list of integers within the bounds is read whole. -/
theorem readItems_accepted (h : Judges r toInt name least greatest)
    (skips : ∀ cs, r (skipBlanks cs) = r cs) {ns : List Int}
    (inside : ∀ n ∈ ns, least ≤ n ∧ n ≤ greatest) (rest : List Char) :
    ∃ vs, vs.map toInt = ns ∧ readItems r (listed ns ++ ']' :: rest) = .ok (vs, rest) := by
  cases ns with
  | nil => exact ⟨[], rfl, rfl⟩
  | cons n ns =>
    have ends : Delimits (']' :: rest) := blanks_nil.delimits (by decide) rest
    obtain ⟨vs, fuel, same, enough, read⟩ := h.readItems_inside skips inside ends
    obtain ⟨fuel, rfl⟩ : ∃ k, fuel = k + 1 := ⟨fuel - 1, by simp at enough; omega⟩
    refine ⟨vs, same, ?_⟩
    rw [read, readMoreItems_close rfl fuel]
    simp [Except.map]

/-- The first integer out of the bounds is refused, whatever stands behind it. -/
theorem readItems_refused (h : Judges r toInt name least greatest)
    (skips : ∀ cs, r (skipBlanks cs) = r cs) {before : List Int} {n : Int}
    (inside : ∀ m ∈ before, least ≤ m ∧ m ≤ greatest) (outside : ¬ (least ≤ n ∧ n ≤ greatest))
    {rest : List Char} (ends : Delimits rest) :
    ∃ fault, readItems r (listed (before ++ [n]) ++ rest) = .error fault ∧
      (Fits n → fault = .unfit (.outOfRange n name)) := by
  obtain ⟨fault, refused, named⟩ := h.refuses outside ends
  obtain ⟨c, t, front, noEnd⟩ := front_intChars n rest
  refine ⟨fault, ?_, named⟩
  cases before with
  | nil =>
    rw [List.nil_append, listed_cons, moreNumbers_nil, List.append_nil,
      readItems_first skips front noEnd, refused, error_bind]
  | cons m before =>
    have comma : Delimits (',' :: (intChars n ++ rest)) := blanks_nil.delimits (by decide) _
    obtain ⟨vs, fuel, -, enough, read⟩ := h.readItems_inside skips inside comma
    obtain ⟨fuel, rfl⟩ : ∃ k, fuel = k + 1 := ⟨fuel - 1, by simp at enough; omega⟩
    have split : listed (m :: before ++ [n]) ++ rest =
        listed (m :: before) ++ ',' :: (intChars n ++ rest) := by
      simp [listed_cons]
    rw [split, read, readMoreItems_comma skips rfl front noEnd, refused]
    rfl

end Judges

end GuardedSms.Payload
