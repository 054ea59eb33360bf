import GuardedSms.Proofs.Json.Reading

/-!
# Reading strings

The reader of strings accepts exactly the spellings of a string and stops right behind the closing
quote. A spelling that is cut anywhere ends too early.

## Main statements

* `readString_eq_ok_iff`: what is read is a spelling, and every spelling is read.
* `readString_cut`: a cut spelling is reported as such.
-/
namespace GuardedSms.Json

/-! ## Hexadecimal digits -/

instance (n : Nat) (c : Char) : Decidable (HexSpelling n c) :=
  inferInstanceAs (Decidable (_ ∧ _))

theorem toNat_lt_of_hexValue? {c : Char} {n : Nat} (h : hexValue? c = some n) : c.toNat < 103 := by
  simp only [hexValue?, Char.le_def, UInt32.le_iff_toNat_le] at h
  have : c.toNat = c.val.toNat := rfl
  have : '9'.val.toNat = 57 := rfl
  have : 'f'.val.toNat = 102 := rfl
  have : 'F'.val.toNat = 70 := rfl
  split at h
  · omega
  · split at h
    · omega
    · split at h
      · omega
      · contradiction

/-- The value of a digit is the number that it spells. -/
theorem hexValue?_eq_some_iff {c : Char} {n : Nat} : hexValue? c = some n ↔ HexSpelling n c := by
  constructor
  · intro h
    -- The digits lie below 103, so a table of these characters decides.
    have table : ∀ k < 103, ∀ n ∈ hexValue? (Char.ofNat k), HexSpelling n (Char.ofNat k) := by
      decide
    have spelt := table c.toNat (toNat_lt_of_hexValue? h)
    rw [Char.ofNat_toNat] at spelt
    exact spelt n h
  · rintro ⟨small, rfl | rfl⟩
    all_goals
      revert small n
      decide

theorem HexSpelling.utf8Size {n : Nat} {c : Char} (h : HexSpelling n c) : c.utf8Size = 1 := by
  obtain ⟨small, rfl | rfl⟩ := h
  all_goals
    revert small n
    decide

/-! ## Code units -/

@[simp] theorem utf8ByteSize_ofList_cons (c : Char) (cs : List Char) :
    (String.ofList (c :: cs)).utf8ByteSize = c.utf8Size + (String.ofList cs).utf8ByteSize := by
  rw [String.ofList_cons, String.utf8ByteSize_append, String.utf8ByteSize_singleton]

theorem utf8ByteSize_ofList {cs : List Char} (h : ∀ c ∈ cs, c.utf8Size = 1) :
    (String.ofList cs).utf8ByteSize = cs.length := by
  induction cs with
  | nil => rfl
  | cons c cs ih =>
    rw [List.forall_mem_cons] at h
    rw [utf8ByteSize_ofList_cons, h.1, ih h.2, List.length_cons, Nat.add_comm]

theorem UnitSpelling.lt {n : Nat} {w : List Char} (h : UnitSpelling n w) : n < 0x10000 := by
  obtain ⟨ha, -, -, -⟩ := h
  have := ha.1
  omega

/-- Four digits are read as the unit that they spell. -/
theorem readUnit_append {n : Nat} {w : List Char} (h : UnitSpelling n w) (rest : List Char) :
    readUnit (w ++ rest) = .ok (n, rest) := by
  obtain @⟨_, a, b, c, d, ha, hb, hc, hd⟩ := h
  have value : ((n / 4096 * 16 + n / 256 % 16) * 16 + n / 16 % 16) * 16 + n % 16 = n := by omega
  simp [readUnit, ha.utf8Size, hb.utf8Size, hc.utf8Size, hd.utf8Size,
    hexValue?_eq_some_iff.mpr ha, hexValue?_eq_some_iff.mpr hb, hexValue?_eq_some_iff.mpr hc,
    hexValue?_eq_some_iff.mpr hd, value]

/-- What is read as a unit spells it. -/
theorem exists_of_readUnit {n : Nat} {cs rest : List Char} (h : readUnit cs = .ok (n, rest)) :
    ∃ w, UnitSpelling n w ∧ cs = w ++ rest := by
  unfold readUnit at h
  split at h
  · contradiction
  · split at h
    · split at h
      · rename_i a b c d t _ _ _ _ _ x y z u hx hy hz hu
        rw [hexValue?_eq_some_iff] at hx hy hz hu
        obtain ⟨rfl, rfl⟩ : ((x * 16 + y) * 16 + z) * 16 + u = n ∧ t = rest := by simpa using h
        have := hx.1
        have := hy.1
        have := hz.1
        have := hu.1
        refine ⟨[a, b, c, d], .digits ?_ ?_ ?_ ?_, rfl⟩
        · rwa [show (((x * 16 + y) * 16 + z) * 16 + u) / 4096 = x by omega]
        · rwa [show (((x * 16 + y) * 16 + z) * 16 + u) / 256 % 16 = y by omega]
        · rwa [show (((x * 16 + y) * 16 + z) * 16 + u) / 16 % 16 = z by omega]
        · rwa [show (((x * 16 + y) * 16 + z) * 16 + u) % 16 = u by omega]
      · contradiction
    · contradiction

theorem UnitSpelling.length {n : Nat} {w : List Char} (h : UnitSpelling n w) : w.length = 4 := by
  obtain ⟨-, -, -, -⟩ := h
  rfl

theorem UnitSpelling.utf8Size {n : Nat} {w : List Char} (h : UnitSpelling n w) :
    ∀ c ∈ w, c.utf8Size = 1 := by
  obtain ⟨ha, hb, hc, hd⟩ := h
  simp [ha.utf8Size, hb.utf8Size, hc.utf8Size, hd.utf8Size]

/-- Fewer than four digits at the end of the text are a unit that ends too early. -/
theorem readUnit_cut {n : Nat} {p q : List Char} (h : UnitSpelling n (p ++ q)) (hq : q ≠ []) :
    readUnit p = .error .endOfText := by
  have short : p.length < 4 := by
    have whole := h.length
    have := List.length_pos_iff.mpr hq
    rw [List.length_append] at whole
    omega
  have bytes : (String.ofList (p.take 4)).utf8ByteSize < 4 := by
    rw [List.take_of_length_le (by omega),
      utf8ByteSize_ofList fun c hc => h.utf8Size c (List.mem_append_left q hc)]
    exact short
  unfold readUnit
  rw [if_pos bytes]

/-! ## Code escapes -/

private theorem toNat_ofNat {n : Nat} (h : n.isValidChar) : (Char.ofNat n).toNat = n := by
  rw [Char.ofNat, dif_pos h]
  rfl

/-- No character is half of a surrogate pair. -/
theorem toNat_not_surrogate (c : Char) : c.toNat < 0xD800 ∨ 0xDFFF < c.toNat := by
  obtain low | ⟨high, -⟩ := c.valid
  · exact .inl low
  · exact .inr high

theorem toNat_lt (c : Char) : c.toNat < 0x110000 := by
  obtain low | ⟨-, bound⟩ := c.valid
  · exact Nat.lt_trans low (by decide)
  · exact bound

theorem isLeading_iff {n : Nat} : isLeading n = true ↔ 0xD800 ≤ n ∧ n ≤ 0xDBFF := by
  simp [isLeading]

theorem isTrailing_iff {n : Nat} : isTrailing n = true ↔ 0xDC00 ≤ n ∧ n ≤ 0xDFFF := by
  simp [isTrailing]

theorem not_isTrailing_of_isLeading {n : Nat} (h : isLeading n) : isTrailing n = false := by
  rw [isLeading_iff] at h
  rw [← Bool.not_eq_true, isTrailing_iff]
  omega

/-- The two halves of a character beyond the sixteen-bit range. -/
theorem halves_of_beyond {c : Char} (beyond : 0xFFFF < c.toNat) :
    isLeading (0xD800 + (c.toNat - 0x10000) / 0x400) ∧
      isTrailing (0xDC00 + (c.toNat - 0x10000) % 0x400) := by
  have := toNat_lt c
  rw [isLeading_iff, isTrailing_iff]
  omega

/-- The halves of a character are paired to it. -/
theorem paired_halves {c : Char} (beyond : 0xFFFF < c.toNat) :
    paired (0xD800 + (c.toNat - 0x10000) / 0x400) (0xDC00 + (c.toNat - 0x10000) % 0x400) = c := by
  have code : 0x10000 + (0xD800 + (c.toNat - 0x10000) / 0x400 - 0xD800) * 0x400 +
      (0xDC00 + (c.toNat - 0x10000) % 0x400 - 0xDC00) = c.toNat := by
    omega
  rw [paired, code, Char.ofNat_toNat]

/-- Two halves are the halves of the character that they are paired to. -/
theorem halves_paired {n m : Nat} (hn : isLeading n) (hm : isTrailing m) :
    0xFFFF < (paired n m).toNat ∧ 0xD800 + ((paired n m).toNat - 0x10000) / 0x400 = n ∧
      0xDC00 + ((paired n m).toNat - 0x10000) % 0x400 = m := by
  rw [isLeading_iff] at hn
  rw [isTrailing_iff] at hm
  have code : (paired n m).toNat = 0x10000 + (n - 0xD800) * 0x400 + (m - 0xDC00) :=
    toNat_ofNat (.inr (by omega))
  rw [code]
  omega

theorem readTrailing_append {n : Nat} {w : List Char} (h : UnitSpelling n w)
    (trailing : isTrailing n) (rest : List Char) :
    readTrailing ('\\' :: 'u' :: (w ++ rest)) = .ok (n, rest) := by
  simp [readTrailing, readUnit_append h rest, trailing]

theorem exists_of_readTrailing {n : Nat} {cs rest : List Char}
    (h : readTrailing cs = .ok (n, rest)) :
    isTrailing n ∧ ∃ w, UnitSpelling n w ∧ cs = '\\' :: 'u' :: (w ++ rest) := by
  unfold readTrailing at h
  split at h
  · contradiction
  · contradiction
  · obtain ⟨⟨unit, left⟩, read, done⟩ := bind_eq_ok_iff.mp h
    obtain ⟨w, spelt, rfl⟩ := exists_of_readUnit read
    by_cases trailing : isTrailing unit
    · obtain ⟨rfl, rfl⟩ : unit = n ∧ left = rest := by simpa [trailing] using done
      exact ⟨trailing, w, spelt, rfl⟩
    · simp [trailing] at done
  · contradiction

theorem readTrailing_cut {n : Nat} {w p q : List Char} (h : UnitSpelling n w)
    (cut : '\\' :: 'u' :: w = p ++ q) (hq : q ≠ []) : readTrailing p = .error .endOfText := by
  match p with
  | [] => rfl
  | [c] =>
    obtain ⟨rfl, -⟩ := List.cons.inj cut
    rfl
  | c :: d :: p =>
    obtain ⟨rfl, rfl, rfl⟩ : '\\' = c ∧ 'u' = d ∧ w = p ++ q := by simpa using cut
    simp [readTrailing, readUnit_cut h hq]

theorem readCode_unit {n : Nat} {w : List Char} (h : UnitSpelling n w)
    (notLeading : isLeading n = false) (notTrailing : isTrailing n = false) (rest : List Char) :
    readCode (w ++ rest) = .ok (Char.ofNat n, rest) := by
  simp [readCode, readUnit_append h rest, notLeading, notTrailing]

theorem readCode_pair {n m : Nat} {w v : List Char} (hw : UnitSpelling n w)
    (hv : UnitSpelling m v) (hn : isLeading n) (hm : isTrailing m) (rest : List Char) :
    readCode (w ++ '\\' :: 'u' :: (v ++ rest)) = .ok (paired n m, rest) := by
  simp [readCode, readUnit_append hw, hn, not_isTrailing_of_isLeading hn,
    readTrailing_append hv hm rest]

theorem readCode_pair_cut {n m : Nat} {w v p q : List Char} (hw : UnitSpelling n w)
    (hv : UnitSpelling m v) (hn : isLeading n) (cut : w ++ '\\' :: 'u' :: v = p ++ q)
    (hq : q ≠ []) : readCode p = .error .endOfText := by
  obtain ⟨q', hq', rfl⟩ | ⟨p', rfl, behind⟩ := cut_append cut
  · simp [readCode, readUnit_cut hw hq']
  · simp [readCode, readUnit_append hw, hn, not_isTrailing_of_isLeading hn,
      readTrailing_cut hv behind hq]

/-- What is read as a code escape spells the character. -/
theorem exists_of_readCode {c : Char} {cs rest : List Char} (h : readCode cs = .ok (c, rest)) :
    ∃ w, CharSpelling c ('\\' :: 'u' :: w) ∧ cs = w ++ rest := by
  obtain ⟨⟨n, left⟩, read, done⟩ := bind_eq_ok_iff.mp h
  obtain ⟨w, spelt, rfl⟩ := exists_of_readUnit read
  by_cases trailing : isTrailing n
  · simp [trailing] at done
  by_cases leading : isLeading n
  · simp only [trailing, leading, if_true] at done
    obtain ⟨⟨m, left'⟩, second, paired⟩ := bind_eq_ok_iff.mp done
    obtain ⟨hm, v, spelt', rfl⟩ := exists_of_readTrailing second
    obtain ⟨rfl, rfl⟩ : Json.paired n m = c ∧ left' = rest := by simpa using paired
    obtain ⟨beyond, hn, hm⟩ := halves_paired leading hm
    rw [← hn] at spelt
    rw [← hm] at spelt'
    exact ⟨w ++ '\\' :: 'u' :: v, .pair beyond spelt spelt', by simp⟩
  · obtain ⟨rfl, rfl⟩ : Char.ofNat n = c ∧ left = rest := by
      simpa [trailing, leading] using done
    have bound := spelt.lt
    have code : (Char.ofNat n).toNat = n := by
      rw [isLeading_iff] at leading
      rw [isTrailing_iff] at trailing
      refine toNat_ofNat ?_
      unfold Nat.isValidChar
      omega
    exact ⟨w, .unit (code.symm ▸ spelt), rfl⟩

/-! ## Characters -/

theorem shortEscape?_eq_some_iff {c e : Char} :
    shortEscape? e = some c ↔ (e, c) ∈ shortEscapes := by
  constructor
  · intro h
    unfold shortEscape? at h
    split at h <;> simp_all [shortEscapes, eq_comm]
  · simp only [shortEscapes, List.mem_cons, Prod.mk.injEq, List.not_mem_nil, or_false]
    rintro (⟨rfl, rfl⟩ | ⟨rfl, rfl⟩ | ⟨rfl, rfl⟩ | ⟨rfl, rfl⟩ | ⟨rfl, rfl⟩ | ⟨rfl, rfl⟩ |
      ⟨rfl, rfl⟩ | ⟨rfl, rfl⟩) <;> rfl

theorem CharSpelling.ne_nil {c : Char} {w : List Char} (h : CharSpelling c w) : w ≠ [] := by
  cases h <;> simp

/-- No character of a string starts like the closing quote. -/
theorem CharSpelling.head_ne_quote {c : Char} {w : List Char} (h : CharSpelling c w) :
    w.head? ≠ some '"' := by
  cases h with
  | raw _ noQuote => simpa using noQuote
  | short | unit | pair => simp

/-- A spelling of a character is read whole. -/
theorem readChar_append {c : Char} {w : List Char} (h : CharSpelling c w) (rest : List Char) :
    readChar (w ++ rest) = .ok (c, rest) := by
  cases h with
  | raw printable noQuote noBackslash =>
    simp [readChar, noBackslash, Nat.not_lt.mpr printable]
  | short h => simp [readChar, readEscape, shortEscape?_eq_some_iff.mpr h]
  | unit h =>
    have := toNat_not_surrogate c
    have notLeading : isLeading c.toNat = false := by
      rw [← Bool.not_eq_true, isLeading_iff]
      omega
    have notTrailing : isTrailing c.toNat = false := by
      rw [← Bool.not_eq_true, isTrailing_iff]
      omega
    simp [readChar, readEscape, shortEscape?, readCode_unit h notLeading notTrailing]
  | pair beyond hn hm =>
    obtain ⟨leading, trailing⟩ := halves_of_beyond beyond
    simp only [List.cons_append, List.append_assoc]
    simp [readChar, readEscape, shortEscape?, readCode_pair hn hm leading trailing,
      paired_halves beyond]

/-- What is read as a character, unless it is the closing quote, is a spelling of it. -/
theorem exists_of_readChar {c : Char} {cs rest : List Char} (h : readChar cs = .ok (c, rest))
    (noQuote : cs.head? ≠ some '"') : ∃ w, CharSpelling c w ∧ cs = w ++ rest := by
  match cs with
  | [] => contradiction
  | d :: cs =>
    by_cases backslash : d = '\\'
    · subst backslash
      match cs with
      | [] => contradiction
      | e :: cs =>
        simp only [readChar, readEscape, if_true] at h
        cases short : shortEscape? e with
        | some d =>
          obtain ⟨rfl, rfl⟩ : d = c ∧ cs = rest := by simpa [short] using h
          exact ⟨_, .short (shortEscape?_eq_some_iff.mp short), rfl⟩
        | none =>
          by_cases code : e = 'u'
          · subst code
            obtain ⟨w, spelt, rfl⟩ := exists_of_readCode (by simpa [short] using h)
            exact ⟨_, spelt, rfl⟩
          · simp [short, code] at h
    · by_cases printable : d.toNat < 32
      · simp [readChar, backslash, printable] at h
      · obtain ⟨rfl, rfl⟩ : d = c ∧ cs = rest := by
          simpa [readChar, backslash, printable] using h
        exact ⟨[d], .raw (by omega) (by simpa using noQuote) backslash, rfl⟩

/-- A code escape that is cut ends too early if the part behind its `u` does. -/
theorem readChar_cut_code {w p q : List Char} (cut : '\\' :: 'u' :: w = p ++ q)
    (h : ∀ p', w = p' ++ q → readCode p' = .error .endOfText) :
    readChar p = .error .endOfText := by
  match p with
  | [] => rfl
  | [c] =>
    obtain ⟨rfl, -⟩ := List.cons.inj cut
    rfl
  | c :: d :: p =>
    obtain ⟨rfl, rfl, behind⟩ : '\\' = c ∧ 'u' = d ∧ w = p ++ q := by simpa using cut
    simpa [readChar, readEscape, shortEscape?] using h p behind

/-- A spelling of a character that is cut ends too early. -/
theorem readChar_cut {c : Char} {p q : List Char} (h : CharSpelling c (p ++ q)) (hq : q ≠ []) :
    readChar p = .error .endOfText := by
  generalize cut : p ++ q = w at h
  cases h with
  | raw =>
    obtain rfl := eq_nil_of_cut cut hq
    rfl
  | short =>
    match p with
    | [] => rfl
    | [d] =>
      obtain ⟨rfl, -⟩ := List.cons.inj cut
      rfl
    | _ :: _ :: _ => simp_all
  | unit h =>
    refine readChar_cut_code cut.symm fun p' behind => ?_
    subst behind
    simp [readCode, readUnit_cut h hq]
  | pair beyond hn hm =>
    obtain ⟨leading, -⟩ := halves_of_beyond beyond
    exact readChar_cut_code cut.symm fun p' behind => readCode_pair_cut hn hm leading behind hq

/-! ## Strings -/

/-- Unless the string ends here, a character is read and then the others. -/
theorem readChars_succ {cs : List Char} (noQuote : cs.head? ≠ some '"') (fuel : Nat) :
    readChars (fuel + 1) cs = (do
      let (c, rest) ← readChar cs
      let (more, rest) ← readChars fuel rest
      return (c :: more, rest)) := by
  match cs with
  | [] => rfl
  | c :: cs =>
    have : c ≠ '"' := by simpa using noQuote
    rw [readChars]
    rintro _ ⟨⟩
    contradiction

/-- A spelling of a string is read whole; its length is fuel enough. -/
theorem readChars_append {cs w : List Char} (h : CharsSpelling cs w) {fuel : Nat}
    (enough : w.length ≤ fuel) (rest : List Char) :
    readChars fuel (w ++ rest) = .ok (cs, rest) := by
  induction h generalizing fuel with
  | close =>
    obtain ⟨fuel, rfl⟩ : ∃ n, fuel = n + 1 := ⟨fuel - 1, by simp at enough; omega⟩
    rfl
  | @char c cs w m h more ih =>
    have := List.length_pos_iff.mpr h.ne_nil
    rw [List.length_append] at enough
    obtain ⟨fuel, rfl⟩ : ∃ n, fuel = n + 1 := ⟨fuel - 1, by omega⟩
    have noQuote : (w ++ (m ++ rest)).head? ≠ some '"' := by
      rw [List.head?_append_of_ne_nil _ h.ne_nil]
      exact h.head_ne_quote
    have later : readChars fuel (m ++ rest) = .ok (cs, rest) := ih (by omega)
    simp [readChars_succ noQuote, readChar_append h, later]

/-- What is read up to a closing quote spells the characters. -/
theorem exists_of_readChars {fuel : Nat} {cs chars rest : List Char}
    (h : readChars fuel cs = .ok (chars, rest)) :
    ∃ w, CharsSpelling chars w ∧ cs = w ++ rest := by
  induction fuel generalizing cs chars with
  | zero => contradiction
  | succ fuel ih =>
    by_cases quote : cs.head? = some '"'
    · obtain ⟨t, rfl⟩ := List.head?_eq_some_iff.mp quote
      obtain ⟨rfl, rfl⟩ : [] = chars ∧ t = rest := by simpa [readChars] using h
      exact ⟨_, .close, rfl⟩
    · rw [readChars_succ quote] at h
      obtain ⟨⟨c, left⟩, readOne, later⟩ := bind_eq_ok_iff.mp h
      obtain ⟨⟨more, left'⟩, readMore, done⟩ := bind_eq_ok_iff.mp later
      obtain ⟨rfl, rfl⟩ : c :: more = chars ∧ left' = rest := by simpa using done
      obtain ⟨w, spelt, rfl⟩ := exists_of_readChar readOne quote
      obtain ⟨m, spelt', rfl⟩ := ih readMore
      exact ⟨w ++ m, .char spelt spelt', by rw [List.append_assoc]⟩

/-- A string that is cut before its closing quote ends too early. -/
theorem readChars_cut {cs p q : List Char} (h : CharsSpelling cs (p ++ q)) (hq : q ≠ [])
    (fuel : Nat) : readChars fuel p = .error .endOfText := by
  generalize cut : p ++ q = w at h
  induction h generalizing p fuel with
  | close =>
    obtain rfl := eq_nil_of_cut cut hq
    cases fuel <;> rfl
  | @char c cs w m h more ih =>
    cases fuel with
    | zero => rfl
    | succ fuel =>
      obtain ⟨q', hq', rfl⟩ | ⟨p', rfl, behind⟩ := cut_append cut.symm
      · have noQuote : p.head? ≠ some '"' := by
          intro quote
          apply h.head_ne_quote
          rw [List.head?_append, quote]
          rfl
        rw [readChars_succ noQuote, readChar_cut h hq', error_bind]
      · have noQuote : (w ++ p').head? ≠ some '"' := by
          rw [List.head?_append_of_ne_nil _ h.ne_nil]
          exact h.head_ne_quote
        simp [readChars_succ noQuote, readChar_append h, ih fuel behind.symm]

/-- Behind an opening quote, a string is read exactly where a spelling of it stands. -/
theorem readString_eq_ok_iff {s : String} {cs rest : List Char} :
    readString cs = .ok (s, rest) ↔ ∃ m, TextSpelling s ('"' :: m) ∧ cs = m ++ rest := by
  constructor
  · intro h
    obtain ⟨⟨chars, left⟩, read, done⟩ := bind_eq_ok_iff.mp h
    obtain ⟨rfl, rfl⟩ : String.ofList chars = s ∧ left = rest := by simpa using done
    obtain ⟨m, spelt, rfl⟩ := exists_of_readChars read
    exact ⟨m, .quoted (by simpa using spelt), rfl⟩
  · rintro ⟨m, ⟨spelt⟩, rfl⟩
    have enough : m.length ≤ (m ++ rest).length := by simp
    rw [readString, readChars_append spelt enough]
    simp

/-- A string that is cut before its closing quote is reported as the end of the text. -/
theorem readString_cut {s : String} {p q : List Char} (h : TextSpelling s ('"' :: (p ++ q)))
    (hq : q ≠ []) : readString p = .error .endOfText := by
  obtain ⟨spelt⟩ := h
  simp [readString, readChars_cut spelt hq]

end GuardedSms.Json
