import GuardedSms.Proofs.Json.Numerals
import GuardedSms.Proofs.Json.Texts

/-!
# Reading scalars

The reader that stops at the opening of an array or object reads every other value whole. What it
reads, floating point numbers apart, is a spelling of the shape that it answers with.

## Main statements

* `exists_of_readOpening`: what is read as a shape is a spelling of it.
* `readOpening_append`: a spelling of a shape is read whole.
* `readOpening_cut`: a cut spelling ends too early, or is a shorter integer.
-/
namespace GuardedSms.Json

/-- A scalar other than a floating point number, or the opening of an array or object. -/
inductive OpeningSpelling : Spelling Shape
  | null : OpeningSpelling .null nullWord
  | bool (b : Bool) : OpeningSpelling (.bool b) (boolWord b)
  | integer {z : Int} {w : List Char} (h : IntegerSpelling z w) (fit : Fits z) :
      OpeningSpelling (.integer z) w
  | string {s : String} {w : List Char} (h : TextSpelling s w) : OpeningSpelling (.string s) w
  | sequence : OpeningSpelling .sequence ['[']
  | map : OpeningSpelling .map ['{']

/-! ## Literals -/

theorem eq_append_of_readWord {w cs rest : List Char} (h : readWord w cs = .ok rest) :
    cs = w ++ rest := by
  induction w generalizing cs with
  | nil => simpa [readWord] using h
  | cons c w ih =>
    match cs with
    | [] => contradiction
    | d :: cs =>
      simp only [readWord] at h
      split at h
      · subst d
        rw [ih h]
        rfl
      · contradiction

theorem readWord_cut {w p q : List Char} (cut : w = p ++ q) (hq : q ≠ []) :
    readWord w p = .error .endOfText := by
  subst cut
  induction p with
  | nil =>
    obtain ⟨c, q, rfl⟩ := List.exists_cons_of_ne_nil hq
    rfl
  | cons c p ih => simpa [readWord] using ih

/-! ## Integers -/

theorem not_isBlank_of_isDigit {c : Char} (h : isDigit c) : isBlank c = false := by
  rw [← Bool.not_eq_true, isBlank_iff]
  simp only [List.mem_cons, List.not_mem_nil, or_false]
  rintro (rfl | rfl | rfl | rfl) <;> contradiction

theorem readOpening_digit {c : Char} (h : isDigit c) (cs : List Char) :
    readOpening (c :: cs) = readNumeral false (c :: cs) := by
  unfold readOpening readValue
  rw [skipBlanks_cons (not_isBlank_of_isDigit h)]
  split
  case h_9 first _ _ _ _ _ _ _ _ same =>
    obtain ⟨rfl, rfl⟩ := List.cons.inj same
    rw [if_pos h]
  all_goals simp_all [isDigit]

theorem exists_cons_toDigits (n : Nat) : ∃ c t, Nat.toDigits 10 n = c :: t ∧ isDigit c := by
  obtain ⟨c, t, digits⟩ := List.exists_cons_of_ne_nil (Nat.toDigits_ne_nil (n := n) (b := 10))
  exact ⟨c, t, digits, isDigit_of_mem_toDigits (n := n) (digits ▸ List.mem_cons_self)⟩

/-- An integer behind its sign is read by its digits. -/
theorem IntegerSpelling.exists_digits {z : Int} {w : List Char} (h : IntegerSpelling z w)
    (fit : Fits z) : ∃ negative n, integer? negative (Nat.toDigits 10 n) = some z ∧
      w = (if negative then ['-'] else []) ++ Nat.toDigits 10 n := by
  cases h with
  | nonneg n => exact ⟨false, n, integer?_toDigits_iff.mpr ⟨fit, .inl ⟨rfl, rfl⟩⟩, rfl⟩
  | @neg n positive =>
    exact ⟨true, n, integer?_toDigits_iff.mpr ⟨fit, .inr ⟨rfl, positive, rfl⟩⟩, rfl⟩

theorem readOpening_integer {z : Int} {w rest : List Char} (h : IntegerSpelling z w) (fit : Fits z)
    (ends : Delimits rest) : readOpening (w ++ rest) = .ok (.integer z, rest) := by
  obtain ⟨negative, n, written, rfl⟩ := h.exists_digits fit
  have read := readNumeral_append written ends
  obtain ⟨c, t, digits, digit⟩ := exists_cons_toDigits n
  cases negative with
  | true => exact read
  | false =>
    rw [digits] at read ⊢
    exact (readOpening_digit digit (t ++ rest)).trans read

/-- An integer that is cut ends too early or is a smaller one. -/
theorem readOpening_integer_cut {z : Int} {p q : List Char} (h : IntegerSpelling z (p ++ q))
    (fit : Fits z) (hq : q ≠ []) :
    readOpening p = .error .endOfText ∨ ∃ m, Within z m ∧ readOpening p = .ok (.integer m, []) := by
  obtain ⟨negative, n, written, cut⟩ := h.exists_digits fit
  match p with
  | [] => exact .inl rfl
  | c :: p =>
    cases negative with
    | true =>
      obtain ⟨rfl, behind⟩ := List.cons.inj cut
      exact readNumeral_cut written behind.symm hq
    | false =>
      obtain ⟨d, t, digits, digit⟩ := exists_cons_toDigits n
      have read := readNumeral_cut written cut.symm hq
      obtain ⟨rfl, -⟩ : c = d ∧ p ++ q = t := by simpa [digits] using cut
      rwa [readOpening_digit digit]

/-! ## Shapes -/

theorem OpeningSpelling.front {s : Shape} {w : List Char} (h : OpeningSpelling s w) :
    ∃ c t, w = c :: t ∧ isBlank c = false ∧ c ≠ ']' := by
  cases h with
  | null => exact ⟨_, _, rfl, by decide⟩
  | bool b => cases b <;> exact ⟨_, _, rfl, by decide⟩
  | integer h fit =>
    obtain ⟨negative, n, -, rfl⟩ := h.exists_digits fit
    obtain ⟨c, t, digits, digit⟩ := exists_cons_toDigits n
    cases negative with
    | true => exact ⟨_, _, rfl, by decide⟩
    | false =>
      refine ⟨c, t, digits, not_isBlank_of_isDigit digit, ?_⟩
      rintro rfl
      contradiction
  | string h =>
    cases h
    exact ⟨_, _, rfl, by decide⟩
  | sequence => exact ⟨_, _, rfl, by decide⟩
  | map => exact ⟨_, _, rfl, by decide⟩

theorem readOpening_skipBlanks (cs : List Char) : readOpening (skipBlanks cs) = readOpening cs := by
  simp [readOpening, readValue]

theorem readOpening_quote (cs : List Char) :
    readOpening ('"' :: cs) = (readString cs >>= fun p => pure (.string p.1, p.2)) := rfl

/-- All readers of values agree on what opens neither an array nor an object. -/
theorem readValue_eq_readOpening {array object : Reader Shape} {cs : List Char}
    (noArray : (skipBlanks cs).head? ≠ some '[') (noObject : (skipBlanks cs).head? ≠ some '{') :
    readValue array object cs = readOpening cs := by
  unfold readOpening readValue
  split <;> grind

theorem readShape_eq_readOpening {budget : Nat} {cs : List Char}
    (noArray : (skipBlanks cs).head? ≠ some '[') (noObject : (skipBlanks cs).head? ≠ some '{') :
    readShape budget cs = readOpening cs := by
  cases budget <;> exact readValue_eq_readOpening noArray noObject

/-- A spelling of a shape is read whole. -/
theorem readOpening_append {s : Shape} {w rest : List Char} (h : OpeningSpelling s w)
    (ends : Delimits rest) : readOpening (w ++ rest) = .ok (s, rest) := by
  cases h with
  | null => rfl
  | bool b => cases b <;> rfl
  | integer h fit => exact readOpening_integer h fit ends
  | @string s w h =>
    obtain ⟨m, rfl⟩ : ∃ m, w = '"' :: m := by
      cases h
      exact ⟨_, rfl⟩
    have read := readString_eq_ok_iff.mpr ⟨m, h, (rfl : m ++ rest = m ++ rest)⟩
    rw [List.cons_append, readOpening_quote, read]
    rfl
  | sequence => rfl
  | map => rfl

theorem readOpening_literal_cut {c : Char} {w p q : List Char} {s : Shape}
    (opened : ∀ cs, readOpening (c :: cs) = (readWord w cs >>= fun rest => pure (s, rest)))
    (cut : p ++ q = c :: w) (hq : q ≠ []) : readOpening p = .error .endOfText := by
  match p with
  | [] => rfl
  | d :: p =>
    obtain ⟨rfl, behind⟩ := List.cons.inj cut
    rw [opened, readWord_cut behind.symm hq, error_bind]

/-- A spelling that is cut ends too early, or is the spelling of a smaller integer. -/
theorem readOpening_cut {s : Shape} {p q : List Char} (h : OpeningSpelling s (p ++ q))
    (hq : q ≠ []) : readOpening p = .error .endOfText ∨
      ∃ z m, s = .integer z ∧ Within z m ∧ readOpening p = .ok (.integer m, []) := by
  generalize cut : p ++ q = w at h
  cases h with
  | null => exact .inl (readOpening_literal_cut (fun _ => rfl) cut hq)
  | bool b => cases b <;> exact .inl (readOpening_literal_cut (fun _ => rfl) cut hq)
  | @integer z _ h fit =>
    subst cut
    obtain early | ⟨m, within, read⟩ := readOpening_integer_cut h fit hq
    · exact .inl early
    · exact .inr ⟨z, m, rfl, within, read⟩
  | @string s w h =>
    match p with
    | [] => exact .inl rfl
    | c :: p =>
      have quote : c = '"' := by
        cases h
        exact (List.cons.inj cut).1
      subst quote cut
      have early := readString_cut h hq
      rw [readOpening_quote, early]
      exact .inl rfl
  | sequence | map =>
    obtain rfl := eq_nil_of_cut cut hq
    exact .inl rfl

/-- A numeral is read as a number. -/
theorem number_of_readNumeral {negative : Bool} {s : Shape} {cs rest : List Char}
    (h : readNumeral negative cs = .ok (s, rest)) :
    (∃ z, s = .integer z) ∨ ∃ sign magnitude, s = .floating sign magnitude := by
  obtain ⟨⟨whole, _⟩, -, later⟩ := bind_eq_ok_iff.mp h
  obtain ⟨⟨fraction, _⟩, -, later'⟩ := bind_eq_ok_iff.mp later
  obtain ⟨⟨exponent, _⟩, -, done⟩ := bind_eq_ok_iff.mp later'
  dsimp only at done
  split at done
  · rename_i shape number
    obtain ⟨rfl, -⟩ : shape = s ∧ _ := by simpa using done
    unfold numeral? at number
    split at number
    · exact .inl ⟨_, (Option.some.inj number).symm⟩
    · obtain ⟨magnitude, -, rfl⟩ := Option.map_eq_some_iff.mp number
      exact .inr ⟨_, _, rfl⟩
  · contradiction

/-- What is read as a numeral is an integer with its sign, unless it is a floating point number. -/
theorem OpeningSpelling.of_readNumeral {negative : Bool} {s : Shape} {cs rest : List Char}
    (h : readNumeral negative cs = .ok (s, rest)) (isScalar : ∀ n m, s ≠ .floating n m) :
    ∃ w, OpeningSpelling s ((if negative then ['-'] else []) ++ w) ∧ cs = w ++ rest := by
  obtain ⟨z, rfl⟩ | ⟨n, m, rfl⟩ := number_of_readNumeral h
  · obtain ⟨n, written, rfl⟩ := exists_of_readNumeral h
    obtain ⟨fit, ⟨rfl, rfl⟩ | ⟨rfl, positive, rfl⟩⟩ := integer?_toDigits_iff.mp written
    · exact ⟨_, .integer (.nonneg n) fit, rfl⟩
    · exact ⟨_, .integer (.neg positive) fit, rfl⟩
  · exact absurd rfl (isScalar n m)

/-- A scalar that is no number. -/
inductive WordSpelling : Spelling Shape
  | null : WordSpelling .null nullWord
  | bool (b : Bool) : WordSpelling (.bool b) (boolWord b)
  | string {s : String} {w : List Char} (h : TextSpelling s w) : WordSpelling (.string s) w

theorem WordSpelling.opening {s : Shape} {w : List Char} (h : WordSpelling s w) :
    OpeningSpelling s w := by
  cases h with
  | null => exact .null
  | bool b => exact .bool b
  | string h => exact .string h

/-- What is read as a value is a word or string, a numeral behind its sign, or what is read behind
an opening bracket or brace. -/
theorem cases_of_readValue {array object : Reader Shape} {s : Shape} {cs rest : List Char}
    (h : readValue array object cs = .ok (s, rest)) :
    (∃ w, WordSpelling s w ∧ skipBlanks cs = w ++ rest) ∨
      (∃ negative left, skipBlanks cs = (if negative then ['-'] else []) ++ left ∧
        readNumeral negative left = .ok (s, rest)) ∨
      (∃ left, skipBlanks cs = '[' :: left ∧ array left = .ok (s, rest)) ∨
      ∃ left, skipBlanks cs = '{' :: left ∧ object left = .ok (s, rest) := by
  unfold readValue at h
  split at h
  · contradiction
  · rename_i left front
    exact .inr (.inr (.inl ⟨left, front, h⟩))
  · rename_i left front
    exact .inr (.inr (.inr ⟨left, front, h⟩))
  · rename_i left front
    obtain ⟨⟨value, behind⟩, read, done⟩ := bind_eq_ok_iff.mp h
    obtain ⟨rfl, rfl⟩ : Shape.string value = s ∧ behind = rest := by simpa using done
    obtain ⟨m, spelt, rfl⟩ := readString_eq_ok_iff.mp read
    exact .inl ⟨'"' :: m, .string spelt, front⟩
  · rename_i left front
    obtain ⟨behind, read, done⟩ := bind_eq_ok_iff.mp h
    obtain ⟨rfl, rfl⟩ : Shape.null = s ∧ behind = rest := by simpa using done
    exact .inl ⟨nullWord, .null, by rw [front, eq_append_of_readWord read]; rfl⟩
  · rename_i left front
    obtain ⟨behind, read, done⟩ := bind_eq_ok_iff.mp h
    obtain ⟨rfl, rfl⟩ : Shape.bool true = s ∧ behind = rest := by simpa using done
    exact .inl ⟨boolWord true, .bool true, by rw [front, eq_append_of_readWord read]; rfl⟩
  · rename_i left front
    obtain ⟨behind, read, done⟩ := bind_eq_ok_iff.mp h
    obtain ⟨rfl, rfl⟩ : Shape.bool false = s ∧ behind = rest := by simpa using done
    exact .inl ⟨boolWord false, .bool false, by rw [front, eq_append_of_readWord read]; rfl⟩
  · rename_i left front
    exact .inr (.inl ⟨true, left, front, h⟩)
  · rename_i c left _ _ _ _ _ _ _ front
    split at h
    · exact .inr (.inl ⟨false, c :: left, front, h⟩)
    · contradiction

/-- What is read as a shape spells it, unless it is a floating point number. -/
theorem exists_of_readOpening {s : Shape} {cs rest : List Char}
    (h : readOpening cs = .ok (s, rest)) (isScalar : ∀ n m, s ≠ .floating n m) :
    ∃ w, OpeningSpelling s w ∧ skipBlanks cs = w ++ rest := by
  obtain ⟨w, spelt, front⟩ | ⟨negative, left, front, read⟩ | ⟨left, front, done⟩ |
    ⟨left, front, done⟩ := cases_of_readValue h
  · exact ⟨w, spelt.opening, front⟩
  · obtain ⟨w, spelt, rfl⟩ := OpeningSpelling.of_readNumeral read isScalar
    exact ⟨_, spelt, by rw [front, List.append_assoc]⟩
  · obtain ⟨rfl, rfl⟩ : Shape.sequence = s ∧ left = rest := by simpa using done
    exact ⟨['['], .sequence, front⟩
  · obtain ⟨rfl, rfl⟩ : Shape.map = s ∧ left = rest := by simpa using done
    exact ⟨['{'], .map, front⟩

end GuardedSms.Json
