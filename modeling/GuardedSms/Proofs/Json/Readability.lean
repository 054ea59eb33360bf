import GuardedSms.Proofs.Json.Shapes

/-!
# Unique readability

A written value is not the beginning of another one, unless that begins with more digits. So a text
that starts with a written value, and goes on with something that is not part of a number, can be
taken apart in one way only. The first character tells the kind of the value; arrays and objects are
taken apart from the left to the right.

## Main definitions

* `Lead`: the kinds of values that can be told apart by their first character.

## Main statements

* `chars_append_inj`: the value and the rest of a text are determined by the text.
* `chars_injective`: two values are written the same only if they are the same.
-/
namespace GuardedSms.Json

/-! ## The first character -/

/-- The kinds of values that can be told apart by their first character. -/
inductive Lead where
  | null
  | bool
  | number
  | string
  | array
  | object

def lead : Json → Lead
  | null => .null
  | bool _ => .bool
  | int _ => .number
  | str _ => .string
  | arr _ => .array
  | obj _ => .object

/-- The kind of a value that starts with a character. -/
def leadOf (c : Char) : Lead :=
  if c = 'n' then .null
  else if c = 't' ∨ c = 'f' then .bool
  else if c = '"' then .string
  else if c = '[' then .array
  else if c = '{' then .object
  else .number

theorem leadOf_digit {c : Char} (digit : isDigit c) : leadOf c = .number := by
  have other {d : Char} (h : isDigit d = false) : c ≠ d := by
    rintro rfl
    rw [digit] at h
    contradiction
  have n : c ≠ 'n' := other (by decide)
  have t : c ≠ 't' := other (by decide)
  have f : c ≠ 'f' := other (by decide)
  have quote : c ≠ '"' := other (by decide)
  have bracket : c ≠ '[' := other (by decide)
  have brace : c ≠ '\x7b' := other (by decide)
  simp [leadOf, n, t, f, quote, bracket, brace]

theorem exists_lead (j : Json) : ∃ c t, j.chars = c :: t ∧ leadOf c = j.lead := by
  cases j with
  | null => exact ⟨_, _, rfl, rfl⟩
  | bool b => cases b <;> exact ⟨_, _, rfl, rfl⟩
  | int n =>
    obtain ⟨c, t, written, rfl | digit⟩ := exists_cons_intChars n
    · exact ⟨_, t, by rw [chars, written], rfl⟩
    · exact ⟨c, t, by rw [chars, written], leadOf_digit digit⟩
  | str s => exact ⟨_, _, rfl, rfl⟩
  | arr items => cases items <;> exact ⟨'[', _, by rw [chars], rfl⟩
  | obj members => cases members <;> exact ⟨'{', _, by rw [chars], rfl⟩

/-- Texts that start with the same character start with values of the same kind. -/
theorem lead_eq {j k : Json} {r r' : List Char} (h : j.chars ++ r = k.chars ++ r') :
    j.lead = k.lead := by
  obtain ⟨c, t, written, lead⟩ := exists_lead j
  obtain ⟨c', t', written', lead'⟩ := exists_lead k
  rw [written, written'] at h
  obtain ⟨rfl, -⟩ := List.cons.inj h
  rw [← lead, lead']

/-! ## Scalars -/

theorem toDigits_append_inj {m n : Nat} {r r' : List Char} (ends : Delimits r)
    (ends' : Delimits r') (h : Nat.toDigits 10 m ++ r = Nat.toDigits 10 n ++ r') :
    m = n ∧ r = r' := by
  have taken := spanDigits_append (fun _ => isDigit_of_mem_toDigits (n := m))
    fun c first => (ends c first).1
  have taken' := spanDigits_append (fun _ => isDigit_of_mem_toDigits (n := n))
    fun c first => (ends' c first).1
  rw [h, taken'] at taken
  obtain ⟨digits, rest⟩ := Prod.mk.inj taken
  refine ⟨?_, rest.symm⟩
  calc m = Nat.ofDigitChars 10 (Nat.toDigits 10 m) 0 := Nat.ofDigitChars_ten_toDigits.symm
    _ = Nat.ofDigitChars 10 (Nat.toDigits 10 n) 0 := by rw [digits]
    _ = n := Nat.ofDigitChars_ten_toDigits

/-- Digits do not start with a minus sign. -/
theorem toDigits_append_ne {n : Nat} {r t : List Char} : Nat.toDigits 10 n ++ r ≠ '-' :: t := by
  intro h
  obtain ⟨c, s, digits, digit⟩ := exists_cons_toDigits n
  rw [digits] at h
  obtain ⟨rfl, -⟩ := List.cons.inj h
  contradiction

theorem intChars_append_inj {m n : Int} {r r' : List Char} (ends : Delimits r)
    (ends' : Delimits r') (h : intChars m ++ r = intChars n ++ r') : m = n ∧ r = r' := by
  match m, n with
  | .ofNat m, .ofNat n =>
    obtain ⟨rfl, rest⟩ := toDigits_append_inj ends ends' h
    exact ⟨rfl, rest⟩
  | .negSucc m, .negSucc n =>
    obtain ⟨same, rest⟩ := toDigits_append_inj ends ends' (List.cons.inj h).2
    obtain rfl : m = n := Nat.succ.inj same
    exact ⟨rfl, rest⟩
  | .ofNat m, .negSucc n => exact absurd h toDigits_append_ne
  | .negSucc m, .ofNat n => exact absurd h.symm toDigits_append_ne

/-- A string ends at the first quote that is not escaped, so it is read back. -/
theorem quoted_append_inj {s t : String} {r r' : List Char}
    (h : quoted s ++ r = quoted t ++ r') : s = t ∧ r = r' := by
  obtain ⟨m, written, spelt⟩ := exists_cons_quoted s
  obtain ⟨m', written', spelt'⟩ := exists_cons_quoted t
  rw [written, written'] at h
  have read : readString (m ++ r) = .ok (s, r) := readString_eq_ok_iff.mpr ⟨m, spelt, rfl⟩
  have read' : readString (m' ++ r') = .ok (t, r') := readString_eq_ok_iff.mpr ⟨m', spelt', rfl⟩
  have same : m ++ r = m' ++ r' := (List.cons.inj h).2
  rw [same, read'] at read
  obtain ⟨rfl, rfl⟩ : t = s ∧ r' = r := by simpa using read
  exact ⟨rfl, rfl⟩

/-! ## All values -/

theorem close_ne_chars_append (j : Json) {r t : List Char} : ']' :: t ≠ j.chars ++ r := by
  intro h
  obtain ⟨c, s, written, -, other⟩ := exists_cons_chars j
  rw [written] at h
  exact other (List.cons.inj h).1.symm

mutual

/-- A text that starts with a written value, and goes on with what is not part of a number, can be
taken apart in one way only. -/
theorem chars_append_inj (j k : Json) {r r' : List Char} (ends : Delimits r) (ends' : Delimits r')
    (h : j.chars ++ r = k.chars ++ r') : j = k ∧ r = r' := by
  match j, k, lead_eq h with
  | null, null, _ => exact ⟨rfl, List.append_cancel_left h⟩
  | bool a, bool b, _ => cases a <;> cases b <;> simp_all [chars]
  | int m, int n, _ =>
    obtain ⟨rfl, rest⟩ := intChars_append_inj ends ends' h
    exact ⟨rfl, rest⟩
  | str s, str t, _ =>
    obtain ⟨rfl, rest⟩ := quoted_append_inj h
    exact ⟨rfl, rest⟩
  | arr [], arr [], _ => exact ⟨rfl, List.append_cancel_left h⟩
  | arr [], arr (item :: items), _ =>
    have closed : ']' :: r = item.chars ++ (moreItems items ++ r') := by simpa [chars] using h
    exact absurd closed (close_ne_chars_append item)
  | arr (item :: items), arr [], _ =>
    have closed : item.chars ++ (moreItems items ++ r) = ']' :: r' := by simpa [chars] using h
    exact absurd closed.symm (close_ne_chars_append item)
  | arr (item :: items), arr (item' :: items'), _ =>
    -- Behind the bracket the first item stands like any other behind its comma.
    have more : moreItems (item :: items) ++ r = moreItems (item' :: items') ++ r' := by
      simpa [chars, moreItems] using h
    obtain ⟨same, rest⟩ := moreItems_append_inj (item :: items) (item' :: items') more
    exact ⟨congrArg arr same, rest⟩
  | obj [], obj [], _ => exact ⟨rfl, List.append_cancel_left h⟩
  | obj [], obj ((_, _) :: _), _ | obj ((_, _) :: _), obj [], _ => simp [chars, quoted] at h
  | obj ((key, value) :: members), obj ((key', value') :: members'), _ =>
    have more : moreMembers ((key, value) :: members) ++ r =
        moreMembers ((key', value') :: members') ++ r' := by
      simpa [chars, moreMembers] using h
    obtain ⟨same, rest⟩ :=
      moreMembers_append_inj ((key, value) :: members) ((key', value') :: members') more
    exact ⟨congrArg obj same, rest⟩

theorem moreItems_append_inj (items items' : List Json) {r r' : List Char}
    (h : moreItems items ++ r = moreItems items' ++ r') : items = items' ∧ r = r' := by
  match items, items' with
  | [], [] => exact ⟨rfl, List.append_cancel_left h⟩
  | [], _ :: _ | _ :: _, [] => simp [moreItems] at h
  | item :: items, item' :: items' =>
    have parts : item.chars ++ (moreItems items ++ r) =
        item'.chars ++ (moreItems items' ++ r') := by simpa [moreItems] using h
    obtain ⟨rfl, more⟩ := chars_append_inj item item' (delimits_moreItems items r)
      (delimits_moreItems items' r') parts
    obtain ⟨rfl, rest⟩ := moreItems_append_inj items items' more
    exact ⟨rfl, rest⟩

theorem moreMembers_append_inj (members members' : List (String × Json)) {r r' : List Char}
    (h : moreMembers members ++ r = moreMembers members' ++ r') : members = members' ∧ r = r' := by
  match members, members' with
  | [], [] => exact ⟨rfl, List.append_cancel_left h⟩
  | [], (_, _) :: _ | (_, _) :: _, [] => simp [moreMembers] at h
  | (key, value) :: members, (key', value') :: members' =>
    have parts : quoted key ++ ':' :: (value.chars ++ (moreMembers members ++ r)) =
        quoted key' ++ ':' :: (value'.chars ++ (moreMembers members' ++ r')) := by
      simpa [moreMembers] using h
    obtain ⟨rfl, behind⟩ := quoted_append_inj parts
    obtain ⟨rfl, more⟩ := chars_append_inj value value' (delimits_moreMembers members r)
      (delimits_moreMembers members' r') (List.cons.inj behind).2
    obtain ⟨rfl, rest⟩ := moreMembers_append_inj members members' more
    exact ⟨rfl, rest⟩

end

/-- Two values are written the same only if they are the same. -/
theorem chars_injective {j k : Json} (h : j.chars = k.chars) : j = k := by
  have ends : Delimits [] := by simp [Delimits]
  exact (chars_append_inj j k ends ends (congrArg (· ++ []) h)).1

end GuardedSms.Json
