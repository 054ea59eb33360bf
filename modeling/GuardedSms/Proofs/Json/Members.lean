import GuardedSms.Proofs.Json.Texts
import GuardedSms.Proofs.Json.Writing

/-!
# Reading the members of a written object

The reader of members hands every member on with what was made of the earlier ones. If each member
is taken whole and takes the state one step further, a written object takes it all the way.

## Main definitions

* `ReadsMember`: a member takes one state to another.
* `ReadsMembers`: members take one state to another, from the left to the right.

## Main statements

* `readMembers_append`: a written object is read whole, whatever follows.
* `readMembers_cut`: a written object that is cut before its closing brace ends too early.
-/
namespace GuardedSms.Json

section Members

variable {σ : Type} {member : σ → String → Reader σ}

/-- A member is read from its colon on, and takes one state to another. If its value is cut, the
text ends too early or nothing is left of it. -/
structure ReadsMember (member : σ → String → Reader σ) (s : σ) (key : String) (value : Json)
    (s' : σ) : Prop where
  whole : ∀ {rest}, Delimits rest → member s key (':' :: (value.chars ++ rest)) = .ok (s', rest)
  cut : ∀ {p q}, ':' :: value.chars = p ++ q → q ≠ [] →
    member s key p = .error .endOfText ∨ ∃ t, member s key p = .ok (t, [])

/-- Members are read one after the other. -/
inductive ReadsMembers (member : σ → String → Reader σ) : σ → List (String × Json) → σ → Prop
  | nil (s : σ) : ReadsMembers member s [] s
  | cons {s t u : σ} {key : String} {value : Json} {members : List (String × Json)}
      (first : ReadsMember member s key value t) (more : ReadsMembers member t members u) :
      ReadsMembers member s ((key, value) :: members) u

theorem delimits_moreMembers (members : List (String × Json)) (rest : List Char) :
    Delimits (moreMembers members ++ rest) := by
  cases members with
  | nil =>
    rw [moreMembers]
    exact blanks_nil.delimits (c := '}') (by decide) rest
  | cons m members =>
    rw [moreMembers]
    exact blanks_nil.delimits (c := ',') (by decide) _

theorem delimits_of_moreMembers (members : List (String × Json)) {q : List Char} (p : List Char)
    (split : moreMembers members = p ++ q) : Delimits p := by
  have whole := delimits_moreMembers members []
  rw [split] at whole
  exact whole.of_append.of_append

/-! ## One member -/

theorem exists_cons_quoted (s : String) : ∃ k, quoted s = '"' :: k ∧ TextSpelling s ('"' :: k) :=
  ⟨_, rfl, textSpelling_quoted s⟩

/-- Read a member from behind the opening quote of its key. -/
def readKeyed (member : σ → String → Reader σ) (s : σ) : Reader σ := fun cs => do
  let (key, rest) ← readString cs
  member s key rest

theorem readMembers_quote (s : σ) (cs : List Char) :
    readMembers member s ('"' :: cs) = (readKeyed member s cs >>= fun p =>
      readMoreMembers member p.2.length p.1 p.2) := by
  simp only [readKeyed, bind_assoc]
  rfl

theorem readMoreMembers_comma (s : σ) (fuel : Nat) (cs : List Char) :
    readMoreMembers member (fuel + 1) s (',' :: '"' :: cs) = (readKeyed member s cs >>= fun p =>
      readMoreMembers member fuel p.1 p.2) := by
  simp only [readKeyed, bind_assoc]
  rfl

variable {s s' : σ} {key : String} {value : Json} {k : List Char}

theorem readKeyed_append (hk : TextSpelling key ('"' :: k)) (h : ReadsMember member s key value s')
    {rest : List Char} (ends : Delimits rest) :
    readKeyed member s (k ++ ':' :: (value.chars ++ rest)) = .ok (s', rest) := by
  rw [readKeyed, readString_eq_ok_iff.mpr ⟨k, hk, rfl⟩]
  exact h.whole ends

/-- A text that is cut at a member or behind it: the member ends too early, or is read with nothing
left, or the cut lies behind it. -/
theorem readKeyed_cut (hk : TextSpelling key ('"' :: k)) (h : ReadsMember member s key value s')
    {m p q : List Char} (ends : ∀ p', m = p' ++ q → Delimits p')
    (cut : k ++ ':' :: (value.chars ++ m) = p ++ q) :
    readKeyed member s p = .error .endOfText ∨ (∃ t, readKeyed member s p = .ok (t, [])) ∨
      ∃ p', readKeyed member s p = .ok (s', p') ∧ m = p' ++ q := by
  obtain ⟨q', hq', rfl⟩ | ⟨p₁, rfl, cut₁⟩ := cut_append cut
  · exact .inl (by rw [readKeyed, readString_cut hk hq', error_bind])
  · rw [readKeyed, readString_eq_ok_iff.mpr ⟨k, hk, rfl⟩, ok_bind]
    rw [← List.cons_append] at cut₁
    obtain ⟨q', hq', early⟩ | ⟨p₂, rfl, cut₂⟩ := cut_append cut₁
    · exact (h.cut early hq').imp id .inl
    · exact .inr (.inr ⟨p₂, h.whole (ends p₂ cut₂), cut₂⟩)

/-! ## The members after the first -/

/-- The members after the first are read whole; their length is fuel enough. -/
theorem readMoreMembers_append {members : List (String × Json)}
    (h : ReadsMembers member s members s') {fuel : Nat}
    (enough : (moreMembers members).length ≤ fuel) (rest : List Char) :
    readMoreMembers member fuel s (moreMembers members ++ rest) = .ok (s', rest) := by
  induction h generalizing fuel with
  | nil s =>
    obtain ⟨fuel, rfl⟩ : ∃ n, fuel = n + 1 := ⟨fuel - 1, by simp [moreMembers] at enough; omega⟩
    rfl
  | @cons s t u key value members first more ih =>
    rw [moreMembers] at enough ⊢
    obtain ⟨fuel, rfl⟩ : ∃ n, fuel = n + 1 := ⟨fuel - 1, by simp at enough; omega⟩
    have others : readMoreMembers member fuel t (moreMembers members ++ rest) = .ok (u, rest) :=
      ih (by simp at enough; omega)
    obtain ⟨k, written, hk⟩ := exists_cons_quoted key
    have keyed := readKeyed_append hk first (delimits_moreMembers members rest)
    simp only [written, List.cons_append, List.append_assoc]
    rw [readMoreMembers_comma, keyed]
    exact others

/-- Members that are cut before the closing brace end too early. -/
theorem readMoreMembers_cut {members : List (String × Json)} (h : ReadsMembers member s members s')
    {p q : List Char} (cut : moreMembers members = p ++ q) (hq : q ≠ []) (fuel : Nat) :
    readMoreMembers member fuel s p = .error .endOfText := by
  induction h generalizing p fuel with
  | nil s =>
    rw [moreMembers] at cut
    obtain rfl := eq_nil_of_cut cut.symm hq
    cases fuel <;> rfl
  | @cons s t u key value members first more ih =>
    obtain ⟨k, written, hk⟩ := exists_cons_quoted key
    simp only [moreMembers, written, List.cons_append] at cut
    match fuel, p with
    | 0, _ => rfl
    | fuel + 1, [] => rfl
    | fuel + 1, [c] =>
      obtain ⟨rfl, -⟩ := List.cons.inj cut
      rfl
    | fuel + 1, c :: d :: p =>
      obtain ⟨rfl, rfl, cut'⟩ : ',' = c ∧ '"' = d ∧
        k ++ ':' :: (value.chars ++ moreMembers members) = p ++ q := by simpa using cut
      rw [readMoreMembers_comma]
      obtain early | ⟨_, whole⟩ | ⟨p', whole, later⟩ :=
        readKeyed_cut hk first (delimits_of_moreMembers members) cut'
      · rw [early, error_bind]
      · rw [whole, ok_bind]
        cases fuel <;> rfl
      · rw [whole, ok_bind]
        exact ih later fuel

/-! ## Objects -/

/-- A written object is read whole, whatever follows. -/
theorem readMembers_append {members : List (String × Json)} (h : ReadsMembers member s members s')
    {w : List Char} (written : (obj members).chars = '{' :: w) (rest : List Char) :
    readMembers member s (w ++ rest) = .ok (s', rest) := by
  cases h with
  | nil =>
    obtain rfl : ['}'] = w := by simpa [chars] using written
    rfl
  | @cons _ t _ key value members first more =>
    obtain ⟨k, quote, hk⟩ := exists_cons_quoted key
    obtain rfl : '"' :: (k ++ ':' :: (value.chars ++ moreMembers members)) = w := by
      simpa [chars, quote] using written
    have keyed := readKeyed_append hk first (delimits_moreMembers members rest)
    have enough : (moreMembers members).length ≤ (moreMembers members ++ rest).length := by simp
    simp only [List.cons_append, List.append_assoc]
    rw [readMembers_quote, keyed]
    exact readMoreMembers_append more enough rest

/-- A written object that is cut before its closing brace ends too early. -/
theorem readMembers_cut {members : List (String × Json)} (h : ReadsMembers member s members s')
    {p q : List Char} (written : (obj members).chars = '{' :: (p ++ q)) (hq : q ≠ []) :
    readMembers member s p = .error .endOfText := by
  cases h with
  | nil =>
    obtain cut : ['}'] = p ++ q := by simpa [chars] using written
    obtain rfl := eq_nil_of_cut cut.symm hq
    rfl
  | @cons _ t _ key value members first more =>
    obtain ⟨k, quote, hk⟩ := exists_cons_quoted key
    have cut : '"' :: (k ++ ':' :: (value.chars ++ moreMembers members)) = p ++ q := by
      simpa [chars, quote] using written
    cases p with
    | nil => rfl
    | cons c p =>
      obtain ⟨rfl, cut'⟩ := List.cons.inj cut
      rw [readMembers_quote]
      obtain early | ⟨_, whole⟩ | ⟨p', whole, later⟩ :=
        readKeyed_cut hk first (delimits_of_moreMembers members) cut'
      · rw [early, error_bind]
      · rw [whole]
        rfl
      · rw [whole, ok_bind]
        exact readMoreMembers_cut more later hq _

end Members

end GuardedSms.Json
