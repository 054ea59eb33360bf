import GuardedSms.Outcome.Codec
import GuardedSms.Proofs.Payload.Reading

/-!
# Reading outcomes

An outcome is read exactly as it is spelled, if its payload is: as an object with one member whose
key tells success from failure.

## Main statements

* `reads_reader`: the reader of outcomes reads their spellings, whatever follows.
-/
namespace GuardedSms.Outcome

open Json

variable {α β : Type} {payload : Reader α}

/-! ## One step -/

/-- Read the end of an object behind its only member. -/
def close (o : Outcome α) (cs : List Char) : Except Fault (Outcome α × List Char) :=
  match skipBlanks cs with
  | [] => .error .endOfText
  | '}' :: rest => .ok (o, rest)
  | _ => .error .malformed

/-- Read a colon and the value behind it. -/
def readValueOf (r : Reader β) (f : β → Outcome α) : Reader (Outcome α) := fun cs => do
  let cs ← readColon cs
  let (value, rest) ← r cs
  return (f value, rest)

theorem readObject_eq {cs behind : List Char} (front : skipBlanks cs = '"' :: behind) :
    readObject payload cs = (readString behind >>= fun k =>
      readMember payload k.1 k.2 >>= fun o => close o.1 o.2) := by
  simp only [readObject, front]
  rfl

theorem readMember_success (cs : List Char) :
    readMember payload "Success" cs = readValueOf payload success cs := rfl

theorem readMember_failure (cs : List Char) :
    readMember payload "Failure" cs = readValueOf Payload.readText failure cs := rfl

theorem close_append {b : List Char} (blanks : Blanks b) (o : Outcome α) (rest : List Char) :
    close o (b ++ '}' :: rest) = .ok (o, rest) := by
  rw [close, skipBlanks_append blanks]
  rfl

theorem exists_of_close {o o' : Outcome α} {cs rest : List Char} (h : close o cs = .ok (o', rest)) :
    o = o' ∧ ∃ b, Blanks b ∧ cs = b ++ '}' :: rest := by
  obtain ⟨b, blanks, split⟩ := exists_blanks cs
  unfold close at h
  split at h
  · contradiction
  · rename_i left front
    obtain ⟨rfl, rfl⟩ : o = o' ∧ left = rest := by simpa using h
    exact ⟨rfl, b, blanks, front ▸ split⟩
  · contradiction

theorem close_cut {b p q : List Char} (blanks : Blanks b) (cut : b ++ ['}'] = p ++ q) (hq : q ≠ [])
    (o : Outcome α) : close o p = .error .endOfText := by
  obtain early | ⟨p', -, behind⟩ := skipBlanks_cut_mark blanks (by decide) cut
  · rw [close, early]
  · exact absurd (List.append_eq_nil_iff.mp behind.symm).2 hq

/-! ## The only member -/

section SoleMember

variable {key : String} {r : Reader β} {f : β → Outcome α} {value : Spelling β}

/-- An object with one member is read whole, if its value is read as it is spelled. -/
theorem readObject_append (member : ∀ cs, readMember payload key cs = readValueOf r f cs)
    (reads : Reads Delimits r value) {a : β} {w : List Char}
    (h : SoleMemberSpelling key (value a) ('{' :: w)) (rest : List Char) :
    readObject payload (w ++ rest) = .ok (f a, rest) := by
  cases h with
  | @object b₁ _ b₂ b₃ v b₄ h₁ hk h₂ h₃ hv h₄ =>
    obtain @⟨_, m, spelt⟩ := hk
    let behind := b₂ ++ ':' :: (b₃ ++ (v ++ (b₄ ++ '}' :: rest)))
    have quote : skipBlanks (b₁ ++ '"' :: (m ++ behind)) = '"' :: (m ++ behind) :=
      skipBlanks_append h₁ _
    have readKey := readString_eq_ok_iff.mpr
      ⟨m, .quoted spelt, (rfl : m ++ behind = _)⟩
    have colon : readColon behind = .ok (b₃ ++ (v ++ (b₄ ++ '}' :: rest))) := readColon_append h₂ _
    have readValue := reads.complete_behind h₃ hv (h₄.delimits (c := '}') (by decide) rest)
    simp only [List.append_assoc, List.cons_append, List.nil_append]
    rw [readObject_eq quote, readKey]
    simp only [ok_bind, pure_eq_ok, member, readValueOf, colon, readValue, close_append h₄]

/-- An object with one member that is cut before its closing brace ends too early. -/
theorem readObject_cut (member : ∀ cs, readMember payload key cs = readValueOf r f cs)
    (reads : Reads Delimits r value) {a : β} {p q : List Char}
    (h : SoleMemberSpelling key (value a) ('{' :: (p ++ q))) (hq : q ≠ []) :
    readObject payload p = .error .endOfText := by
  generalize cut : p ++ q = w at h
  cases h with
  | @object b₁ _ b₂ b₃ v b₄ h₁ hk h₂ h₃ hv h₄ =>
    obtain @⟨_, m, spelt⟩ := hk
    -- The cut lies before, within or behind each of the four tokens, from the left to the right.
    obtain early | ⟨p₁, front, cut₁⟩ := skipBlanks_cut_mark h₁ (by decide) cut.symm
    · rw [readObject, early]
    rw [readObject_eq front]
    obtain ⟨q', hq', rfl⟩ | ⟨p₂, rfl, cut₂⟩ := cut_append cut₁
    · rw [readString_cut (.quoted spelt) hq', error_bind]
    rw [readString_eq_ok_iff.mpr ⟨m, .quoted spelt, rfl⟩, ok_bind, member, readValueOf]
    obtain early | ⟨p₃, colon, cut₃⟩ := readColon_cut h₂ cut₂
    · rw [early, error_bind, error_bind]
    have ends : ∀ p', b₄ ++ ['}'] = p' ++ q → Delimits p' := by
      intro p' split
      have whole := h₄.delimits (c := '}') (by decide) []
      rw [split] at whole
      exact whole.of_append
    rw [colon, ok_bind]
    obtain early | ⟨_, whole⟩ | ⟨p₄, whole, cut₄⟩ := reads.cut_behind h₃ hv ends cut₃
    · rw [early, error_bind, error_bind]
    · rw [whole]
      rfl
    · simp only [whole, ok_bind, pure_eq_ok, close_cut h₄ cut₄ hq]

/-- What is read behind the key of a member is a spelling of its value. -/
theorem exists_of_readValueOf (reads : Reads Delimits r value) {o : Outcome α}
    {cs rest : List Char} (h : readValueOf r f cs = .ok (o, rest)) :
    ∃ a b b' w, Blanks b ∧ Blanks b' ∧ value a w ∧ o = f a ∧
      cs = b ++ ':' :: (b' ++ (w ++ rest)) := by
  obtain ⟨behind, colon, read⟩ := bind_eq_ok_iff.mp h
  obtain ⟨⟨a, left⟩, readValue, done⟩ := bind_eq_ok_iff.mp read
  obtain ⟨rfl, rfl⟩ : f a = o ∧ left = rest := by simpa using done
  obtain ⟨b, blanks, rfl⟩ := exists_of_readColon colon
  obtain ⟨w, spelt, front⟩ := reads.sound readValue
  obtain ⟨b', blanks', split⟩ := exists_blanks behind
  exact ⟨a, b, b', w, blanks, blanks', spelt, rfl, by rw [split, front]⟩

end SoleMember

/-! ## Outcomes -/

theorem exists_brace {spelling : Spelling α} {o : Outcome α} {w : List Char}
    (h : OutcomeSpelling spelling o w) : ∃ m, w = '{' :: m := by
  cases o <;> cases h <;> exact ⟨_, rfl⟩

theorem reader_brace {cs rest : List Char} (front : skipBlanks cs = '{' :: rest) :
    reader payload cs = readObject payload rest := by
  simp [reader, front]

/-- Only a member with one of the two keys is read. -/
theorem exists_of_readMember {spelling : Spelling α} (reads : Reads Delimits payload spelling)
    {key : String} {o : Outcome α} {cs rest : List Char}
    (h : readMember payload key cs = .ok (o, rest)) :
    ∃ b b' w, Blanks b ∧ Blanks b' ∧ cs = b ++ ':' :: (b' ++ (w ++ rest)) ∧
      match o with
      | .success a => key = "Success" ∧ spelling a w
      | .failure s => key = "Failure" ∧ TextSpelling s w := by
  by_cases success : key = "Success"
  · subst success
    obtain ⟨a, b, b', w, blanks, blanks', spelt, rfl, rfl⟩ := exists_of_readValueOf reads h
    exact ⟨b, b', w, blanks, blanks', rfl, rfl, spelt⟩
  · by_cases failure : key = "Failure"
    · subst failure
      obtain ⟨a, b, b', w, blanks, blanks', spelt, rfl, rfl⟩ :=
        exists_of_readValueOf Payload.reads_readText h
      exact ⟨b, b', w, blanks, blanks', rfl, rfl, spelt⟩
    · simp [readMember, successKey, failureKey, success, failure] at h

/-- What is read behind an opening brace is an outcome. -/
theorem exists_of_readObject {spelling : Spelling α} (reads : Reads Delimits payload spelling)
    {o : Outcome α} {cs rest : List Char} (h : readObject payload cs = .ok (o, rest)) :
    ∃ w, OutcomeSpelling spelling o ('{' :: w) ∧ cs = w ++ rest := by
  obtain ⟨b₁, h₁, split₁⟩ := exists_blanks cs
  by_cases quote : (skipBlanks cs).head? = some '"'
  · obtain ⟨behind, front⟩ := List.head?_eq_some_iff.mp quote
    rw [readObject_eq front] at h
    obtain ⟨⟨key, left⟩, readKey, readRest⟩ := bind_eq_ok_iff.mp h
    obtain ⟨⟨o', left'⟩, readOne, closed⟩ := bind_eq_ok_iff.mp readRest
    obtain ⟨m, hk, rfl⟩ := readString_eq_ok_iff.mp readKey
    obtain ⟨rfl, b₄, h₄, rfl⟩ := exists_of_close closed
    obtain ⟨b₂, b₃, w, h₂, h₃, rfl, which⟩ := exists_of_readMember reads readOne
    refine ⟨b₁ ++ ('"' :: m ++ (b₂ ++ ':' :: (b₃ ++ (w ++ (b₄ ++ ['}']))))), ?_, ?_⟩
    · cases o' with
      | success a =>
        obtain ⟨rfl, hw⟩ := which
        exact .object h₁ hk h₂ h₃ hw h₄
      | failure s =>
        obtain ⟨rfl, hw⟩ := which
        exact .object h₁ hk h₂ h₃ hw h₄
    · rw [split₁, front]
      simp
  · unfold readObject at h
    split at h
    · contradiction
    · grind
    · contradiction

/-- An outcome that is cut before its closing brace ends too early. -/
theorem reader_cut {spelling : Spelling α} (reads : Reads Delimits payload spelling) {o : Outcome α}
    {p q : List Char} (h : OutcomeSpelling spelling o (p ++ q)) (hq : q ≠ []) :
    reader payload p = .error .endOfText := by
  match p with
  | [] => rfl
  | c :: p =>
    obtain ⟨m, brace⟩ := exists_brace h
    obtain ⟨rfl, -⟩ := List.cons.inj brace
    rw [reader_brace rfl]
    cases o with
    | success => exact readObject_cut readMember_success reads h hq
    | failure => exact readObject_cut readMember_failure Payload.reads_readText h hq

/-- The reader of outcomes reads their spellings, whatever follows. -/
theorem reads_reader {spelling : Spelling α} (reads : Reads Delimits payload spelling) :
    Reads Anything (reader payload) (OutcomeSpelling spelling) where
  skips cs := by simp [reader]
  opens h := by
    obtain ⟨m, rfl⟩ := exists_brace h
    exact ⟨_, _, rfl, by decide⟩
  sound {cs o rest} h := by
    unfold reader at h
    split at h
    · contradiction
    · rename_i behind front
      obtain ⟨w, spelt, rfl⟩ := exists_of_readObject reads h
      exact ⟨'{' :: w, spelt, front⟩
    · obtain ⟨_, -, thrown⟩ := bind_eq_ok_iff.mp h
      contradiction
    · contradiction
  complete {o w rest} h _ := by
    obtain ⟨m, rfl⟩ := exists_brace h
    rw [reader_brace rfl]
    cases o with
    | success => exact readObject_append readMember_success reads h rest
    | failure => exact readObject_append readMember_failure Payload.reads_readText h rest
  cut h hq := .inl (reader_cut reads h hq)

end GuardedSms.Outcome
