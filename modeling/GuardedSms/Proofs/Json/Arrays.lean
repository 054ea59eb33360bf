import GuardedSms.Proofs.Json.Reading

/-!
# Reading arrays

If the items are read exactly as they are spelled, so are arrays of them: with commas between the
items, none at the end, and blanks around every token.

## Main statements

* `exists_of_readItems`: what is read as an array is a spelling of its items.
* `readItems_append`: a spelling of an array is read whole, whatever follows.
* `readItems_cut`: a cut array ends too early.
-/
namespace GuardedSms.Json

section Arrays

variable {α : Type} {r : Reader α} {item : Spelling α}

/-! ## One step -/

theorem readMoreItems_end {cs : List Char} (h : skipBlanks cs = []) (fuel : Nat) :
    readMoreItems r fuel cs = .error .endOfText := by
  cases fuel with
  | zero => rfl
  | succ fuel => rw [readMoreItems, h]

theorem readMoreItems_close {cs rest : List Char} (h : skipBlanks cs = ']' :: rest) (fuel : Nat) :
    readMoreItems r (fuel + 1) cs = .ok ([], rest) := by
  simp [readMoreItems, h]

/-- Behind a comma an item is read, and then the others. -/
theorem readMoreItems_comma (skips : ∀ cs, r (skipBlanks cs) = r cs) {cs behind : List Char}
    (h : skipBlanks cs = ',' :: behind) {c : Char} {t : List Char}
    (front : skipBlanks behind = c :: t) (noEnd : c ≠ ']') (fuel : Nat) :
    readMoreItems r (fuel + 1) cs = (do
      let (first, rest) ← r behind
      let (more, rest) ← readMoreItems r fuel rest
      return (first :: more, rest)) := by
  rw [← skips behind]
  simp only [readMoreItems, h, front]
  split
  · grind
  · grind
  · rfl

theorem readItems_first (skips : ∀ cs, r (skipBlanks cs) = r cs) {cs : List Char} {c : Char}
    {t : List Char} (front : skipBlanks cs = c :: t) (noEnd : c ≠ ']') :
    readItems r cs = (do
      let (first, rest) ← r cs
      let (more, rest) ← readMoreItems r rest.length rest
      return (first :: more, rest)) := by
  rw [← skips cs]
  simp only [readItems, front]
  split
  · grind
  · grind
  · rfl

/-! ## What stands behind an item -/

/-- No item of an array runs into what follows it. -/
theorem MoreItemsSpelling.delimits {xs : List α} {m : List Char}
    (h : MoreItemsSpelling item xs m) (rest : List Char) : Delimits (m ++ rest) := by
  cases h with
  | close blanks =>
    rw [List.append_assoc]
    exact blanks.delimits (by decide) _
  | item before _ _ _ =>
    rw [List.append_assoc]
    exact before.delimits (by decide) _

/-! ## Items -/

theorem readMoreItems_append (reads : Reads Delimits r item) {xs : List α} {m : List Char}
    (h : MoreItemsSpelling item xs m) {fuel : Nat} (enough : m.length ≤ fuel) (rest : List Char) :
    readMoreItems r fuel (m ++ rest) = .ok (xs, rest) := by
  induction h generalizing fuel with
  | @close b blanks =>
    obtain ⟨fuel, rfl⟩ : ∃ n, fuel = n + 1 := ⟨fuel - 1, by simp at enough; omega⟩
    rw [List.append_assoc]
    exact readMoreItems_close (skipBlanks_append blanks _) fuel
  | @item x xs b b' w m before after spelt more ih =>
    obtain ⟨fuel, rfl⟩ : ∃ n, fuel = n + 1 := ⟨fuel - 1, by simp at enough; omega⟩
    obtain ⟨c, t, front, noEnd⟩ := reads.front after spelt (m ++ rest)
    have comma := skipBlanks_append before (',' :: (b' ++ (w ++ (m ++ rest))))
    have first := reads.complete_behind after spelt (more.delimits rest)
    have others : readMoreItems r fuel (m ++ rest) = .ok (xs, rest) :=
      ih (by simp at enough; omega)
    rw [List.append_assoc, List.cons_append, List.append_assoc, List.append_assoc,
      readMoreItems_comma reads.skips comma front noEnd]
    simp only [first, others, ok_bind, pure_eq_ok]

/-- What is read behind an item are the other items of an array. -/
theorem exists_of_readMoreItems
    (sound : ∀ {cs a rest}, r cs = .ok (a, rest) → ∃ w, item a w ∧ skipBlanks cs = w ++ rest)
    {fuel : Nat} {xs : List α} {cs rest : List Char}
    (h : readMoreItems r fuel cs = .ok (xs, rest)) :
    ∃ m, MoreItemsSpelling item xs m ∧ cs = m ++ rest := by
  induction fuel generalizing cs xs with
  | zero => contradiction
  | succ fuel ih =>
    obtain ⟨b, before, split⟩ := exists_blanks cs
    rw [readMoreItems] at h
    split at h
    · contradiction
    · rename_i left front
      obtain ⟨rfl, rfl⟩ : [] = xs ∧ left = rest := by simpa using h
      exact ⟨b ++ [']'], .close before, by rw [split, front]; simp⟩
    · rename_i behind front
      obtain ⟨b', after, split'⟩ := exists_blanks behind
      split at h
      · contradiction
      · contradiction
      · obtain ⟨⟨first, left⟩, read, later⟩ := bind_eq_ok_iff.mp h
        obtain ⟨⟨more, left'⟩, readMore, done⟩ := bind_eq_ok_iff.mp later
        obtain ⟨rfl, rfl⟩ : first :: more = xs ∧ left' = rest := by simpa using done
        obtain ⟨m, others, rfl⟩ := ih readMore
        obtain ⟨w, spelt, front'⟩ := sound read
        rw [skipBlanks_skipBlanks] at front'
        exact ⟨_, .item before after spelt others, by rw [split, front, split', front']; simp⟩
    · contradiction

/-- Items that are cut before the closing bracket end too early. -/
theorem readMoreItems_cut (reads : Reads Delimits r item) {xs : List α} {p q : List Char}
    (h : MoreItemsSpelling item xs (p ++ q)) (hq : q ≠ []) (fuel : Nat) :
    readMoreItems r fuel p = .error .endOfText := by
  generalize cut : p ++ q = m at h
  induction h generalizing p fuel with
  | @close b blanks =>
    obtain early | ⟨p', -, behind⟩ := skipBlanks_cut_mark blanks (by decide) cut.symm
    · exact readMoreItems_end early fuel
    · exact absurd (List.append_eq_nil_iff.mp behind.symm).2 hq
  | @item x xs b b' w m before after spelt more ih =>
    obtain early | ⟨p', comma, behind⟩ := skipBlanks_cut_mark before (by decide) cut.symm
    · exact readMoreItems_end early fuel
    have ends : ∀ p', m = p' ++ q → Delimits p' := by
      rintro p' rfl
      exact (more.delimits []).of_append.of_append
    cases fuel with
    | zero => rfl
    | succ fuel =>
      obtain early | ⟨c, t, front, noEnd⟩ := reads.front_cut after spelt behind
      · simp [readMoreItems, comma, early]
      · rw [readMoreItems_comma reads.skips comma front noEnd]
        obtain early | ⟨_, whole⟩ | ⟨p'', whole, later⟩ := reads.cut_behind after spelt ends behind
        · rw [early, error_bind]
        · have ended : readMoreItems r fuel [] = .error .endOfText := readMoreItems_end rfl fuel
          simp [whole, ended]
        · simp [whole, ih fuel later.symm]

/-! ## Arrays -/

/-- A spelling of an array is read whole, whatever follows. -/
theorem readItems_append (reads : Reads Delimits r item) {xs : List α} {w : List Char}
    (h : ListSpelling item xs ('[' :: w)) (rest : List Char) :
    readItems r (w ++ rest) = .ok (xs, rest) := by
  cases h with
  | empty blanks =>
    rw [List.append_assoc, readItems, skipBlanks_append blanks]
    rfl
  | @items _ _ _ _ m blanks spelt more =>
    obtain ⟨c, t, front, noEnd⟩ := reads.front blanks spelt (m ++ rest)
    have first := reads.complete_behind blanks spelt (more.delimits rest)
    have enough : m.length ≤ (m ++ rest).length := by simp
    have others := readMoreItems_append reads more enough rest
    rw [List.append_assoc, List.append_assoc, readItems_first reads.skips front noEnd]
    simp only [first, others, ok_bind, pure_eq_ok]

/-- What is read behind an opening bracket are the items of an array. -/
theorem exists_of_readItems
    (sound : ∀ {cs a rest}, r cs = .ok (a, rest) → ∃ w, item a w ∧ skipBlanks cs = w ++ rest)
    {xs : List α} {cs rest : List Char} (h : readItems r cs = .ok (xs, rest)) :
    ∃ w, ListSpelling item xs ('[' :: w) ∧ cs = w ++ rest := by
  obtain ⟨b, blanks, split⟩ := exists_blanks cs
  rw [readItems] at h
  split at h
  · contradiction
  · rename_i left front
    obtain ⟨rfl, rfl⟩ : [] = xs ∧ left = rest := by simpa using h
    exact ⟨b ++ [']'], .empty blanks, by rw [split, front]; simp⟩
  · obtain ⟨⟨first, left⟩, read, later⟩ := bind_eq_ok_iff.mp h
    obtain ⟨⟨more, left'⟩, readMore, done⟩ := bind_eq_ok_iff.mp later
    obtain ⟨rfl, rfl⟩ : first :: more = xs ∧ left' = rest := by simpa using done
    obtain ⟨m, others, rfl⟩ := exists_of_readMoreItems sound readMore
    obtain ⟨w, spelt, front⟩ := sound read
    rw [skipBlanks_skipBlanks] at front
    exact ⟨_, .items blanks spelt others, by rw [split, front]; simp⟩

/-- An array that is cut before its closing bracket ends too early. -/
theorem readItems_cut (reads : Reads Delimits r item) {xs : List α} {p q : List Char}
    (h : ListSpelling item xs ('[' :: (p ++ q))) (hq : q ≠ []) :
    readItems r p = .error .endOfText := by
  generalize cut : p ++ q = w at h
  cases h with
  | empty blanks =>
    obtain early | ⟨p', -, behind⟩ := skipBlanks_cut_mark blanks (by decide) cut.symm
    · rw [readItems, early]
    · exact absurd (List.append_eq_nil_iff.mp behind.symm).2 hq
  | @items _ _ _ _ m blanks spelt more =>
    have ends : ∀ p', m = p' ++ q → Delimits p' := by
      rintro p' rfl
      exact (more.delimits []).of_append.of_append
    obtain early | ⟨c, t, front, noEnd⟩ := reads.front_cut blanks spelt cut.symm
    · rw [readItems, early]
    · rw [readItems_first reads.skips front noEnd]
      obtain early | ⟨_, whole⟩ | ⟨p', whole, later⟩ :=
        reads.cut_behind blanks spelt ends cut.symm
      · rw [early, error_bind]
      · rw [whole]
        rfl
      · subst later
        simp [whole, readMoreItems_cut reads more hq]

end Arrays

end GuardedSms.Json
