import GuardedSms.Json.Reader
import GuardedSms.Proofs.Json.Grammar
import Mathlib.Data.List.DropRight

/-!
# Readers and spellings

What it means that a reader reads a spelling: it takes a whole spelling and nothing else from the
front of a text, behind blanks, and of a spelling that is cut it either reports the end of the text
or reads all that is there, as it does with the first digits of a number.

## Main definitions

* `Delimits`: what may follow a number.
* `Reads`: a reader accepts exactly the spellings.
* `Holds`: a text is a spelling between blanks.
* `SelfDelimiting`: a text is decoded whole and not in part.

## Main statements

* `Reads.readAll_eq_ok_iff`: a text is accepted exactly if it holds a spelling.
-/
namespace GuardedSms.Json

variable {ε α β : Type}

/-! ## Steps of a reader -/

@[simp] theorem ok_bind (a : α) (f : α → Except ε β) : (Except.ok a >>= f) = f a := rfl

@[simp] theorem error_bind (e : ε) (f : α → Except ε β) :
    (Except.error e >>= f) = Except.error e := rfl

@[simp] theorem pure_eq_ok (a : α) : (pure a : Except ε α) = .ok a := rfl

@[simp] theorem throw_eq_error (e : ε) : (throw e : Except ε α) = .error e := rfl

theorem bind_eq_ok_iff {x : Except ε α} {f : α → Except ε β} {b : β} :
    (x >>= f) = .ok b ↔ ∃ a, x = .ok a ∧ f a = .ok b := by
  cases x <;> simp

/-! ## Blanks -/

theorem isBlank_iff {c : Char} : isBlank c = true ↔ c ∈ [' ', '\t', '\n', '\r'] := by
  simp [isBlank, or_assoc]

theorem skipBlanks_append {b : List Char} (h : Blanks b) (cs : List Char) :
    skipBlanks (b ++ cs) = skipBlanks cs := by
  simp only [skipBlanks]
  exact List.dropWhile_append_of_pos fun c hc => isBlank_iff.mpr (h c hc)

theorem skipBlanks_cons {c : Char} (h : isBlank c = false) (cs : List Char) :
    skipBlanks (c :: cs) = c :: cs := by
  simp [skipBlanks, h]

@[simp] theorem skipBlanks_nil : skipBlanks [] = [] := rfl

@[simp] theorem skipBlanks_skipBlanks (cs : List Char) :
    skipBlanks (skipBlanks cs) = skipBlanks cs :=
  List.dropWhile_idempotent isBlank cs

/-- What is skipped is blank. -/
theorem exists_blanks (cs : List Char) : ∃ b, Blanks b ∧ cs = b ++ skipBlanks cs := by
  refine ⟨cs.takeWhile isBlank, fun c hc => ?_, ?_⟩
  · exact isBlank_iff.mp (List.mem_takeWhile_imp hc)
  · simp [skipBlanks]

theorem skipBlanks_eq_nil {b : List Char} (h : Blanks b) : skipBlanks b = [] := by
  simpa using skipBlanks_append h []

/-- A text that is cut is cut within the blanks at its front or behind them. -/
theorem skipBlanks_cut {b w p q : List Char} (blanks : Blanks b) (h : b ++ w = p ++ q) :
    skipBlanks p = [] ∨ ∃ p', skipBlanks p = skipBlanks p' ∧ w = p' ++ q := by
  obtain ⟨p', rfl, rfl⟩ | ⟨b', rfl, rfl⟩ := List.append_eq_append_iff.mp h
  · exact .inr ⟨p', skipBlanks_append blanks p', rfl⟩
  · exact .inl (skipBlanks_eq_nil fun c hc => blanks c (List.mem_append_left b' hc))

/-- A text that is cut around a mark behind blanks is cut before the mark or behind it. -/
theorem skipBlanks_cut_mark {b m p q : List Char} {c : Char} (blanks : Blanks b)
    (mark : isBlank c = false) (h : b ++ c :: m = p ++ q) :
    skipBlanks p = [] ∨ ∃ p', skipBlanks p = c :: p' ∧ m = p' ++ q := by
  obtain early | ⟨p', same, behind⟩ := skipBlanks_cut blanks h
  · exact .inl early
  · cases p' with
    | nil => exact .inl same
    | cons d p' =>
      obtain ⟨rfl, later⟩ := List.cons.inj behind
      exact .inr ⟨p', same.trans (skipBlanks_cons mark p'), later⟩

/-! ## Reading exactly the spellings -/

/-- Before a cut within one character there is nothing. -/
theorem eq_nil_of_cut {c : Char} {p q : List Char} (cut : p ++ q = [c]) (hq : q ≠ []) : p = [] := by
  obtain ⟨rfl, -⟩ | ⟨-, rfl⟩ := List.append_eq_singleton_iff.mp cut
  · rfl
  · contradiction

/-- A text that is cut within the first part or behind it. -/
theorem cut_append {w m p q : List Char} (cut : w ++ m = p ++ q) :
    (∃ q', q' ≠ [] ∧ w = p ++ q') ∨ ∃ p', p = w ++ p' ∧ m = p' ++ q := by
  obtain ⟨p', rfl, rfl⟩ | ⟨q', rfl, rfl⟩ := List.append_eq_append_iff.mp cut
  · exact .inr ⟨p', rfl, rfl⟩
  · by_cases empty : q' = []
    · subst empty
      exact .inr ⟨[], by simp⟩
    · exact .inl ⟨q', empty, rfl⟩

/-- What may follow a number without becoming a part of it. -/
def Delimits (rest : List Char) : Prop :=
  ∀ c ∈ rest.head?, isDigit c = false ∧ c ≠ '.' ∧ c ≠ 'e' ∧ c ≠ 'E'

/-- Blanks and the mark behind them do not run into a number. -/
theorem Blanks.delimits {b : List Char} (h : Blanks b) {c : Char}
    (mark : c ∈ [',', ']', '}']) (rest : List Char) : Delimits (b ++ c :: rest) := by
  have stops : ∀ d ∈ [' ', '\t', '\n', '\r', ',', ']', '}'],
      isDigit d = false ∧ d ≠ '.' ∧ d ≠ 'e' ∧ d ≠ 'E' := by
    simp [isDigit]
  cases b with
  | nil =>
    rintro _ ⟨⟩
    exact stops c (List.mem_append_right [' ', '\t', '\n', '\r'] mark)
  | cons d b =>
    rintro _ ⟨⟩
    exact stops d (List.mem_append_left _ (h d List.mem_cons_self))

theorem Delimits.of_append {p q : List Char} (h : Delimits (p ++ q)) : Delimits p := by
  cases p with
  | nil => simp [Delimits]
  | cons c p => exact h

/-- Anything may follow. -/
def Anything (_ : List Char) : Prop := True

/-- A reader reads a spelling when something follows that ends it. -/
structure Reads (ends : List Char → Prop) (r : Reader α) (spelling : Spelling α) : Prop where
  /-- Blanks at the front do not count. -/
  skips : ∀ cs, r (skipBlanks cs) = r cs
  /-- No spelling is empty, starts with a blank or looks like the end of an array. -/
  opens : ∀ {a w}, spelling a w → ∃ c t, w = c :: t ∧ isBlank c = false ∧ c ≠ ']'
  /-- What is read is a spelling of the answer. -/
  sound : ∀ {cs a rest}, r cs = .ok (a, rest) → ∃ w, spelling a w ∧ skipBlanks cs = w ++ rest
  /-- A spelling is read whole. -/
  complete : ∀ {a w rest}, spelling a w → ends rest → r (w ++ rest) = .ok (a, rest)
  /-- A spelling that is cut ends too early or is read to its end. -/
  cut : ∀ {a p q}, spelling a (p ++ q) → q ≠ [] →
    r p = .error .endOfText ∨ ∃ b, r p = .ok (b, [])

section Reads

variable {ends : List Char → Prop} {r : Reader α} {spelling : Spelling α}

/-- A spelling is read behind blanks, too. -/
theorem Reads.complete_behind (h : Reads ends r spelling) {a : α} {b w rest : List Char}
    (blanks : Blanks b) (spelt : spelling a w) (e : ends rest) :
    r (b ++ (w ++ rest)) = .ok (a, rest) := by
  rw [← h.skips, skipBlanks_append blanks, h.skips]
  exact h.complete spelt e

/-- Behind blanks, a spelling starts with a character that opens a value. -/
theorem Reads.front (h : Reads ends r spelling) {a : α} {b w : List Char} (blanks : Blanks b)
    (spelt : spelling a w) (rest : List Char) :
    ∃ c t, skipBlanks (b ++ (w ++ rest)) = c :: t ∧ c ≠ ']' := by
  obtain ⟨c, t, rfl, noBlank, noEnd⟩ := h.opens spelt
  exact ⟨c, t ++ rest, by rw [skipBlanks_append blanks]; exact skipBlanks_cons noBlank _, noEnd⟩

/-- A text that is cut at a value or behind it: the value ends too early, or is read with nothing
left, or the cut lies behind it. -/
theorem Reads.cut_behind (h : Reads ends r spelling) {a : α} {b w m p q : List Char}
    (blanks : Blanks b) (spelt : spelling a w) (e : ∀ p', m = p' ++ q → ends p')
    (cut : b ++ (w ++ m) = p ++ q) :
    r p = .error .endOfText ∨ (∃ a', r p = .ok (a', [])) ∨
      ∃ p', r p = .ok (a, p') ∧ m = p' ++ q := by
  obtain early | ⟨p', same, behind⟩ := skipBlanks_cut blanks cut
  · obtain ⟨c, t, rfl, -, -⟩ := h.opens spelt
    rw [← h.skips, early]
    exact (h.cut (p := []) spelt (by simp)).imp id .inl
  · rw [← h.skips, same, h.skips]
    obtain ⟨q', hq', rfl⟩ | ⟨p'', rfl, later⟩ := cut_append behind
    · exact (h.cut spelt hq').imp id .inl
    · exact .inr (.inr ⟨p'', h.complete spelt (e p'' later), later⟩)

/-- What is left of a value and the blanks before it is blank or starts like a value. -/
theorem Reads.front_cut (h : Reads ends r spelling) {a : α} {b w m p q : List Char}
    (blanks : Blanks b) (spelt : spelling a w) (cut : b ++ (w ++ m) = p ++ q) :
    skipBlanks p = [] ∨ ∃ c t, skipBlanks p = c :: t ∧ c ≠ ']' := by
  obtain early | ⟨p', same, behind⟩ := skipBlanks_cut blanks cut
  · exact .inl early
  · obtain ⟨c, t, rfl, noBlank, noEnd⟩ := h.opens spelt
    rw [same]
    match p' with
    | [] => exact .inl rfl
    | d :: p' =>
      obtain ⟨rfl, -⟩ := List.cons.inj behind
      exact .inr ⟨c, p', skipBlanks_cons noBlank p', noEnd⟩

theorem Reads.mono {ends' : List Char → Prop} (h : Reads ends r spelling)
    (weaker : ∀ rest, ends' rest → ends rest) : Reads ends' r spelling :=
  { h with complete := fun spelt e => h.complete spelt (weaker _ e) }

/-- A reader whose values are renamed reads the spellings of the values behind the names. -/
theorem Reads.map {spelling' : Spelling β} (h : Reads ends r spelling) (f : α → β)
    (renamed : ∀ b w, spelling' b w ↔ ∃ a, f a = b ∧ spelling a w) :
    Reads ends (fun cs => r cs >>= fun p => pure (f p.1, p.2)) spelling' where
  skips cs := by rw [h.skips]
  opens spelt := by
    obtain ⟨a, -, spelt'⟩ := (renamed _ _).mp spelt
    exact h.opens spelt'
  sound {cs b rest} read := by
    obtain ⟨⟨a, left⟩, read', done⟩ := bind_eq_ok_iff.mp read
    obtain ⟨rfl, rfl⟩ : f a = b ∧ left = rest := by simpa using done
    obtain ⟨w, spelt, front⟩ := h.sound read'
    exact ⟨w, (renamed _ _).mpr ⟨a, rfl, spelt⟩, front⟩
  complete spelt e := by
    obtain ⟨a, rfl, spelt'⟩ := (renamed _ _).mp spelt
    rw [h.complete spelt' e]
    rfl
  cut spelt hq := by
    obtain ⟨a, -, spelt'⟩ := (renamed _ _).mp spelt
    obtain early | ⟨b, read⟩ := h.cut spelt' hq
    · exact .inl (by rw [early, error_bind])
    · exact .inr ⟨f b, by rw [read]; rfl⟩

end Reads

/-! ## Colons -/

theorem readColon_append {b : List Char} (blanks : Blanks b) (rest : List Char) :
    readColon (b ++ ':' :: rest) = .ok rest := by
  rw [readColon, skipBlanks_append blanks]
  rfl

theorem exists_of_readColon {cs rest : List Char} (h : readColon cs = .ok rest) :
    ∃ b, Blanks b ∧ cs = b ++ ':' :: rest := by
  obtain ⟨b, blanks, split⟩ := exists_blanks cs
  unfold readColon at h
  split at h
  · contradiction
  · rename_i left front
    obtain rfl : left = rest := by simpa using h
    exact ⟨b, blanks, front ▸ split⟩
  · contradiction

theorem readColon_cut {b m p q : List Char} (blanks : Blanks b) (cut : b ++ ':' :: m = p ++ q) :
    readColon p = .error .endOfText ∨ ∃ p', readColon p = .ok p' ∧ m = p' ++ q := by
  obtain early | ⟨p', front, behind⟩ := skipBlanks_cut_mark blanks (by decide) cut
  · exact .inl (by rw [readColon, early])
  · exact .inr ⟨p', by simp [readColon, front], behind⟩

/-! ## Whole texts -/

/-- A text that is a whole spelling between blanks. -/
def Holds (spelling : Spelling α) (text : String) (a : α) : Prop :=
  ∃ b w b', Blanks b ∧ spelling a w ∧ Blanks b' ∧ text.toList = b ++ (w ++ b')

/-- A text is accepted exactly if it holds a spelling and nothing else but blanks. -/
theorem Reads.readAll_eq_ok_iff {r : Reader α} {spelling : Spelling α}
    (h : Reads Anything r spelling) {text : String} {a : α} :
    readAll r text = .ok a ↔ Holds spelling text a := by
  constructor
  · intro read
    obtain ⟨⟨a', rest⟩, read', done⟩ := bind_eq_ok_iff.mp read
    dsimp only at done
    split at done
    · rename_i empty
      obtain rfl : a' = a := by simpa using done
      obtain ⟨w, spelt, front⟩ := h.sound read'
      obtain ⟨b, blanks, split⟩ := exists_blanks text.toList
      obtain ⟨b', blanks', split'⟩ := exists_blanks rest
      rw [List.isEmpty_iff.mp empty, List.append_nil] at split'
      subst split'
      exact ⟨b, w, rest, blanks, spelt, blanks', by rw [split, front]⟩
    · contradiction
  · rintro ⟨b, w, b', blanks, spelt, blanks', split⟩
    rw [readAll, split, h.complete_behind blanks spelt trivial]
    simp [skipBlanks_eq_nil blanks']

/-- A text is decoded to a value, also with blanks behind it; cut anywhere it ends too early, and
with anything but blanks behind it it is malformed. -/
structure SelfDelimiting (decode : String → Except Fault α) (text : String) (a : α) : Prop where
  whole : ∀ b, Blanks b.toList → decode (text ++ b) = .ok a
  cut : ∀ p q, text = p ++ q → q ≠ "" → decode p = .error .endOfText
  extended : ∀ more, ¬ Blanks more.toList → decode (text ++ more) = .error .malformed

/-- What a reader takes from the front of every text, and only whole, delimits itself. -/
theorem selfDelimiting_readAll {r : Reader α} {w : List Char} {a : α}
    (whole : ∀ rest, r (w ++ rest) = .ok (a, rest))
    (cut : ∀ p q, w = p ++ q → q ≠ [] → r p = .error .endOfText) :
    SelfDelimiting (readAll r) (String.ofList w) a where
  whole b blanks := by
    simp [readAll, whole, skipBlanks_eq_nil blanks]
  cut p q split hq := by
    have parts : w = p.toList ++ q.toList := by
      simpa using congrArg String.toList split
    rw [readAll, cut _ _ parts (by simpa using hq), error_bind]
  extended more filled := by
    have left : skipBlanks more.toList ≠ [] := by
      intro empty
      obtain ⟨b, blanks, split⟩ := exists_blanks more.toList
      rw [empty, List.append_nil] at split
      exact filled (split ▸ blanks)
    simp [readAll, whole, left]

end GuardedSms.Json
