import GuardedSms.Payload
import GuardedSms.Proofs.Json.Arrays
import GuardedSms.Proofs.Json.Scalars

/-!
# Reading payloads

Every payload is read exactly as it is spelled: texts, literals, integers within the bounds of their
type, and lists of what is itself read that way.

## Main statements

* `reads_of_opening`: a reader that judges a scalar by its shape reads the spellings of the shapes
  that it accepts.
* `reads_readText`, `reads_readBool`, `reads_readUnit`, `reads_readOptionalText`, `reads_readInt64`,
  `reads_readUInt8`, `reads_readList`: the readers of the payload types.
-/
namespace GuardedSms.Payload

open Json

variable {α β : Type}

/-- A reader that judges a shape reads the spellings of the shapes that it accepts. A smaller
integer than one that it accepts must be accepted, too. -/
theorem reads_of_opening {r : Reader α} (judge : Shape → Except Fault α) {spelling : Spelling α}
    (reading : ∀ cs, r cs = (readOpening cs >>= fun p => judge p.1 >>= fun a => pure (a, p.2)))
    (spells : ∀ a w, spelling a w ↔ ∃ s, judge s = .ok a ∧ OpeningSpelling s w)
    (noFloating : ∀ n m a, judge (.floating n m) ≠ .ok a)
    (smaller : ∀ z m a, judge (.integer z) = .ok a → Within z m → ∃ b, judge (.integer m) = .ok b) :
    Reads Delimits r spelling where
  skips cs := by rw [reading, reading, readOpening_skipBlanks]
  opens h := by
    obtain ⟨s, -, spelt⟩ := (spells _ _).mp h
    exact spelt.front
  sound {cs a rest} h := by
    rw [reading] at h
    obtain ⟨⟨s, left⟩, opened, judged⟩ := bind_eq_ok_iff.mp h
    obtain ⟨b, accepted, done⟩ := bind_eq_ok_iff.mp judged
    obtain ⟨rfl, rfl⟩ : b = a ∧ left = rest := by simpa using done
    have isScalar : ∀ n m, s ≠ .floating n m := by
      rintro n m rfl
      exact noFloating n m b accepted
    obtain ⟨w, spelt, front⟩ := exists_of_readOpening opened isScalar
    exact ⟨w, (spells b w).mpr ⟨s, accepted, spelt⟩, front⟩
  complete {a w rest} h ends := by
    obtain ⟨s, accepted, spelt⟩ := (spells a w).mp h
    rw [reading, readOpening_append spelt ends]
    simp [accepted]
  cut {a p q} h hq := by
    obtain ⟨s, accepted, spelt⟩ := (spells a _).mp h
    rw [reading]
    obtain early | ⟨z, m, rfl, within, read⟩ := readOpening_cut spelt hq
    · exact .inl (by rw [early, error_bind])
    · obtain ⟨b, accepted'⟩ := smaller z m a accepted within
      exact .inr ⟨b, by simp [read, accepted']⟩

/-- What is answered for a shape, by what it is turned to. -/
def verdict (expected : String) (turn : Shape → Option α) (s : Shape) : Except Fault α :=
  match turn s with
  | some value => .ok value
  | none => .error (.unfit (.wrongType s expected))

theorem verdict_eq_ok_iff {expected : String} {turn : Shape → Option α} {s : Shape} {a : α} :
    verdict expected turn s = .ok a ↔ turn s = some a := by
  cases h : turn s <;> simp [verdict, h]

theorem readAs_eq (expected : String) (turn : Shape → Option α) (cs : List Char) :
    readAs expected turn cs =
      (readOpening cs >>= fun p => verdict expected turn p.1 >>= fun a => pure (a, p.2)) := by
  unfold readAs
  congr
  funext ⟨s, rest⟩
  cases h : turn s <;> simp [verdict, h]

/-- A reader that turns some shapes into values reads the spellings of these shapes. -/
theorem reads_readAs {expected : String} {turn : Shape → Option α} {spelling : Spelling α}
    (spells : ∀ a w, spelling a w ↔ ∃ s, turn s = some a ∧ OpeningSpelling s w)
    (noFloating : ∀ n m, turn (.floating n m) = none) (noInteger : ∀ z, turn (.integer z) = none) :
    Reads Delimits (readAs expected turn) spelling := by
  refine reads_of_opening _ (readAs_eq expected turn) (fun a w => ?_) (fun n m a => ?_) ?_
  · simp only [verdict_eq_ok_iff]
    exact spells a w
  · rw [Ne, verdict_eq_ok_iff, noFloating]
    simp
  · intro z m a accepted
    rw [verdict_eq_ok_iff, noInteger] at accepted
    contradiction

/-- A spelling of a shape that is cut is reported as such unless it is an integer. -/
theorem readAs_cut {expected : String} {turn : Shape → Option α} {s : Shape} {p q : List Char}
    (h : OpeningSpelling s (p ++ q)) (noInteger : ∀ z, s ≠ .integer z) (hq : q ≠ []) :
    readAs expected turn p = .error .endOfText := by
  obtain early | ⟨z, -, rfl, -, -⟩ := readOpening_cut h hq
  · rw [readAs_eq, early, error_bind]
  · exact absurd rfl (noInteger z)

theorem reads_readText : Reads Delimits readText TextSpelling := by
  refine reads_readAs (fun s w => ⟨fun h => ⟨_, rfl, .string h⟩, ?_⟩) (fun _ _ => rfl) fun _ => rfl
  rintro ⟨_, turned, spelt⟩
  cases spelt <;> grind

theorem reads_readBool : Reads Delimits readBool fun b w => w = boolWord b := by
  refine reads_readAs (fun b w => ⟨?_, ?_⟩) (fun _ _ => rfl) fun _ => rfl
  · rintro rfl
    exact ⟨_, rfl, .bool b⟩
  · rintro ⟨_, turned, spelt⟩
    cases spelt <;> grind

theorem reads_readUnit : Reads Delimits readUnit fun _ w => w = nullWord := by
  refine reads_readAs (fun _ w => ⟨?_, ?_⟩) (fun _ _ => rfl) fun _ => rfl
  · rintro rfl
    exact ⟨_, rfl, .null⟩
  · rintro ⟨_, turned, spelt⟩
    cases spelt <;> grind

theorem reads_readOptionalText : Reads Delimits readOptionalText (OptionSpelling TextSpelling) := by
  refine reads_readAs (fun o w => ⟨?_, ?_⟩) (fun _ _ => rfl) fun _ => rfl
  · intro h
    cases o with
    | none =>
      obtain rfl : w = nullWord := h
      exact ⟨_, rfl, .null⟩
    | some s => exact ⟨_, rfl, .string h⟩
  · rintro ⟨_, turned, spelt⟩
    cases spelt <;> simp at turned
    · subst turned
      rfl
    · subst turned
      assumption

/-! ## Integers -/

/-- What is answered for a shape that should be an integer between two bounds. -/
def bounded (expected : String) (least greatest : Int) (s : Shape) : Except Fault Int := do
  let n ← verdict expected (fun | .integer n => some n | _ => none) s
  if least ≤ n ∧ n ≤ greatest then return n else throw (.unfit (.outOfRange n expected))

theorem bounded_eq_ok_iff {expected : String} {least greatest z : Int} {s : Shape} :
    bounded expected least greatest s = .ok z ↔ s = .integer z ∧ least ≤ z ∧ z ≤ greatest := by
  constructor
  · intro h
    obtain ⟨n, accepted, done⟩ := bind_eq_ok_iff.mp h
    rw [verdict_eq_ok_iff] at accepted
    split at done
    · obtain rfl : n = z := by simpa using done
      cases s <;> grind
    · contradiction
  · rintro ⟨rfl, bounds⟩
    simp [bounded, verdict, bounds]

theorem readInteger_eq (expected : String) (least greatest : Int) (cs : List Char) :
    readInteger expected least greatest cs = (readOpening cs >>= fun p =>
      bounded expected least greatest p.1 >>= fun a => pure (a, p.2)) := by
  rw [readInteger, readAs_eq]
  cases readOpening cs with
  | error fault => rfl
  | ok p =>
    simp only [ok_bind, bounded]
    cases verdict expected _ p.1 with
    | error fault => rfl
    | ok n =>
      simp only [ok_bind, pure_eq_ok, throw_eq_error]
      split <;> rfl

/-- The integers between two bounds are read exactly as they are spelled. -/
theorem reads_readInteger {expected : String} {least greatest : Int} (low : -2 ^ 63 ≤ least)
    (nonpos : least ≤ 0) (nonneg : 0 ≤ greatest) (high : greatest < 2 ^ 64) :
    Reads Delimits (readInteger expected least greatest) fun z w =>
      (least ≤ z ∧ z ≤ greatest) ∧ IntegerSpelling z w := by
  refine reads_of_opening _ (readInteger_eq expected least greatest) (fun z w => ⟨?_, ?_⟩)
    (fun n m z => ?_) ?_
  · rintro ⟨bounds, spelt⟩
    exact ⟨_, bounded_eq_ok_iff.mpr ⟨rfl, bounds⟩, .integer spelt ⟨by omega, by omega⟩⟩
  · rintro ⟨_, accepted, spelt⟩
    obtain ⟨rfl, bounds⟩ := bounded_eq_ok_iff.mp accepted
    cases spelt with
    | integer h => exact ⟨bounds, h⟩
  · simp [bounded_eq_ok_iff]
  · intro z m a accepted within
    obtain ⟨same, bounds⟩ := bounded_eq_ok_iff.mp accepted
    obtain rfl := Shape.integer.inj same
    unfold Within at within
    exact ⟨m, bounded_eq_ok_iff.mpr ⟨rfl, by omega, by omega⟩⟩

theorem reads_readInt64 : Reads Delimits readInt64 fun n w => IntegerSpelling n.toInt w := by
  refine (reads_readInteger (by decide) (by decide) (by decide) (by decide)).map Int64.ofInt ?_
  intro n w
  constructor
  · intro spelt
    exact ⟨n.toInt, Int64.ofInt_toInt n, ⟨n.minValue_le_toInt, n.toInt_le⟩, spelt⟩
  · rintro ⟨z, rfl, ⟨low, high⟩, spelt⟩
    rw [Int64.toInt_minValue] at low
    rw [Int64.toInt_maxValue] at high
    rwa [Int64.toInt_ofInt_of_le (by omega) (by omega)]

theorem reads_readUInt8 : Reads Delimits readUInt8 fun n w => IntegerSpelling n.toNat w := by
  refine (reads_readInteger (by decide) (by decide) (by decide) (by decide)).map
    (fun n => UInt8.ofNat n.toNat) ?_
  intro n w
  constructor
  · intro spelt
    have := n.toNat_lt
    exact ⟨n.toNat, by simp, by omega, spelt⟩
  · rintro ⟨z, rfl, ⟨low, high⟩, spelt⟩
    have same : ((UInt8.ofNat z.toNat).toNat : Int) = z := by
      rw [UInt8.toNat_ofNat']
      omega
    rwa [same]

/-! ## Lists -/

def sequence? : Shape → Option Unit
  | .sequence => some ()
  | _ => none

theorem readList_eq (r : Reader α) (cs : List Char) :
    readList r cs = (readAs "a sequence" sequence? cs >>= fun p => readItems r p.2) := rfl

theorem readAs_sequence_iff {expected : String} {cs rest : List Char} :
    readAs expected sequence? cs = .ok ((), rest) ↔ skipBlanks cs = '[' :: rest := by
  constructor
  · intro h
    rw [readAs_eq] at h
    obtain ⟨⟨s, left⟩, opened, judged⟩ := bind_eq_ok_iff.mp h
    obtain ⟨_, accepted, done⟩ := bind_eq_ok_iff.mp judged
    obtain rfl : left = rest := by simpa using done
    rw [verdict_eq_ok_iff] at accepted
    obtain rfl : s = .sequence := by cases s <;> grind [sequence?]
    obtain ⟨w, ⟨⟩, front⟩ := exists_of_readOpening opened (by simp)
    exact front
  · intro front
    rw [readAs_eq, ← readOpening_skipBlanks, front]
    rfl

theorem readList_append {r : Reader α} {cs rest : List Char} (front : skipBlanks cs = '[' :: rest) :
    readList r cs = readItems r rest := by
  rw [readList_eq, readAs_sequence_iff.mpr front]
  rfl

/-- Lists are read exactly as they are spelled if their items are; anything may follow. -/
theorem reads_readList {r : Reader α} {item : Spelling α} (reads : Reads Delimits r item) :
    Reads Anything (readList r) (ListSpelling item) where
  skips cs := by rw [readList_eq, readList_eq, readAs_eq, readAs_eq, readOpening_skipBlanks]
  opens h := by cases h <;> exact ⟨_, _, rfl, by decide⟩
  sound {cs xs rest} h := by
    rw [readList_eq] at h
    obtain ⟨⟨_, left⟩, opened, items⟩ := bind_eq_ok_iff.mp h
    obtain ⟨w, spelt, rfl⟩ := exists_of_readItems reads.sound items
    exact ⟨'[' :: w, spelt, readAs_sequence_iff.mp opened⟩
  complete {xs w rest} h _ := by
    obtain ⟨m, rfl⟩ : ∃ m, w = '[' :: m := by cases h <;> exact ⟨_, rfl⟩
    rw [readList_append rfl]
    exact readItems_append reads h rest
  cut {xs p q} h hq := by
    match p with
    | [] => exact .inl rfl
    | c :: p =>
      obtain rfl : c = '[' := by
        generalize cut : c :: p ++ q = w at h
        cases h <;> exact (List.cons.inj cut).1
      rw [readList_append rfl]
      exact .inl (readItems_cut reads h hq)

end GuardedSms.Payload
