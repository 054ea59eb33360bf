import GuardedSms.Delivery.Codec
import GuardedSms.Proofs.Json.Shapes
import GuardedSms.Proofs.Outcome.Coding

/-!
# Encoding deliveries

The text of a delivery is decoded to the delivery again. It also delimits itself. Outcomes and
deliveries are tagged in different ways and are read by different readers, but what can be said of
their texts is the same.

## Main statements

* `readsMembers`: the members of a delivery are gathered by their keys.
* `selfDelimiting_encode`: the text of a delivery is decoded whole and not in part.
* `texts_selfDelimiting`: so are the texts of outcomes and deliveries alike.
-/
namespace GuardedSms

namespace Delivery

open Json

/-! ## Texts as values -/

theorem readShape_quoted_cut (budget : Nat) {s : String} {p q : List Char} (cut : quoted s = p ++ q)
    (hq : q ≠ []) : readShape budget p = .error .endOfText := by
  match p with
  | [] => cases budget <;> rfl
  | c :: p =>
    obtain ⟨rfl, -⟩ := List.cons.inj cut
    have front : (skipBlanks ('"' :: p)).head? = some '"' := rfl
    rw [readShape_eq_readOpening (by simp [front]) (by simp [front])]
    have spelt : OpeningSpelling (.string s) ('"' :: p ++ q) :=
      cut ▸ .string (textSpelling_quoted s)
    exact (readOpening_cut spelt hq).resolve_right (by simp)

/-! ## Kinds -/

theorem Kind.ofName?_name (k : Kind) : ofName? k.name = some k := by cases k <;> rfl

theorem readKind_name (k : Kind) {rest : List Char} (ends : Delimits rest) :
    readKind (quoted k.name ++ rest) = .ok (k, rest) := by
  rw [readKind, Payload.readAs_eq, readOpening_append (.string (textSpelling_quoted k.name)) ends]
  simp [Payload.verdict, Kind.ofName?_name]

theorem readKind_cut {k : Kind} {p q : List Char} (cut : quoted k.name = p ++ q) (hq : q ≠ []) :
    readKind p = .error .endOfText := by
  have spelt : OpeningSpelling (.string k.name) (p ++ q) :=
    cut ▸ .string (textSpelling_quoted k.name)
  rw [readKind, Payload.readAs_cut spelt (by simp) hq, error_bind]

/-! ## Members -/

theorem readMember_effect {g : Gathered} (h : g.kind = none) (cs : List Char) :
    readMember g effectKey cs = (readColon cs >>= fun cs => readKind cs >>= fun p =>
      pure ({ g with kind := some p.1 }, p.2)) := by
  simp [readMember, h]

theorem readMember_other {g : Gathered} {key : String} (h : key ≠ effectKey) (cs : List Char) :
    readMember g key cs = (readColon cs >>= fun cs => readShape (nestingLimit - 1) cs >>= fun p =>
      pure ({ g with others := g.others ++ [(key, p.1)] }, p.2)) := by
  simp [readMember, h]

/-- The first member with the name of a kind tells the kind. -/
theorem readsMember_effect (k : Kind) {g : Gathered} (h : g.kind = none) :
    ReadsMember readMember g effectKey (.str k.name) { g with kind := some k } where
  whole {rest} ends := by
    have colon := readColon_append blanks_nil ((Json.str k.name).chars ++ rest)
    rw [List.nil_append] at colon
    rw [readMember_effect h, colon, ok_bind, chars, readKind_name k ends]
    rfl
  cut {p q} cut hq := by
    rw [readMember_effect h]
    obtain early | ⟨p', colon, behind⟩ := readColon_cut blanks_nil cut
    · exact .inl (by rw [early, error_bind])
    · rw [colon, ok_bind, readKind_cut behind hq]
      exact .inl rfl

/-- A member with any other key is kept. -/
theorem readsMember_text (g : Gathered) {key : String} (h : key ≠ effectKey) (s : String) :
    ReadsMember readMember g key (.str s) { g with others := g.others ++ [(key, .string s)] } where
  whole {rest} ends := by
    have colon := readColon_append blanks_nil ((Json.str s).chars ++ rest)
    rw [List.nil_append] at colon
    rw [readMember_other h, colon, ok_bind, readShape_scalar _ (j := .str s) trivial rfl ends]
    rfl
  cut {p q} cut hq := by
    rw [readMember_other h]
    obtain early | ⟨p', colon, behind⟩ := readColon_cut blanks_nil cut
    · exact .inl (by rw [early, error_bind])
    · rw [colon, ok_bind, readShape_quoted_cut _ behind hq]
      exact .inl rfl

/-- What is gathered of a delivery. -/
def gathered : Delivery → Gathered
  | send number message =>
    ⟨some .send, [(numberKey, .string number), (messageKey, .string message)]⟩
  | log message => ⟨some .log, [(messageKey, .string message)]⟩

/-- The members of a delivery are gathered by their keys. -/
theorem readsMembers (d : Delivery) : ReadsMembers readMember {} d.members d.gathered := by
  cases d with
  | send number message =>
    exact .cons (readsMember_effect .send rfl) (.cons (readsMember_text _ (by decide) number)
      (.cons (readsMember_text _ (by decide) message) (.nil _)))
  | log message =>
    exact .cons (readsMember_effect .log rfl)
      (.cons (readsMember_text _ (by decide) message) (.nil _))

theorem readObject_append (d : Delivery) {w : List Char} (written : d.toJson.chars = '{' :: w)
    (rest : List Char) : readObject (w ++ rest) = .ok (d, rest) := by
  rw [readObject, readMembers_append d.readsMembers written]
  cases d <;> rfl

theorem exists_cons_chars (d : Delivery) : ∃ w, d.toJson.chars = '{' :: w := by
  cases d <;> exact ⟨_, rfl⟩

theorem reader_brace (cs : List Char) : reader ('{' :: cs) = readObject cs := rfl

/-- The text of a delivery is decoded whole and not in part. -/
theorem selfDelimiting_encode (d : Delivery) : SelfDelimiting decode d.encode d := by
  obtain ⟨w, written⟩ := d.exists_cons_chars
  refine selfDelimiting_readAll (fun rest => ?_) fun p q cut hq => ?_
  · rw [written, List.cons_append, reader_brace, readObject_append d written]
  · match p with
    | [] => rfl
    | c :: p =>
      obtain ⟨rfl, -⟩ : '{' = c ∧ _ := List.cons.inj (written.symm.trans cut)
      rw [reader_brace, readObject, readMembers_cut d.readsMembers cut hq, error_bind]

end Delivery

open Json Payload

/-- The texts of outcomes and deliveries are decoded to what they were written for, whatever blanks
follow; cut anywhere they end too early, and with more behind them they are malformed. -/
theorem texts_selfDelimiting :
    (∀ (k : Kind) (o : Outcome k.Value), SelfDelimiting Outcome.decode o.encode o) ∧
      ∀ d : Delivery, SelfDelimiting Delivery.decode d.encode d :=
  ⟨Outcome.selfDelimiting_encode, Delivery.selfDelimiting_encode⟩

end GuardedSms
