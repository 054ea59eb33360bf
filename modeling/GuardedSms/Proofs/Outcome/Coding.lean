import GuardedSms.Proofs.Json.Writing
import GuardedSms.Proofs.Payload.Kind

/-!
# Encoding and decoding outcomes

The texts that are decoded to an outcome are the spellings of the outcome, between blanks. The text
of an outcome is one of them, so that it is decoded to the outcome again. It also delimits itself.

## Main statements

* `decode_eq_ok_iff_holds`: an outcome is decoded from its spellings and from nothing else, and no
  text spells two outcomes.
* `spelling_chars`: the text of a payload spells the payload.
* `selfDelimiting_encode`: the text of an outcome is decoded whole and not in part.
-/
namespace GuardedSms

open Json Payload

namespace Json

theorem canonicalItems_eq_map (items : List Json) : canonicalItems items = items.map canonical := by
  induction items with
  | nil => rfl
  | cons item rest ih => rw [canonicalItems, ih, List.map_cons]

/-- The canonical text of an array spells its items if the canonical text of each item does. -/
theorem listSpelling_canonical {α : Type} {item : Spelling α} {f : α → Json}
    (h : ∀ a, item a (f a).canonical.chars) (xs : List α) :
    ListSpelling item xs (arr (xs.map f)).canonical.chars := by
  have same : (arr (xs.map f)).canonical = arr (xs.map fun a => (f a).canonical) := by
    rw [canonical, canonicalItems_eq_map, List.map_map]
    rfl
  rw [same]
  exact listSpelling_chars h xs

end Json

namespace Outcome

/-- An outcome is decoded from its spellings and from nothing else, and no text spells two
outcomes. -/
theorem decode_eq_ok_iff_holds (k : Kind) (text : String) (o : Outcome k.Value) :
    (decode text = .ok o ↔ Holds (OutcomeSpelling k.spelling) text o) ∧
      ∀ o', Holds (OutcomeSpelling k.spelling) text o →
        Holds (OutcomeSpelling k.spelling) text o' → o = o' := by
  have reads := reads_reader k.reads_read
  refine ⟨reads.readAll_eq_ok_iff, fun o' h h' => ?_⟩
  have once := reads.readAll_eq_ok_iff.mpr h
  rw [reads.readAll_eq_ok_iff.mpr h'] at once
  exact (Except.ok.inj once).symm

variable {α : Type}

theorem soleMemberSpelling_chars {key : String} {value : List Char → Prop} {j : Json}
    (h : value j.chars) : SoleMemberSpelling key value (Json.obj [(key, j)]).chars := by
  rw [chars, moreMembers]
  exact .object blanks_nil (textSpelling_quoted key) blanks_nil blanks_nil h blanks_nil

/-- The text of an outcome spells it if the text of every payload does. -/
theorem outcomeSpelling_chars {payload : α → Json} {spelling : Spelling α}
    (h : ∀ a, spelling a (payload a).canonical.chars) (o : Outcome α) :
    OutcomeSpelling spelling o (o.toJson payload).canonical.chars := by
  cases o with
  | success a => exact soleMemberSpelling_chars (h a)
  | failure s => exact soleMemberSpelling_chars (textSpelling_quoted s)

end Outcome

/-- The text of a payload spells the payload. -/
theorem Payload.Kind.spelling_chars (k : Kind) (v : k.Value) :
    k.spelling v (Payload.toJson v).canonical.chars := by
  cases k with
  | text => exact textSpelling_quoted v
  | int64 => exact integerSpelling_intChars _
  | uint8 => exact integerSpelling_intChars _
  | bool => cases v <;> rfl
  | unit => rfl
  | optionalText =>
    cases v with
    | none => rfl
    | some s => exact textSpelling_quoted s
  | int64s => exact listSpelling_canonical (fun _ => integerSpelling_intChars _) v
  | outcome => exact Outcome.outcomeSpelling_chars textSpelling_quoted v

/-- The text of an outcome is decoded whole and not in part. -/
theorem Outcome.selfDelimiting_encode (k : Kind) (o : Outcome k.Value) :
    SelfDelimiting Outcome.decode o.encode o := by
  have spelt := Outcome.outcomeSpelling_chars k.spelling_chars o
  have reads := reads_reader k.reads_read
  exact selfDelimiting_readAll (fun rest => reads.complete spelt trivial)
    fun p q split hq => reader_cut k.reads_read (split ▸ spelt) hq

end GuardedSms
