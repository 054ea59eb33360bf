import GuardedSms.Outcome.Pipeline
import GuardedSms.Proofs.Json.Meaning
import GuardedSms.Proofs.Json.Readability

/-!
# Texts of outcomes with any value

The text of an outcome is canonical: it does not depend on the order in which the members of
objects were supplied, at whatever depth. And it is injective: nothing else is lost, so outcomes
that differ have different texts.

## Main statements

* `Json.text_eq_iff`: values have the same text exactly if they mean the same.
* `Outcome.text_eq_iff_equal`: the same for outcomes, which are compared up to the order of members.
-/
namespace GuardedSms

open Json

namespace Json

/-- Values have the same text exactly if they mean the same. -/
theorem text_eq_iff {j k : Json} : j.text = k.text ↔ j.meaning = k.meaning := by
  rw [text, text, String.ofList_inj, ← canonical_eq_iff]
  exact ⟨chars_injective, congrArg chars⟩

theorem same_iff {j k : Json} : j.same k ↔ j.meaning = k.meaning := by
  rw [same, decide_eq_true_iff, canonical_eq_iff]

/-- Objects with one member mean the same if their keys and their values do. -/
theorem meaning_sole_iff {key key' : String} {value value' : Json} :
    (obj [(key, value)]).meaning = (obj [(key', value')]).meaning ↔
      key = key' ∧ value.meaning = value'.meaning := by
  constructor
  · intro h
    have found := congrFun (Meaning.obj.inj h) key
    rw [meaningMembers_cons, meaningMembers_cons] at found
    by_cases same : key = key'
    · exact ⟨same, by simpa [meaningMembers, same] using found⟩
    · simp [meaningMembers, same] at found
  · rintro ⟨rfl, same⟩
    simp only [meaning, meaningMembers, same]

end Json

namespace Outcome

theorem meaning_toJson_iff {o p : Outcome Json} :
    (o.toJson id).meaning = (p.toJson id).meaning ↔ o.map meaning = p.map meaning := by
  have keys : successKey ≠ failureKey := by decide
  cases o with
  | success v =>
    cases p with
    | success w => simp [toJson, meaning_sole_iff]
    | failure n => simp [toJson, meaning_sole_iff, keys]
  | failure m =>
    cases p with
    | success w => simp [toJson, meaning_sole_iff, keys.symm]
    | failure n =>
      rw [toJson, toJson, meaning_sole_iff]
      simp [Json.meaning]

theorem same_iff {o p : Outcome Json} : o.same p ↔ o.map meaning = p.map meaning := by
  cases o <;> cases p <;> simp [same, Json.same_iff]

/-- Outcomes have the same text exactly if they are equal, where objects are compared as maps. So
members with different keys may be supplied in any order, and no success has the text of a
failure. -/
theorem text_eq_iff_equal :
    (∀ o p : Outcome Json, o.text = p.text ↔ o.map meaning = p.map meaning) ∧
    (∀ o p : Outcome Json, o.same p ↔ o.map meaning = p.map meaning) ∧
    (∀ members members' : List (String × Json), (members.map Prod.fst).Nodup →
      members.Perm members' →
      (success (Json.obj members)).text = (success (Json.obj members')).text) ∧
    ∀ (v : Json) (message : String), (success v).text ≠ (failure message).text := by
  have equal (o p : Outcome Json) : o.text = p.text ↔ o.map meaning = p.map meaning := by
    rw [text, text, text_eq_iff, meaning_toJson_iff]
  refine ⟨equal, fun _ _ => same_iff, ?reordered, ?distinct⟩
  case reordered =>
    intro members members' distinct reordered
    rw [equal, map_success, map_success, meaning_obj_perm distinct reordered]
  case distinct =>
    intro v message
    rw [Ne, equal]
    simp

/-- Members in the wrong order, one of them an object with keys that look like the end of one. -/
theorem text_of_reordered :
    let inner := Json.obj [("\x7d", .int (-1)), ("\",", .arr [])]
    ([("b", inner), ("a", Json.null)].map Prod.fst).Nodup ∧
      (success (Json.obj [("b", inner), ("a", .null)])).text =
        (success (Json.obj [("a", .null), ("b", inner)])).text := by
  intro inner
  have distinct : ([("b", inner), ("a", Json.null)].map Prod.fst).Nodup := by simp
  exact ⟨distinct, text_eq_iff_equal.2.2.1 _ _ distinct (.swap _ _ _)⟩

end Outcome

end GuardedSms
