import GuardedSms.Proofs.Json.Sorting

/-!
# What a value means

An object is an unordered map from keys to values, at every level of nesting. Two values are the
same if they are equal once every list of members is taken for the map it stands for.

## Main definitions

* `Meaning`: a value with maps in the place of lists of members.
* `meaning`: what a value means.

## Main statements

* `meaning_canonical`: the canonical form of a value means the same.
* `canonical_eq_iff`: canonical forms are equal exactly if the values mean the same.
* `meaning_obj_perm`: members with different keys mean the same in any order.
-/
namespace GuardedSms.Json

/-- A value as it is compared, with maps in the place of lists of members. -/
inductive Meaning where
  | null
  | bool (value : Bool)
  | int (value : Int)
  | str (value : String)
  | arr (items : List Meaning)
  | obj (member : String → Option Meaning)

mutual

def meaning : Json → Meaning
  | null => .null
  | bool b => .bool b
  | int n => .int n
  | str s => .str s
  | arr items => .arr (meaningItems items)
  | obj members => .obj (meaningMembers members)

def meaningItems : List Json → List Meaning
  | [] => []
  | item :: rest => item.meaning :: meaningItems rest

/-- The map that members stand for. Of members with one key the last counts. -/
def meaningMembers : List (String × Json) → String → Option Meaning
  | [] => fun _ => none
  | (key, value) :: rest => fun k =>
    (meaningMembers rest k).or (if k = key then some value.meaning else none)

end

theorem meaningMembers_cons (key : String) (value : Json) (rest : List (String × Json))
    (k : String) :
    meaningMembers ((key, value) :: rest) k =
      (meaningMembers rest k).or (if k = key then some value.meaning else none) := by
  rw [meaningMembers]

theorem meaningMembers_eq (members : List (String × Json)) (k : String) :
    meaningMembers members k = (counting members k).map meaning := by
  induction members with
  | nil => rfl
  | cons m rest ih =>
    obtain ⟨key, value⟩ := m
    rw [meaningMembers_cons, counting_cons, ih]
    cases counting rest k <;> by_cases same : k = key <;> simp [same]

/-! ## Canonical forms mean the same -/

/-- A member that is entered counts unless its key was there already. -/
theorem meaningMembers_enter (key : String) (value : Json) (members : List (String × Json))
    (k : String) :
    meaningMembers (enter key value members) k =
      (meaningMembers members k).or (if k = key then some value.meaning else none) := by
  induction members with
  | nil => rw [enter, meaningMembers_cons]
  | cons m rest ih =>
    obtain ⟨key', value'⟩ := m
    rw [enter]
    split
    · rw [meaningMembers_cons]
    · split
      · rename_i here
        subst here
        rw [meaningMembers_cons]
        cases meaningMembers rest k <;> by_cases same : k = key <;> simp [same]
      · rename_i other
        rw [meaningMembers_cons, meaningMembers_cons, ih]
        cases meaningMembers rest k with
        | some => rfl
        | none => by_cases first : k = key' <;> grind

mutual

/-- The canonical form of a value means the same. -/
theorem meaning_canonical (j : Json) : j.canonical.meaning = j.meaning := by
  match j with
  | null | bool _ | int _ | str _ => rfl
  | arr items => rw [canonical, meaning, meaning, meaningItems_canonicalItems items]
  | obj members => rw [canonical, meaning, meaning, meaningMembers_canonicalMembers members]

theorem meaningItems_canonicalItems (items : List Json) :
    meaningItems (canonicalItems items) = meaningItems items := by
  match items with
  | [] => rfl
  | item :: rest =>
    rw [canonicalItems, meaningItems, meaningItems, meaning_canonical item,
      meaningItems_canonicalItems rest]

theorem meaningMembers_canonicalMembers (members : List (String × Json)) :
    meaningMembers (canonicalMembers members) = meaningMembers members := by
  match members with
  | [] => rfl
  | (key, value) :: rest =>
    funext k
    rw [canonicalMembers, meaningMembers_enter, meaningMembers_cons, meaning_canonical value,
      meaningMembers_canonicalMembers rest]

end

/-! ## The canonical form follows from the meaning -/

theorem map_canonical_eq {a b : Option Json} (h : a.map meaning = b.map meaning)
    (known : ∀ j, a = some j → ∀ k : Json, j.meaning = k.meaning → j.canonical = k.canonical) :
    a.map canonical = b.map canonical := by
  cases a with
  | none => cases b <;> simp_all
  | some j =>
    obtain ⟨k, rfl, same⟩ : ∃ k, b = some k ∧ k.meaning = j.meaning := by simpa using h.symm
    exact congrArg some (known j rfl k same.symm)

mutual

/-- Values that mean the same have the same canonical form. -/
theorem canonical_eq_of_meaning (j k : Json) (h : j.meaning = k.meaning) :
    j.canonical = k.canonical := by
  match j, k with
  | null, null => rfl
  | bool a, bool b => simpa [meaning, canonical] using h
  | int m, int n => simpa [meaning, canonical] using h
  | str s, str t => simpa [meaning, canonical] using h
  | arr items, arr items' =>
    rw [canonical, canonical, canonicalItems_eq_of_meaning items items' (Meaning.arr.inj h)]
  | obj members, obj members' =>
    -- Sorted members are equal if under each key the same is found, and what is found there is the
    -- canonical form of members that mean the same.
    refine congrArg obj ((sorted_canonicalMembers members).ext (sorted_canonicalMembers members')
      fun key => ?_)
    have same : (counting members key).map meaning = (counting members' key).map meaning := by
      rw [← meaningMembers_eq, ← meaningMembers_eq, Meaning.obj.inj h]
    rw [lookup_canonicalMembers, lookup_canonicalMembers]
    exact map_canonical_eq same fun value found =>
      member_canonical_eq members (mem_of_counting found)

theorem canonicalItems_eq_of_meaning (items items' : List Json)
    (h : meaningItems items = meaningItems items') :
    canonicalItems items = canonicalItems items' := by
  match items, items' with
  | [], [] => rfl
  | item :: rest, item' :: rest' =>
    obtain ⟨first, more⟩ := List.cons.inj h
    rw [canonicalItems, canonicalItems, canonical_eq_of_meaning item item' first,
      canonicalItems_eq_of_meaning rest rest' more]

theorem member_canonical_eq (members : List (String × Json)) {key : String} {value : Json}
    (mem : (key, value) ∈ members) (k : Json) (h : value.meaning = k.meaning) :
    value.canonical = k.canonical := by
  match members with
  | (key', value') :: rest =>
    obtain first | later := List.mem_cons.mp mem
    · obtain ⟨-, rfl⟩ := Prod.mk.inj first
      exact canonical_eq_of_meaning value k h
    · exact member_canonical_eq rest later k h

end

/-- Two values mean the same exactly if their canonical forms are equal. -/
theorem canonical_eq_iff {j k : Json} : j.canonical = k.canonical ↔ j.meaning = k.meaning := by
  constructor
  · intro h
    rw [← meaning_canonical j, h, meaning_canonical]
  · exact canonical_eq_of_meaning j k

/-! ## The order of members -/

/-- Members with different keys mean the same in any order. -/
theorem meaning_obj_perm {members members' : List (String × Json)}
    (distinct : (members.map Prod.fst).Nodup) (reordered : members.Perm members') :
    (obj members).meaning = (obj members').meaning := by
  have same : ∀ k, meaningMembers members k = meaningMembers members' k := by
    induction reordered with
    | nil => exact fun _ => rfl
    | cons m _ ih =>
      intro k
      rw [meaningMembers_cons, meaningMembers_cons, ih distinct.of_cons]
    | swap m n rest =>
      intro k
      have other : n.1 ≠ m.1 := by
        intro h
        simp [h] at distinct
      rw [meaningMembers_cons, meaningMembers_cons, meaningMembers_cons, meaningMembers_cons]
      cases meaningMembers rest k with
      | some => rfl
      | none => by_cases first : k = m.1 <;> by_cases second : k = n.1 <;> simp_all
    | trans first _ ih ih' =>
      intro k
      rw [ih distinct, ih' ((first.map Prod.fst).nodup_iff.mp distinct)]
  exact congrArg Meaning.obj (funext same)

end GuardedSms.Json
