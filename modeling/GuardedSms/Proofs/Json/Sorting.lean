import GuardedSms.Json
import Mathlib.Data.String.Basic

/-!
# Sorted members

The canonical form of an object has its members in the order of their keys, each key once. Of
members with one key the last one counts. Sorted members are determined by what is found under
each key.

## Main definitions

* `counting`: the member of a list that counts under a key.
* `Sorted`: members in the order of their keys.

## Main statements

* `sorted_canonicalMembers`, `lookup_canonicalMembers`: canonical members are sorted, and those
  that count are found among them.
* `Sorted.ext`: sorted members in which the same is found are equal.
-/
namespace GuardedSms.Json

/-! ## Members that count -/

/-- The last member with a key, which is the one that counts. -/
def counting (members : List (String × Json)) (key : String) : Option Json :=
  members.reverse.lookup key

theorem lookup_member (key : String) (value : Json) (rest : List (String × Json)) (k : String) :
    ((key, value) :: rest).lookup k = if k = key then some value else rest.lookup k := by
  rw [List.lookup_cons]
  by_cases same : k = key
  · simp [same]
  · simp [same, beq_false_of_ne same]

theorem counting_cons (key : String) (value : Json) (rest : List (String × Json)) (k : String) :
    counting ((key, value) :: rest) k =
      (counting rest k).or (if k = key then some value else none) := by
  rw [counting, List.reverse_cons, List.lookup_append, lookup_member, List.lookup_nil, counting]

theorem mem_of_counting {members : List (String × Json)} {key : String} {value : Json}
    (h : counting members key = some value) : (key, value) ∈ members := by
  obtain ⟨before, behind, split, -⟩ := List.lookup_eq_some_iff.mp h
  have mem : (key, value) ∈ members.reverse := by simp [split]
  exact List.mem_reverse.mp mem

/-! ## Sorted members -/

/-- Members in the order of their keys, which are all different. -/
def Sorted (members : List (String × Json)) : Prop := members.Pairwise (·.1 < ·.1)

/-- A key that comes before all keys is not there. -/
theorem lookup_eq_none {members : List (String × Json)} {key : String}
    (before : ∀ m ∈ members, key < m.1) : members.lookup key = none := by
  rw [List.lookup_eq_none_iff]
  intro m mem
  simpa using (before m mem).ne

section Sorted

variable {key : String} {value : Json} {rest : List (String × Json)}

theorem Sorted.tail (sorted : Sorted ((key, value) :: rest)) : Sorted rest :=
  (List.pairwise_cons.mp sorted).2

/-- The first of sorted members is the only one with its key. -/
theorem Sorted.lookup_rest (sorted : Sorted ((key, value) :: rest)) : rest.lookup key = none :=
  lookup_eq_none (List.pairwise_cons.mp sorted).1

theorem Sorted.before (sorted : Sorted ((key, value) :: rest)) {k : String} (before : k < key) :
    ∀ m ∈ (key, value) :: rest, k < m.1 := by
  intro m mem
  obtain rfl | later := List.mem_cons.mp mem
  · exact before
  · exact String.lt_trans before ((List.pairwise_cons.mp sorted).1 m later)

/-- Sorted members are determined by what is found under each key. -/
theorem Sorted.ext {members members' : List (String × Json)} (sorted : Sorted members)
    (sorted' : Sorted members') (same : ∀ k, members.lookup k = members'.lookup k) :
    members = members' := by
  induction members generalizing members' with
  | nil =>
    match members' with
    | [] => rfl
    | (key, value) :: rest => simpa [lookup_member] using same key
  | cons m rest ih =>
    obtain ⟨key, value⟩ := m
    match members' with
    | [] => simpa [lookup_member] using same key
    | (key', value') :: rest' =>
      have here := same key
      have here' := same key'
      -- The smaller one of the first keys would be found on one side only.
      obtain before | rfl | behind := lt_trichotomy key key'
      · simp [lookup_eq_none (sorted'.before before)] at here
      · obtain rfl : value = value' := by simpa using here
        refine congrArg _ (ih sorted.tail sorted'.tail fun k => ?_)
        by_cases first : k = key
        · rw [first, sorted.lookup_rest, sorted'.lookup_rest]
        · simpa [lookup_member, first] using same k
      · simp [lookup_eq_none (sorted.before behind)] at here'

end Sorted

/-! ## Entering a member -/

theorem mem_enter {key : String} {value : Json} {members : List (String × Json)}
    {m : String × Json} (h : m ∈ enter key value members) : m = (key, value) ∨ m ∈ members := by
  induction members with
  | nil => simpa [enter] using h
  | cons n rest ih =>
    rw [enter] at h
    grind

theorem Sorted.enter {members : List (String × Json)} (sorted : Sorted members) (key : String)
    (value : Json) : Sorted (Json.enter key value members) := by
  induction members with
  | nil => exact List.pairwise_singleton _ _
  | cons m rest ih =>
    rw [Json.enter]
    split
    · rename_i before
      exact List.pairwise_cons.mpr ⟨sorted.before before, sorted⟩
    · split
      · exact sorted
      · rename_i notBefore other
        refine List.pairwise_cons.mpr ⟨?_, ih sorted.tail⟩
        intro n mem
        obtain rfl | later := mem_enter mem
        · exact lt_of_le_of_ne (String.not_lt.mp notBefore) (Ne.symm other)
        · exact (List.pairwise_cons.mp sorted).1 n later

/-- A member that is entered is found unless its key was there already. -/
theorem lookup_enter {members : List (String × Json)} (sorted : Sorted members) (key : String)
    (value : Json) (k : String) :
    (enter key value members).lookup k =
      (members.lookup k).or (if k = key then some value else none) := by
  induction members with
  | nil => rw [enter, lookup_member, List.lookup_nil, Option.none_or]
  | cons m rest ih =>
    obtain ⟨key', value'⟩ := m
    have absent : key < key' → ((key', value') :: rest).lookup key = none := fun before =>
      lookup_eq_none (sorted.before before)
    rw [enter]
    split
    · rename_i before
      rw [lookup_member]
      by_cases same : k = key
      · simp [same, absent before]
      · simp [same]
    · split
      · rename_i here
        subst here
        by_cases same : k = key <;> simp [lookup_member, same]
      · rename_i other
        rw [lookup_member, lookup_member, ih sorted.tail]
        by_cases first : k = key' <;> simp [first]

/-! ## Canonical members -/

theorem sorted_canonicalMembers (members : List (String × Json)) :
    Sorted (canonicalMembers members) := by
  induction members with
  | nil => exact .nil
  | cons m rest ih => exact ih.enter m.1 m.2.canonical

/-- Under each key the canonical form of the member that counts is found. -/
theorem lookup_canonicalMembers (members : List (String × Json)) (k : String) :
    (canonicalMembers members).lookup k = (counting members k).map canonical := by
  induction members with
  | nil => rfl
  | cons m rest ih =>
    obtain ⟨key, value⟩ := m
    rw [canonicalMembers, lookup_enter (sorted_canonicalMembers rest), ih, counting_cons]
    cases counting rest k <;> by_cases same : k = key <;> simp [same]

end GuardedSms.Json
