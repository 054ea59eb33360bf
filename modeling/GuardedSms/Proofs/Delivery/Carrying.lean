import GuardedSms.Proofs.Delivery.Precedence

/-!
# Members that carry a delivery

The members of an object carry a delivery if its kind and its fields stand among them once each.
Neither their order nor the members beside them count: such an object is decoded to the delivery.

## Main definitions

* `Carries`: the members that count are those of the delivery, in any order.

## Main statements

* `described_of_carries`: members that carry a delivery describe it.
* `decode_of_carries`: so the object that holds them is decoded to the delivery.
-/
namespace GuardedSms.Json

variable {keys : List String} {members : List (String × Json)}

/-! ## Members that count once -/

/-- The keys that count are all different. -/
def Distinct (keys : List String) (members : List (String × Json)) : Prop :=
  ((members.filter (·.1 ∈ keys)).map (·.1)).Nodup

theorem Distinct.mono {keys' : List String} (h : Distinct keys members)
    (fewer : ∀ key ∈ keys', key ∈ keys) : Distinct keys' members := by
  refine h.sublist (List.Sublist.map _ ?_)
  refine List.monotone_filter_right members fun m counts => ?_
  simp only [decide_eq_true_eq] at counts ⊢
  exact fewer _ counts

/-- In front of a member that counts there is none with its key. -/
theorem Distinct.lookup_front {before after : List (String × Json)} {m : String × Json}
    (h : Distinct keys (before ++ m :: after)) (counts : m.1 ∈ keys) :
    before.lookup m.1 = none := by
  rw [List.lookup_eq_none_iff]
  intro p mem
  have apart : p.1 ∈ keys → p.1 ≠ m.1 := by
    intro counts'
    unfold Distinct at h
    rw [List.filter_append, List.filter_cons_of_pos (by simpa using counts), List.map_append,
      List.nodup_append] at h
    refine h.2.2 _ ?_ _ List.mem_cons_self
    exact List.mem_map_of_mem (List.mem_filter.mpr ⟨mem, by simpa using counts'⟩)
  rw [bne_iff_ne]
  intro same
  exact apart (same ▸ counts) same.symm

theorem Distinct.lookup_of_mem (h : Distinct keys members) {m : String × Json}
    (counts : m.1 ∈ keys) (mem : m ∈ members) : members.lookup m.1 = some m.2 := by
  obtain ⟨before, after, rfl⟩ := List.append_of_mem mem
  obtain ⟨key, value⟩ := m
  rw [List.lookup_append, h.lookup_front counts, Option.none_or, List.lookup_cons_self]

/-- Nothing speaks against members that count once each and hold the right values. -/
theorem firstObjection_eq_none {wrong : Json → Option String} {before : List (String × Json)}
    (distinct : Distinct keys (before ++ members))
    (right : ∀ m ∈ members, m.1 ∈ keys → wrong m.2 = none) :
    firstObjection keys wrong before members = none := by
  induction members generalizing before with
  | nil => rfl
  | cons m members ih =>
    rw [List.forall_mem_cons] at right
    have here : objection keys wrong before m = none := by
      unfold objection
      split
      · rfl
      · rename_i counts
        rw [Decidable.not_not] at counts
        rw [distinct.lookup_front counts]
        exact right.1 counts
    rw [firstObjection, here, Option.none_or]
    exact ih (by rwa [List.append_assoc]) right.2

end GuardedSms.Json

namespace GuardedSms.Delivery

open Json

/-! ## The members of a delivery -/

def kind : Delivery → Kind
  | send .. => .send
  | log _ => .log

/-- The keys that count for a kind. -/
def Kind.keys (k : Kind) : List String := effectKey :: k.fields

theorem Kind.keys_nodup (k : Kind) : k.keys.Nodup := by
  cases k <;> decide

theorem map_fst_members (d : Delivery) : d.members.map (·.1) = d.kind.keys := by
  cases d <;> rfl

theorem notText_of_mem_members {d : Delivery} {m : String × Json} (mem : m ∈ d.members) :
    notText m.2 = none := by
  have texts : ∀ m ∈ d.members, notText m.2 = none := by cases d <;> simp [members, notText]
  exact texts m mem

theorem notKind_name (k : Kind) : notKind (.str k.name) = none := by
  cases k <;> rfl

/-! ## Members that carry a delivery -/

/-- Among some members, those that count for a delivery are its own, in any order. -/
def Carries (members : List (String × Json)) (d : Delivery) : Prop :=
  (members.filter (·.1 ∈ d.kind.keys)).Perm d.members

variable {members : List (String × Json)} {d : Delivery}

theorem Carries.mem_iff (h : Carries members d) {m : String × Json} (counts : m.1 ∈ d.kind.keys) :
    m ∈ members ↔ m ∈ d.members := by
  have kept : m ∈ members.filter (·.1 ∈ d.kind.keys) ↔ m ∈ members := by simp [counts]
  exact kept.symm.trans (List.Perm.mem_iff h)

/-- Members whose keys do not count may stand anywhere. -/
theorem carries_insert {before after : List (String × Json)} {m : String × Json}
    (ignored : m.1 ∉ d.kind.keys) :
    Carries (before ++ m :: after) d ↔ Carries (before ++ after) d := by
  simp [Carries, ignored]

theorem Carries.distinct (h : Carries members d) : Distinct d.kind.keys members := by
  refine (h.map (·.1)).nodup_iff.mpr ?_
  rw [map_fst_members]
  exact d.kind.keys_nodup

theorem Carries.lookup (h : Carries members d) {m : String × Json} (counts : m.1 ∈ d.kind.keys)
    (mem : m ∈ d.members) : members.lookup m.1 = some m.2 :=
  h.distinct.lookup_of_mem counts ((h.mem_iff counts).mpr mem)

theorem Carries.lookup_effect (h : Carries members d) :
    members.lookup effectKey = some (.str d.kind.name) := by
  refine h.lookup (m := (effectKey, .str d.kind.name)) (.head _) ?_
  cases d <;> exact .head _

theorem Carries.required_field (h : Carries members d) {key text : String}
    (field : key ∈ d.kind.fields) (mem : (key, .str text) ∈ d.members) :
    required members key = .ok text := by
  rw [required, h.lookup (m := (key, .str text)) (.tail _ field) mem]

theorem Carries.describedAs (h : Carries members d) : describedAs d.kind members = .ok d := by
  have clear : firstObjection d.kind.fields notText [] members = none := by
    refine firstObjection_eq_none (h.distinct.mono fun _ => .tail _) fun m mem field => ?_
    exact notText_of_mem_members ((h.mem_iff (.tail _ field)).mp mem)
  change (heed (firstObjection d.kind.fields notText [] members) >>= _) = _
  rw [clear]
  cases d with
  | send number message =>
    have number : required members numberKey = .ok number :=
      h.required_field (.head _) (.tail _ (.head _))
    have message : required members messageKey = .ok message :=
      h.required_field (.tail _ (.head _)) (.tail _ (.tail _ (.head _)))
    simp only [kind, number, message]
    rfl
  | log message =>
    have message : required members messageKey = .ok message :=
      h.required_field (.head _) (.tail _ (.head _))
    simp only [kind, message]
    rfl

/-- Members that carry a delivery describe it. -/
theorem described_of_carries (h : Carries members d) : described members = .ok d := by
  have clear : firstObjection [effectKey] notKind [] members = none := by
    refine firstObjection_eq_none (h.distinct.mono ?_) fun m mem isKind => ?_
    · rintro key (_ | ⟨_, ⟨⟩⟩)
      exact .head _
    · obtain rfl : m = (effectKey, .str d.kind.name) := by
        obtain ⟨key, value⟩ := m
        obtain rfl : key = effectKey := by simpa using isKind
        have first := h.distinct.lookup_of_mem (.head _) mem
        rw [h.lookup_effect] at first
        rw [Option.some_inj.mp first]
      exact notKind_name d.kind
  rw [described_of_kind clear h.lookup_effect, h.describedAs]

/-- Members that carry a delivery are all gathered, and make it up. -/
theorem gather_of_carries (h : Carries members d) :
    members.foldlM gather {} >>= ofGathered = .ok d := by
  have answer := gather_ofGathered members
  rw [described_of_carries h] at answer
  cases made : members.foldlM gather {} >>= ofGathered with
  | error misfit =>
    rw [made] at answer
    contradiction
  | ok d' =>
    rw [made] at answer
    exact congrArg Except.ok (Except.ok.inj answer)

/-- An object whose members carry a delivery is decoded to it. -/
theorem decode_of_carries (h : Carries members d) (fit : ∀ m ∈ members, m.2.IntegersFit)
    (shallow : ∀ m ∈ members, m.2.depth ≤ 126) :
    decode (String.ofList (obj members).chars) = .ok d := by
  rw [decode_obj fit shallow, gather_of_carries h]
  rfl

end GuardedSms.Delivery
