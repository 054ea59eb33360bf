import GuardedSms.Proofs.Delivery.Carrying

/-!
# The limit on nesting

Arrays and objects that are read down to their shapes may be nested 127 deep, the object of the
delivery counted. The depth of a value is all that counts for that: not what stands beside it, nor
what was read before it. What is nested deeper is malformed as soon as the last bracket or brace is
met that exceeds the limit, so a text may be of any depth, and need not be closed.

## Main definitions

* `OpensLevels`: a text that begins with some levels of arrays and objects, closed or not.

## Main statements

* `readShape_opens`: a text that opens more levels than the budget allows is malformed.
* `decode_nested`: the limit is exact for what stands among the members of a delivery.
-/
namespace GuardedSms.Json

/-! ## Texts that open many levels -/

/-- A text that begins with some arrays and objects, each one the first part of the one before. -/
inductive OpensLevels : (levels : Nat) → List Char → Prop
  | anything (cs : List Char) : OpensLevels 0 cs
  | array {n : Nat} {cs : List Char} (h : OpensLevels n cs) : OpensLevels (n + 1) ('[' :: cs)
  | object {n : Nat} {cs : List Char} (key : String) (h : OpensLevels n cs) :
      OpensLevels (n + 1) ('{' :: (quoted key ++ ':' :: cs))

theorem OpensLevels.front {n : Nat} {cs : List Char} (h : OpensLevels (n + 1) cs) :
    ∃ c t, skipBlanks cs = c :: t ∧ c ≠ ']' := by
  cases h with
  | array h => exact ⟨'[', _, rfl, by decide⟩
  | object key h => exact ⟨'\x7b', _, rfl, by decide⟩

theorem readItems_first_error {α : Type} {r : Reader α} (skips : ∀ cs, r (skipBlanks cs) = r cs)
    {cs : List Char} {c : Char} {t : List Char} (front : skipBlanks cs = c :: t) (noEnd : c ≠ ']')
    {fault : Fault} (refused : r cs = .error fault) : readItems r cs = .error fault := by
  rw [readItems_first skips front noEnd, refused]
  rfl

theorem readMembers_first_error {σ : Type} {member : σ → String → Reader σ} {s : σ} {key : String}
    {cs : List Char} {fault : Fault} (refused : member s key (':' :: cs) = .error fault) :
    readMembers member s (quoted key ++ ':' :: cs) = .error fault := by
  obtain ⟨k, quote, spelt⟩ := exists_cons_quoted key
  have read : readString (k ++ ':' :: cs) = .ok (key, ':' :: cs) :=
    readString_eq_ok_iff.mpr ⟨k, spelt, rfl⟩
  have keyed : readKeyed member s (k ++ ':' :: cs) = .error fault := by
    rw [readKeyed, read]
    exact refused
  rw [quote, List.cons_append, readMembers_quote, keyed]
  rfl

/-- A text that opens more levels than the budget allows is malformed, whatever follows. -/
theorem readShape_opens {n budget : Nat} {cs : List Char} (h : OpensLevels n cs)
    (deep : budget < n) : readShape budget cs = .error .malformed := by
  induction h generalizing budget with
  | anything cs => omega
  | @array n cs h ih =>
    cases budget with
    | zero => rfl
    | succ budget =>
      obtain ⟨n, rfl⟩ : ∃ n', n = n' + 1 := ⟨n - 1, by omega⟩
      obtain ⟨c, t, front, noEnd⟩ := h.front
      have refused : readShape budget cs = .error .malformed := ih (by omega)
      rw [readShape_bracket,
        readItems_first_error (readShape_skipBlanks budget) front noEnd refused]
      rfl
  | @object n cs key h ih =>
    cases budget with
    | zero => rfl
    | succ budget =>
      have refused : readMemberShape budget .map key (':' :: cs) = .error .malformed := ih (by omega)
      rw [readShape_brace, readMembers_first_error refused]
      rfl

end GuardedSms.Json

namespace GuardedSms.Delivery

open Json

variable {d : Delivery} {before after : List (String × Json)} {key : String} {value : Json}

/-! ## One member that is nested too deeply -/

theorem gatherWithin_deep (other : key ≠ effectKey) (deep : 127 ≤ value.depth) (g : Gathered) :
    gatherWithin g (key, value) = .error .malformed := by
  refine if_neg (not_or.mpr ⟨other, ?_⟩)
  show ¬ value.depth ≤ 126
  omega

/-- The members before such a member are gathered first, and nothing speaks against them. -/
theorem foldlM_gatherWithin_deep (carried : Carries (before ++ after) d)
    (shallow : ∀ m ∈ before, m.2.depth ≤ 126) (other : key ≠ effectKey)
    (deep : 127 ≤ value.depth) :
    (before ++ (key, value) :: after).foldlM gatherWithin {} = .error .malformed := by
  obtain ⟨g, gathered, -⟩ := bind_eq_ok_iff.mp (gather_of_carries carried)
  rw [List.foldlM_append] at gathered
  obtain ⟨g', front, -⟩ := bind_eq_ok_iff.mp gathered
  rw [List.foldlM_append, foldlM_gatherWithin shallow, front]
  change ((key, value) :: after).foldlM gatherWithin g' = _
  rw [List.foldlM_cons, gatherWithin_deep other deep]
  rfl

theorem decode_obj_deep (carried : Carries (before ++ after) d)
    (fit : ∀ m ∈ before ++ (key, value) :: after, m.2.IntegersFit)
    (shallow : ∀ m ∈ before, m.2.depth ≤ 126) (other : key ≠ effectKey)
    (deep : 127 ≤ value.depth) :
    decode (String.ofList (obj (before ++ (key, value) :: after)).chars) = .error .malformed := by
  have read := reader_obj_append fit []
  rw [List.append_nil, foldlM_gatherWithin_deep carried shallow other deep] at read
  rw [decode, readAll, String.toList_ofList, read]
  rfl

/-- The first member opens too many levels. -/
theorem decode_opens (other : key ≠ effectKey) {cs : List Char} (deep : OpensLevels 127 cs) :
    decode (String.ofList ('{' :: (quoted key ++ ':' :: cs))) = .error .malformed := by
  have refused : readMember {} key (':' :: cs) = .error .malformed := by
    have colon : readColon (':' :: cs) = .ok cs := readColon_append blanks_nil cs
    rw [readMember_other other, colon, ok_bind, readShape_opens deep (by decide)]
    rfl
  rw [decode, readAll, String.toList_ofList, reader_brace, readObject,
    readMembers_first_error refused]
  rfl

/-! ## The limit -/

/-- An object that carries a delivery holds a further member whose key does not count. If the value
of that member is nested no deeper than 126, the object is decoded as it is without the member, and
otherwise it is malformed. So is any text whose first member opens 127 levels, closed or not. -/
theorem decode_nested (d : Delivery) (before after : List (String × Json)) (key : String)
    (value : Json) (carried : Carries (before ++ after) d) (ignored : key ∉ d.kind.keys)
    (fit : ∀ m ∈ before ++ (key, value) :: after, m.2.IntegersFit)
    (shallow : ∀ m ∈ before ++ after, m.2.depth ≤ 126) :
    decode (String.ofList (obj (before ++ after)).chars) = .ok d ∧
      decode (String.ofList (obj (before ++ (key, value) :: after)).chars) =
        (if value.depth ≤ 126 then .ok d else .error .malformed) ∧
      ∀ cs, OpensLevels 127 cs →
        decode (String.ofList ('{' :: (quoted key ++ ':' :: cs))) = .error .malformed := by
  have other : key ≠ effectKey := fun isKind => ignored (isKind ▸ .head _)
  have within : ∀ m ∈ before ++ after, m ∈ before ++ (key, value) :: after := by
    intro m mem
    simp only [List.mem_append, List.mem_cons] at mem ⊢
    exact mem.imp_right .inr
  refine ⟨decode_of_carries carried (fun m mem => fit m (within m mem)) shallow, ?_,
    fun cs => decode_opens other⟩
  by_cases flat : value.depth ≤ 126
  · rw [if_pos flat]
    refine decode_of_carries ((carries_insert ignored).mpr carried) fit fun m mem => ?_
    obtain mem | rfl | mem : m ∈ before ∨ m = (key, value) ∨ m ∈ after := by simpa using mem
    · exact shallow m (List.mem_append_left _ mem)
    · exact flat
    · exact shallow m (List.mem_append_right _ mem)
  · rw [if_neg flat]
    have front : ∀ m ∈ before, m.2.depth ≤ 126 :=
      fun m mem => shallow m (List.mem_append_left _ mem)
    exact decode_obj_deep carried fit front other (by omega)

/-- Arrays around `null`. -/
def nested : Nat → Json
  | 0 => .null
  | n + 1 => .arr [nested n]

theorem depth_nested (n : Nat) : (nested n).depth = n := by
  induction n with
  | zero => rfl
  | succ n ih => simp [nested, depth, depthItems, ih]

theorem integersFit_nested (n : Nat) : (nested n).IntegersFit := by
  induction n with
  | zero => trivial
  | succ n ih => exact ⟨ih, trivial⟩

theorem opensLevels_replicate (n : Nat) : OpensLevels n (List.replicate n '[') := by
  induction n with
  | zero => exact .anything []
  | succ n ih => exact .array ih

/-- The kind comes late, and a number does not count for a text that is logged. -/
theorem decode_nested_boundary :
    decode (String.ofList (obj [("message", .str "hi"), ("note", nested 126),
        ("effect", .str "log"), ("number", .int 5)]).chars) = .ok (log "hi") ∧
      decode (String.ofList (obj [("message", .str "hi"), ("note", nested 127),
        ("effect", .str "log"), ("number", .int 5)]).chars) = .error .malformed ∧
      decode (String.ofList ('{' :: (quoted "note" ++ ':' :: List.replicate 127 '['))) =
        .error .malformed := by
  have carried : Carries ([("message", .str "hi")] ++ [("effect", .str "log"), ("number", .int 5)])
      (log "hi") := .swap _ _ _
  have ignored : "note" ∉ (log "hi").kind.keys := by decide
  have fit (n : Nat) : ∀ m ∈ [("message", .str "hi")] ++
      ("note", nested n) :: [("effect", .str "log"), ("number", .int 5)], m.2.IntegersFit := by
    simp [IntegersFit, Fits, integersFit_nested]
  have shallow : ∀ m ∈ [("message", Json.str "hi")] ++
      [("effect", .str "log"), ("number", .int 5)], m.2.depth ≤ 126 := by decide
  have decoded (n : Nat) :=
    decode_nested (log "hi") _ _ "note" (nested n) carried ignored (fit n) shallow
  have kept := (decoded 126).2.1
  have refused := (decoded 127).2.1
  rw [depth_nested] at kept refused
  exact ⟨kept, refused, (decoded 127).2.2 _ (opensLevels_replicate 127)⟩

end GuardedSms.Delivery
