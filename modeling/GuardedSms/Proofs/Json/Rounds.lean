import GuardedSms.Json
import GuardedSms.Json.Fault

/-!
# Rounds over members

A reader of objects may look at some keys only, allow each of them once, and check the values
behind them. It goes over the members from the left and is refused by the first objection.

## Main definitions

* `objection`: what speaks against a member, with the members before it in view.
* `firstObjection`: the first objection from the left.
* `Round`: a step over members that makes these objections.

## Main statements

* `Round.foldlM_ok`, `Round.foldlM_error`: a round over the members ends at its first objection.
-/
namespace GuardedSms.Json

/-! ## Objections -/

/-- What speaks against a member if only some keys count, each of them may stand once, and `wrong`
tells what is wrong with the value behind one. -/
def objection (keys : List String) (wrong : Json → Option String) (before : List (String × Json))
    (m : String × Json) : Option String :=
  if m.1 ∉ keys then none
  else if (before.lookup m.1).isSome then some ("duplicate field `" ++ m.1 ++ "`")
  else wrong m.2

/-- The first objection to one of the members, from the left. -/
def firstObjection (keys : List String) (wrong : Json → Option String) :
    (before members : List (String × Json)) → Option String
  | _, [] => none
  | before, m :: rest =>
    (objection keys wrong before m).or (firstObjection keys wrong (before ++ [m]) rest)

/-- The text of a misfit, if there is one. -/
def worded {α : Type} : Except Misfit α → Option String
  | .error misfit => some misfit.message
  | .ok _ => none

theorem mapError_bind {ε ε' α β : Type} (f : ε → ε') (x : Except ε α) (g : α → Except ε β) :
    (x >>= g).mapError f = x.mapError f >>= fun a => (g a).mapError f := by
  cases x <;> rfl

theorem foldlM_mapError {ε ε' σ α : Type} (f : ε → ε') (step : σ → α → Except ε σ) (s : σ)
    (items : List α) :
    items.foldlM (fun s a => (step s a).mapError f) s = (items.foldlM step s).mapError f := by
  induction items generalizing s with
  | nil => rfl
  | cons a items ih =>
    rw [List.foldlM_cons, List.foldlM_cons, mapError_bind]
    exact bind_congr fun s => ih s

/-! ## One round over the members -/

section Rounds

variable {α σ : Type}

/-- The first members with the given keys pass a check. -/
def Checked (keys : List String) (check : Json → Except Misfit α)
    (members : List (String × Json)) : Prop :=
  ∀ key ∈ keys, ∀ value ∈ members.lookup key, ∃ a, check value = .ok a

/-- A step over members that checks the values behind some keys, each of which may stand once. The
state it reaches depends on all members up to there. -/
structure Round (keys : List String) (check : Json → Except Misfit α)
    (step : σ → String × Json → Except Misfit σ) (state : List (String × Json) → σ) : Prop where
  ignores : ∀ before {m : String × Json}, m.1 ∉ keys →
    step (state before) m = .ok (state (before ++ [m]))
  checks : ∀ {before} {m : String × Json}, Checked keys check before → m.1 ∈ keys →
    step (state before) m =
      if (before.lookup m.1).isSome then .error (.duplicateField m.1)
      else (check m.2).map fun _ => state (before ++ [m])

variable {keys : List String} {check : Json → Except Misfit α} {wrong : Json → Option String}
variable {step : σ → String × Json → Except Misfit σ} {state : List (String × Json) → σ}
variable {before : List (String × Json)}

theorem lookup_concat_same {key : String} (value : Json) (fresh : before.lookup key = none) :
    (before ++ [(key, value)]).lookup key = some value := by
  simp [List.lookup_append, fresh]

theorem lookup_concat_other {m : String × Json} {key : String} (other : m.1 ≠ key) :
    (before ++ [m]).lookup key = before.lookup key := by
  obtain ⟨k, value⟩ := m
  simp [List.lookup_append, List.lookup_cons, beq_false_of_ne (Ne.symm other)]

theorem Checked.concat (passed : Checked keys check before) {m : String × Json}
    (fine : m.1 ∈ keys → ∃ a, check m.2 = .ok a) : Checked keys check (before ++ [m]) := by
  intro key counts value first
  cases earlier : before.lookup key with
  | some v =>
    obtain rfl : v = value := by simpa [List.lookup_append, earlier] using first
    exact passed key counts v earlier
  | none =>
    by_cases same : m.1 = key
    · subst same
      obtain rfl : m.2 = value :=
        Option.some_inj.mp ((lookup_concat_same m.2 earlier).symm.trans first)
      exact fine counts
    · exact nomatch earlier.symm.trans ((lookup_concat_other same).symm.trans first)

/-- One step of a round is refused by an objection. -/
theorem Round.step_error (round : Round keys check step state)
    (wording : ∀ value, wrong value = worded (check value)) (passed : Checked keys check before)
    {m : String × Json} {text : String} (objected : objection keys wrong before m = some text) :
    (step (state before) m).mapError Misfit.message = .error text := by
  unfold objection at objected
  split at objected
  · contradiction
  · rename_i counts
    rw [round.checks passed (Decidable.not_not.mp counts)]
    by_cases repeated : (before.lookup m.1).isSome
    · rw [if_pos repeated] at objected ⊢
      exact congrArg Except.error (Option.some_inj.mp objected)
    · rw [if_neg repeated, wording] at objected
      rw [if_neg repeated]
      cases checked : check m.2 with
      | error misfit =>
        rw [checked] at objected
        exact congrArg Except.error (Option.some_inj.mp objected)
      | ok a => simp [checked, worded] at objected

/-- One step of a round passes a member without an objection. -/
theorem Round.step_ok (round : Round keys check step state)
    (wording : ∀ value, wrong value = worded (check value)) (passed : Checked keys check before)
    {m : String × Json} (clear : objection keys wrong before m = none) :
    step (state before) m = .ok (state (before ++ [m])) ∧ Checked keys check (before ++ [m]) := by
  unfold objection at clear
  split at clear
  · rename_i ignored
    exact ⟨round.ignores before ignored, passed.concat fun counts => absurd counts ignored⟩
  · rename_i counts
    rw [round.checks passed (Decidable.not_not.mp counts)]
    by_cases repeated : (before.lookup m.1).isSome
    · simp [repeated] at clear
    · rw [if_neg repeated, wording] at clear
      rw [if_neg repeated]
      cases checked : check m.2 with
      | error misfit => simp [checked, worded] at clear
      | ok a => exact ⟨rfl, passed.concat fun _ => ⟨a, checked⟩⟩

/-- A round is refused by its first objection. -/
theorem Round.foldlM_error (round : Round keys check step state)
    (wording : ∀ value, wrong value = worded (check value)) (passed : Checked keys check before)
    {members : List (String × Json)} {text : String}
    (first : firstObjection keys wrong before members = some text) :
    (members.foldlM step (state before)).mapError Misfit.message = .error text := by
  induction members generalizing before with
  | nil => contradiction
  | cons m members ih =>
    rw [List.foldlM_cons, mapError_bind]
    cases h : objection keys wrong before m with
    | some here =>
      obtain rfl : here = text := by simpa [firstObjection, h] using first
      rw [round.step_error wording passed h]
      rfl
    | none =>
      obtain ⟨moved, passed'⟩ := round.step_ok wording passed h
      rw [moved]
      exact ih passed' (by simpa [firstObjection, h] using first)

/-- A round without objections passes all members. -/
theorem Round.foldlM_ok (round : Round keys check step state)
    (wording : ∀ value, wrong value = worded (check value)) (passed : Checked keys check before)
    {members : List (String × Json)} (clear : firstObjection keys wrong before members = none) :
    members.foldlM step (state before) = .ok (state (before ++ members)) ∧
      Checked keys check (before ++ members) := by
  induction members generalizing before with
  | nil =>
    rw [List.append_nil]
    exact ⟨rfl, passed⟩
  | cons m members ih =>
    obtain ⟨here, later⟩ : objection keys wrong before m = none ∧
        firstObjection keys wrong (before ++ [m]) members = none := by
      simpa [firstObjection] using clear
    obtain ⟨moved, passed'⟩ := round.step_ok wording passed here
    rw [List.append_cons before m members, List.foldlM_cons, moved]
    exact ih passed' later

theorem checked_nil : Checked keys check [] := by
  simp [Checked]

/-- After a round the members that count are there as far as they passed the check. -/
theorem Checked.isSome_toOption (passed : Checked keys check before) {key : String}
    (counts : key ∈ keys) :
    ((before.lookup key).bind fun value => (check value).toOption).isSome =
      (before.lookup key).isSome := by
  cases first : before.lookup key with
  | none => rfl
  | some value =>
    obtain ⟨a, checked⟩ := passed key counts value first
    simp [checked, Except.toOption]

end Rounds

end GuardedSms.Json
