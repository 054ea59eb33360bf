import GuardedSms.Proofs.Json.Reading

/-!
# Readers that find no misfit

A misfit is a value of the wrong kind, so only a reader that expects some kind of value can report
one. The readers of tokens and of shapes expect none: whatever they turn down ends too early or is
malformed. Readers of arrays and objects find a misfit only where those of their parts do.

## Main definitions

* `NoMisfit`: an answer that is no misfit.

## Main statements

* `noMisfit_readShape`, `noMisfit_readOpening`: reading a value down to its shape finds no misfit.
-/
namespace GuardedSms.Json

variable {α β σ : Type}

/-- An answer that is no misfit. -/
def NoMisfit (x : Except Fault α) : Prop := ∀ m, x ≠ .error (.unfit m)

@[simp] theorem noMisfit_ok (a : α) : NoMisfit (.ok a) := nofun

@[simp] theorem noMisfit_endOfText : NoMisfit (.error .endOfText : Except Fault α) := nofun

@[simp] theorem noMisfit_malformed : NoMisfit (.error .malformed : Except Fault α) := nofun

/-- A sequence finds no misfit if none of its steps does. -/
theorem NoMisfit.bind {x : Except Fault α} {f : α → Except Fault β} (first : NoMisfit x)
    (next : ∀ a, NoMisfit (f a)) : NoMisfit (x >>= f) := by
  cases x with
  | error fault => exact fun m h => first m (by simpa using h)
  | ok a => exact next a

/-! ## Tokens -/

theorem noMisfit_readWord (word cs : List Char) : NoMisfit (readWord word cs) := by
  fun_induction readWord word cs with
  | case3 w word cs ih => exact ih
  | _ => simp

theorem noMisfit_readUnit (cs : List Char) : NoMisfit (readUnit cs) := by
  unfold readUnit
  repeat' split
  all_goals simp

theorem noMisfit_readTrailing (cs : List Char) : NoMisfit (readTrailing cs) := by
  unfold readTrailing
  split
  case h_3 rest =>
    refine (noMisfit_readUnit rest).bind fun ⟨unit, rest⟩ => ?_
    dsimp only
    split <;> simp
  all_goals simp

theorem noMisfit_readCode (cs : List Char) : NoMisfit (readCode cs) := by
  refine (noMisfit_readUnit cs).bind fun ⟨unit, rest⟩ => ?_
  dsimp only
  split
  · simp
  · split
    · exact (noMisfit_readTrailing _).bind fun _ => by simp
    · simp

theorem noMisfit_readChar (cs : List Char) : NoMisfit (readChar cs) := by
  unfold readChar readEscape
  repeat' split
  all_goals first | exact noMisfit_readCode _ | simp

theorem noMisfit_readChars (fuel : Nat) (cs : List Char) : NoMisfit (readChars fuel cs) := by
  fun_induction readChars fuel cs with
  | case3 fuel cs _ ih =>
    exact (noMisfit_readChar cs).bind fun p => (ih p.2).bind fun _ => by simp
  | _ => simp

theorem noMisfit_readString (cs : List Char) : NoMisfit (readString cs) :=
  (noMisfit_readChars cs.length cs).bind fun _ => by simp

theorem noMisfit_readDigits (cs : List Char) : NoMisfit (readDigits cs) := by
  unfold readDigits
  split <;> simp

theorem noMisfit_readNumeral (negative : Bool) (cs : List Char) :
    NoMisfit (readNumeral negative cs) := by
  have whole (cs : List Char) : NoMisfit (readWhole cs) := by
    refine (noMisfit_readDigits cs).bind fun ⟨digits, rest⟩ => ?_
    dsimp only
    split <;> simp
  have fraction (cs : List Char) : NoMisfit (readFraction cs) := by
    unfold readFraction
    split
    · exact (noMisfit_readDigits _).bind fun _ => by simp
    · simp
  have exponent (cs : List Char) : NoMisfit (readExponent cs) := by
    unfold readExponent
    split
    · split
      · exact (noMisfit_readDigits _).bind fun _ => by simp
      · simp
    · simp
  refine (whole cs).bind fun ⟨digits, rest⟩ => (fraction rest).bind fun ⟨behindPoint, rest⟩ =>
    (exponent rest).bind fun ⟨power, rest⟩ => ?_
  dsimp only
  split <;> simp

theorem noMisfit_readColon (cs : List Char) : NoMisfit (readColon cs) := by
  unfold readColon
  split <;> simp

/-! ## Values -/

theorem noMisfit_readMoreItems {item : Reader α} (none : ∀ cs, NoMisfit (item cs)) (fuel : Nat)
    (cs : List Char) : NoMisfit (readMoreItems item fuel cs) := by
  induction fuel generalizing cs with
  | zero => simp [readMoreItems]
  | succ fuel ih =>
    rw [readMoreItems]
    split
    case h_3 rest _ =>
      split
      case h_3 => exact (none _).bind fun p => (ih p.2).bind fun _ => by simp
      all_goals simp
    all_goals simp

theorem noMisfit_readItems {item : Reader α} (none : ∀ cs, NoMisfit (item cs)) (cs : List Char) :
    NoMisfit (readItems item cs) := by
  unfold readItems
  split
  case h_3 =>
    exact (none _).bind fun p => (noMisfit_readMoreItems none _ p.2).bind fun _ => by simp
  all_goals simp

theorem noMisfit_readMembers {member : σ → String → Reader σ}
    (none : ∀ s key cs, NoMisfit (member s key cs)) (s : σ) (cs : List Char) :
    NoMisfit (readMembers member s cs) := by
  have more (fuel : Nat) (s : σ) (cs : List Char) :
      NoMisfit (readMoreMembers member fuel s cs) := by
    induction fuel generalizing s cs with
    | zero => simp [readMoreMembers]
    | succ fuel ih =>
      rw [readMoreMembers]
      split
      case h_3 rest _ =>
        split
        case h_2 =>
          exact (noMisfit_readString _).bind fun p => (none s p.1 p.2).bind fun q => ih q.1 q.2
        all_goals simp
      all_goals simp
  unfold readMembers
  split
  case h_3 =>
    exact (noMisfit_readString _).bind fun p => (none s p.1 p.2).bind fun q => more _ q.1 q.2
  all_goals simp

theorem noMisfit_readValue {array object : Reader Shape} (arrays : ∀ cs, NoMisfit (array cs))
    (objects : ∀ cs, NoMisfit (object cs)) (cs : List Char) :
    NoMisfit (readValue array object cs) := by
  unfold readValue
  split
  case h_1 => simp
  case h_2 => exact arrays _
  case h_3 => exact objects _
  case h_4 => exact (noMisfit_readString _).bind fun _ => by simp
  case h_8 => exact noMisfit_readNumeral true _
  case h_9 =>
    split
    · exact noMisfit_readNumeral false _
    · simp
  all_goals exact (noMisfit_readWord _ _).bind fun _ => by simp

theorem noMisfit_readOpening (cs : List Char) : NoMisfit (readOpening cs) :=
  noMisfit_readValue (fun _ => by simp) (fun _ => by simp) cs

theorem noMisfit_readShape (budget : Nat) (cs : List Char) : NoMisfit (readShape budget cs) := by
  induction budget generalizing cs with
  | zero => exact noMisfit_readValue (fun _ => by simp) (fun _ => by simp) cs
  | succ budget ih =>
    refine noMisfit_readValue (fun cs => ?array) (fun cs => ?object) cs
    case array => exact (noMisfit_readItems ih cs).bind fun _ => by simp
    case object =>
      have members : NoMisfit (readMembers
          (fun (_ : Shape) (_ : String) cs => readColon cs >>= readShape budget) .map cs) :=
        noMisfit_readMembers (fun _ _ cs => (noMisfit_readColon cs).bind ih) .map cs
      exact members.bind fun _ => by simp

end GuardedSms.Json
