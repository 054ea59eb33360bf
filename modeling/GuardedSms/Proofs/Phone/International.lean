import GuardedSms.Phone.Validator
import Mathlib.Data.List.TakeDrop

/-!
# International numbers

A number that starts with a plus carries its country code, so no region has to be known to read
it. A region takes part in the reading all the same: what is dialled there for calls abroad, or
before a number inside the region, is left out of the digits even where they belong to another
country. Only a region in which nothing of the kind is found has no say in the verdict.

This is said of any directory, as far as it covers the region and the country code.

## Main definitions

* `Directory.leavesAlone`: nothing is left out of a number in a region.
* `Directory.Aloof`: a region that has no say in a number.

## Main statements

* `Dialled.ofText?_plus`: the plus of a number stays in front of what is dialled, or has given the
  country code.
* `Directory.read_of_leavesAlone`: a region that leaves a number alone has no part in reading it.
* `validator_region_irrelevant`: regions that have no say in a number agree on it.
* `validator_depends_on_region`: other regions may not.
-/
namespace GuardedSms

/-! ## What stays in front -/

namespace Pattern

/-- What stands before a match is a beginning of the sequence. -/
theorem prefix_search? {τ : Type} {p : Pattern τ} {s before : List τ} {m : Match τ}
    (found : p.search? s = some (before, m)) : before <+: s := by
  induction s generalizing before with
  | nil =>
    cases here : p.match? [] with
    | none => simp [search?, here] at found
    | some m' =>
      obtain ⟨rfl, -⟩ : [] = before ∧ m' = m := by simpa [search?, here] using found
      exact List.nil_prefix
  | cons x rest ih =>
    cases here : p.match? (x :: rest) with
    | none =>
      obtain ⟨before', later, rfl⟩ : ∃ before', p.search? rest = some (before', m) ∧
          x :: before' = before := by simpa [search?, here] using found
      exact List.cons_prefix_cons.mpr ⟨rfl, ih later⟩
    | some m' =>
      obtain ⟨rfl, -⟩ : [] = before ∧ m' = m := by simpa [search?, here] using found
      exact List.nil_prefix

end Pattern

namespace Phone

namespace Dialled

theorem prefix_dropTail (cs : List Char) : dropTail cs <+: cs := by
  have kept : cs.reverse.dropWhile (!endsNumber ·) <:+ cs.reverse := List.dropWhile_suffix _
  simpa [dropTail] using List.reverse_prefix.mpr kept

theorem prefix_dropSecond (cs : List Char) : dropSecond cs <+: cs := by
  induction cs with
  | nil => exact List.nil_prefix
  | cons c rest ih =>
    rw [dropSecond]
    split
    · exact List.nil_prefix
    · exact List.cons_prefix_cons.mpr ⟨rfl, ih⟩

theorem prefix_cutExtension? {cs left : List Char} (cut : cutExtension? cs = some left) :
    left <+: cs := by
  rw [cutExtension?] at cut
  cases found : extension.search? cs with
  | none =>
    obtain rfl : cs = left := by simpa [found] using cut
    exact List.prefix_refl cs
  | some split =>
    obtain ⟨before, m⟩ := split
    obtain ⟨-, rfl⟩ : (m.groups.lookup announcedGroup).isSome ∧ before = left := by
      simpa [found] using cut
    exact Pattern.prefix_search? found

/-- What is found in free text starts where the first number does. -/
theorem prefix_ofFreeText? {cs : List Char} {d : Dialled} (found : ofFreeText? cs = some d) :
    d.national <+: cs.dropWhile (!startsNumber ·) := by
  let number := dropSecond (dropTail (cs.dropWhile (!startsNumber ·)))
  have inside : number <+: cs.dropWhile (!startsNumber ·) :=
    (prefix_dropSecond _).trans (prefix_dropTail _)
  rw [ofFreeText?] at found
  split at found
  · contradiction
  · obtain ⟨left, cut, rfl⟩ : ∃ left, cutExtension? number = some left ∧ ⟨left, none⟩ = d :=
      Option.bind_eq_some_iff.mp found |>.imp fun _ h => ⟨h.1, Option.some_inj.mp h.2⟩
    exact (prefix_cutExtension? cut).trans inside

theorem takeCountry_plus (rest : List Char) :
    takeCountry ('+' :: rest) = (none, '+' :: rest) ∨
      ∃ country behind, takeCountry ('+' :: rest) = (some country, behind) := by
  rw [takeCountry]
  split
  · exact .inl rfl
  · exact .inr ⟨_, _, rfl⟩

/-- A link that starts with a plus gives the country code apart. -/
theorem isSome_country_ofLink? {rest : List Char} {d : Dialled}
    (found : ofLink? ('+' :: rest) = some d) : d.country.isSome := by
  have noScheme : dropScheme ('+' :: rest) = '+' :: rest := by
    rw [dropScheme, if_neg]
    intro scheme
    have front : some '+'.toLower = some 't' := congrArg List.head? scheme
    contradiction
  have noDigit : ('+' :: rest).span isLinkDigit = ([], '+' :: rest) := by
    simp [List.span_eq_takeWhile_dropWhile, show isLinkDigit '+' = false by decide]
  rw [ofLink?, noScheme] at found
  split at found
  · contradiction
  · -- Without a country code the plus itself would have to be dialled.
    obtain absent | ⟨country, behind, taken⟩ := takeCountry_plus rest
    · simp only [absent, noDigit, reduceCtorEq] at found
    · simp only [taken] at found
      split at found
      · contradiction
      · split at found
        · obtain rfl := Option.some_inj.mp found
          rfl
        · obtain rfl := Option.some_inj.mp found
          rfl
        · contradiction

/-- The plus of a number stays in front of what is dialled, unless nothing is left or the country
code behind it was given apart. -/
theorem ofText?_plus {text : String} (plus : text.toList.head? = some '+') {d : Dialled}
    (dialled : ofText? text = some d) :
    d.country.isSome ∨ d.national.head? = some '+' ∨ d.national = [] := by
  obtain ⟨rest, written⟩ := List.head?_eq_some_iff.mp plus
  rw [ofText?, written] at dialled
  split at dialled
  · rename_i link found
    obtain rfl := Option.some_inj.mp dialled
    exact .inl (isSome_country_ofLink? found)
  · have front := prefix_ofFreeText? dialled
    have starts : ('+' :: rest).dropWhile (!startsNumber ·) = '+' :: rest := by
      rw [List.dropWhile_cons_of_neg (by decide)]
    rw [starts, List.prefix_cons_iff] at front
    obtain nothing | ⟨t, kept, -⟩ := front
    · exact .inr (.inr nothing)
    · exact .inr (.inl (by rw [kept]; rfl))

end Dialled

/-! ## Reading without a region -/

namespace Number

/-- What starts with a plus was not dialled inside a region. -/
theorem origin_keys_ne_inside {d : Dialled}
    (plus : d.country.isSome ∨ d.national.head? = some '+') (home : Option Home) :
    (keys home d).1 ≠ .inside := by
  rw [keys]
  cases given : d.country with
  | some country => exact nofun
  | none =>
    have front : d.national.head? = some '+' := plus.resolve_left (by simp [given])
    have isPlus : (d.national.head?.map Dialled.isPlus).getD false = true := by rw [front]; rfl
    dsimp only
    split
    · exact nofun
    · rw [isPlus]
      exact nofun

/-- The country code of what was not dialled inside a region does not depend on one. -/
theorem splitCode_of_ne_inside {origin : Origin} (outside : origin ≠ .inside)
    (home : Option Home) (n : List Digit) : splitCode home origin n = splitCode none origin n := by
  cases origin with
  | given | abroad => rfl
  | inside => contradiction

theorem keys_of_cutExitCode? {d : Dialled} {h : Home}
    (uncut : d.country.isSome ∨ h.cutExitCode? (Digit.ofKeys d.national) = none) :
    keys (some h) d = keys none d := by
  rw [keys, keys]
  cases given : d.country with
  | some country => rfl
  | none =>
    have kept : h.cutExitCode? (Digit.ofKeys d.national) = none :=
      uncut.resolve_left (by simp [given])
    simp only [Option.bind_some, kept, Option.bind_none]

end Number

namespace Directory

variable {dir : Directory}

/-- Nothing is left out of a number in a region: its code for calls abroad is not in front of the
digits, and behind the country code the same is left out as in no region. The plans of the country
code must be there to tell. -/
def leavesAlone (dir : Directory) (h : Home) (number : String) : Bool :=
  match Dialled.ofText? number with
  | none => true
  | some d =>
    (d.country.isSome || (h.cutExitCode? (Digit.ofKeys d.national)).isNone) &&
      match Number.splitCode none (Number.keys none d).1 (Number.keys none d).2 with
      | .ok (code, n) => dir.covers code && h.stripTrunk n == dir.stripTrunk none code n
      | .error _ => true

/-- A region has no say in a number: it is not known, or else it has a home in the directory, which
leaves the number alone. -/
def Aloof (dir : Directory) (region number : String) : Prop :=
  isRegion region → ∃ h ∈ dir.home? region, dir.leavesAlone h number

instance (region number : String) : Decidable (dir.Aloof region number) :=
  inferInstanceAs (Decidable (_ → _))

/-- What is made of the digits that were split at the country code. -/
def ofSplit (dir : Directory) (home : Option Home) (split : Nat × List Digit) :
    Except NumberError Number :=
  let n := dir.stripTrunk home split.1 split.2
  Number.checkNational n >>= fun _ => .ok ⟨split.1, n⟩

theorem read_eq {home : Option Home} {number : String} {d : Dialled}
    (dialled : Dialled.ofText? number = some d) :
    dir.read home number =
      if Dialled.isViable d.national then
        Number.splitCode home (Number.keys home d).1 (Number.keys home d).2 >>= dir.ofSplit home
      else .error .notANumber := by
  rw [read, dialled]
  by_cases viable : Dialled.isViable d.national
  · rw [if_pos viable]
    simp only [if_pos viable]
    rfl
  · rw [if_neg viable]
    simp only [if_neg viable]
    rfl

/-- A region that leaves a number with a plus alone has no part in reading it. -/
theorem read_of_leavesAlone {number : String} (plus : number.toList.head? = some '+') {h : Home}
    (alone : dir.leavesAlone h number) : dir.read (some h) number = dir.read none number := by
  cases dialled : Dialled.ofText? number with
  | none => rw [read, read, dialled]
  | some d =>
    rw [read_eq dialled, read_eq dialled]
    refine if_ctx_congr Iff.rfl (fun viable => ?_) fun _ => rfl
    -- A viable text is not empty, so the plus still leads it unless it gave the country code.
    have front : d.country.isSome ∨ d.national.head? = some '+' := by
      obtain given | front | nothing := Dialled.ofText?_plus plus dialled
      · exact .inl given
      · exact .inr front
      · rw [nothing] at viable
        contradiction
    rw [leavesAlone, dialled] at alone
    obtain ⟨uncut, unstripped⟩ := Bool.and_eq_true_iff.mp alone
    rw [Number.keys_of_cutExitCode? (by simpa using uncut),
      Number.splitCode_of_ne_inside (Number.origin_keys_ne_inside front none) (some h)]
    cases split : Number.splitCode none (Number.keys none d).1 (Number.keys none d).2 with
    | error e => rfl
    | ok codeAndRest =>
      obtain ⟨code, n⟩ := codeAndRest
      -- Both sides would agree without the plans of the code, too, but it would not mean much.
      obtain ⟨-, same⟩ : dir.covers code ∧ h.stripTrunk n = dir.stripTrunk none code n := by
        simpa [split] using unstripped
      have own : dir.stripTrunk (some h) code n = h.stripTrunk n := rfl
      change dir.ofSplit (some h) (code, n) = dir.ofSplit none (code, n)
      rw [ofSplit, ofSplit, own, same]

/-! ## Verdicts -/

theorem value_validator {σ : Type} (number region : String) (s : σ) :
    ((dir.validator number region).run s).value = dir.verdict number region := by
  rw [validator]
  cases dir.verdict number region <;> rfl

/-- In a region that has no say in a number with a plus, the verdict is what it is in no region. -/
theorem verdict_eq_ok_iff {number region : String} (plus : number.toList.head? = some '+')
    (aloof : dir.Aloof region number) (valid : Bool) :
    dir.verdict number region = .ok valid ↔
      (dir.read none number).map dir.isValid = .ok valid := by
  rw [verdict, readFor]
  by_cases known : isRegion region
  · obtain ⟨h, home, alone⟩ := aloof known
    rw [if_pos known, Option.mem_def.mp home, read_of_leavesAlone plus alone]
    cases dir.read none number <;> simp [Except.map, Except.mapError]
  · rw [if_neg known]
    cases dir.read none number <;> simp [Except.map, Except.mapError]

end Directory

/-- Regions that have no say in a number with a plus agree on it. -/
theorem validator_region_irrelevant (dir : Directory) {number r₁ r₂ : String}
    (plus : number.toList.head? = some '+') (aloof₁ : dir.Aloof r₁ number)
    (aloof₂ : dir.Aloof r₂ number) {σ : Type} (s : σ) (valid : Bool) :
    ((dir.validator number r₁).run s).value = .ok valid ↔
      ((dir.validator number r₂).run s).value = .ok valid := by
  rw [Directory.value_validator, Directory.value_validator, Directory.verdict_eq_ok_iff plus aloof₁,
    Directory.verdict_eq_ok_iff plus aloof₂]

theorem validator_region_irrelevant_french :
    "+33615229808".toList.head? = some '+' ∧
      Directory.listed.Aloof "FR" "+33615229808" ∧
      Directory.listed.Aloof "US" "+33615229808" ∧
      ((validator "+33615229808" "FR").run ()).value = .ok true ∧
      ((validator "+33615229808" "US").run ()).value = .ok true := by
  have plus : "+33615229808".toList.head? = some '+' := by decide
  have own : Directory.listed.Aloof "FR" "+33615229808" := by decide +kernel
  have foreign : Directory.listed.Aloof "US" "+33615229808" := by decide +kernel
  have french : ((validator "+33615229808" "FR").run ()).value = .ok true := by decide +kernel
  exact ⟨plus, own, foreign, french,
    (validator_region_irrelevant .listed plus own foreign () true).mp french⟩

/-- Another region may take the first digit of a number for its own trunk code. -/
theorem validator_depends_on_region :
    "+33142685300".toList.head? = some '+' ∧
      ((validator "+33142685300" "FR").run ()).value = .ok true ∧
      ((validator "+33142685300" "US").run ()).value = .ok false := by
  decide +kernel

end Phone

end GuardedSms
