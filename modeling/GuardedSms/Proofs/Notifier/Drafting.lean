import GuardedSms.Proofs.Chain.Placement
import GuardedSms.Proofs.Notifier.Copies
import Mathlib.Data.List.Induction
import Mathlib.Logic.Function.Basic

/-!
# Drafted notifiers

A notifier may be put together by giving its capabilities in any order and any number of times. Of
each kind the last one counts. Only the sender has to be given: the validator is otherwise that of
the numbering plans, the logger that of the diagnostics log. A capability that was replaced is never
called, in whatever run the notifier takes part.

Capabilities are told apart by names under which their calls are noted.

## Main definitions

* `Draft.last`: the last capability of a kind.
* `Draft.assembly`: the notifier of the last capabilities.
* `Draft.noted`: capabilities whose calls are noted.
* `Draft.Settled`: what a draft comes to.

## Main statements

* `Draft.build_ofGiven`: a notifier is built of the last capabilities.
* `Draft.keeps_of_called`: no other ones are called.
* `Draft.build_last_given`: all that can be said of a draft, and of own and shared capabilities.
-/
namespace GuardedSms

variable {σ β ι : Type}

/-- An action beside some entries that it adds runs in parallel with itself. -/
theorem parallel_noting {E : ι → ι → Prop} {entries : List ι} (related : ∀ e ∈ entries, E e e)
    (a : Action σ β) :
    Parallel Eq E Eq (Journaled.noting entries a) (Journaled.noting entries a) := by
  rintro ⟨s, es⟩ ⟨t, fs⟩ rfl
  exact ⟨rfl, rfl, ⟨entries, entries, by simp, by simp, List.forall₂_same.mpr related⟩, rfl⟩

namespace Notifier

/-- A notifier that runs beside a record. -/
def beside {ε : Type} (n : Notifier σ) : Notifier (Journaled ε σ) where
  validator number region := Journaled.beside (n.validator number region)
  sender number message := Journaled.beside (n.sender number message)
  logger text := Journaled.beside (n.logger text)

/-- Beside a record a notifier adds nothing to it. -/
theorem twins_beside {ε : Type} {E : ε → ε → Prop} (n : Notifier σ) :
    Twins Eq E Eq (n.beside : Notifier (Journaled ε σ)) n.beside where
  validator number region := by
    refine parallel_beside ?_
    rintro s _ rfl
    exact ⟨rfl, rfl, rfl⟩
  perform d d' same := by
    subst same
    cases d <;>
    · refine parallel_beside ?_
      rintro s _ rfl
      exact ⟨rfl, rfl, rfl⟩

namespace Draft

/-! ## The last of each kind -/

/-- The kinds of capabilities. -/
inductive Capability where
  | validator
  | sender
  | logger

def Write.capability : Write σ → Capability
  | .validator _ => .validator
  | .sender _ => .sender
  | .logger _ => .logger

def Write.validator? : Write σ → Option (Validator σ)
  | .validator v => some v
  | .sender _ | .logger _ => none

def Write.sender? : Write σ → Option (Sender σ)
  | .sender s => some s
  | .validator _ | .logger _ => none

def Write.logger? : Write σ → Option (Logger σ)
  | .logger l => some l
  | .validator _ | .sender _ => none

/-- The last capability of a kind, among some that were given under names. -/
def last (kind : Write σ → Option β) (given : List (ι × Write σ)) : Option (ι × β) :=
  (given.filterMap fun (name, w) => (kind w).map (name, ·)).getLast?

@[simp] theorem last_concat (kind : Write σ → Option β) (given : List (ι × Write σ))
    (q : ι × Write σ) :
    last kind (given ++ [q]) = ((kind q.2).map (q.1, ·)).or (last kind given) := by
  cases h : kind q.2 <;> simp [last, List.getLast?_append, h]

/-- The draft to which some capabilities were given in order. -/
def ofGiven (given : List (ι × Write σ)) : Draft σ := ofWrites (given.map Prod.snd)

/-- A draft holds what was given last. -/
theorem ofGiven_eq (given : List (ι × Write σ)) :
    ofGiven given = ⟨(last Write.validator? given).map Prod.snd,
      (last Write.sender? given).map Prod.snd, (last Write.logger? given).map Prod.snd⟩ := by
  induction given using List.reverseRecOn with
  | nil => rfl
  | append_singleton given q ih =>
    obtain ⟨name, w⟩ := q
    rw [ofGiven, List.map_append, ofWrites, List.foldl_append]
    change (ofGiven given).write w = _
    rw [ih]
    cases w <;> simp [write, withValidator, withSender, withLogger, Write.validator?,
      Write.sender?, Write.logger?]

/-- The notifier of the last capabilities. Without a validator it judges by the numbering plans, and
without a logger it writes to the diagnostics log. -/
def assembly (given : List (ι × Write σ)) (sender : ι × Sender σ) : Notifier σ where
  validator := (last Write.validator? given).elim Phone.validator Prod.snd
  sender := sender.2
  logger := (last Write.logger? given).elim Logger.diagnostics Prod.snd

theorem build_ofGiven (given : List (ι × Write σ)) :
    (ofGiven given).build =
      match last Write.sender? given with
      | none => .error .missingSender
      | some sender => .ok (assembly given sender) := by
  rw [ofGiven_eq]
  cases last Write.sender? given with
  | none => rfl
  | some sender =>
    cases hv : last Write.validator? given <;> cases hl : last Write.logger? given <;>
      simp [assembly, hv, hl]

/-- Capabilities of different kinds may be given in any order. -/
theorem ofWrites_swap (before after : List (Write σ)) {w w' : Write σ}
    (different : w.capability ≠ w'.capability) :
    ofWrites (before ++ w :: w' :: after) = ofWrites (before ++ w' :: w :: after) := by
  simp only [ofWrites, List.foldl_append, List.foldl_cons]
  congr 1
  cases w <;> cases w' <;> first | rfl | exact absurd rfl different

/-! ## Noted calls -/

def notingValidator (name : ι) (v : Validator σ) : Validator (Journaled ι σ) :=
  fun number region => Journaled.noting [name] (v number region)

def notingSender (name : ι) (s : Sender σ) : Sender (Journaled ι σ) :=
  fun number message => Journaled.noting [name] (s number message)

def notingLogger (name : ι) (l : Logger σ) : Logger (Journaled ι σ) :=
  fun text => Journaled.noting [name] (l text)

/-- A capability whose calls are noted under a name. -/
def Write.noting (name : ι) : Write σ → Write (Journaled ι σ)
  | .validator v => .validator (notingValidator name v)
  | .sender s => .sender (notingSender name s)
  | .logger l => .logger (notingLogger name l)

/-- Capabilities whose calls are all noted under their names. -/
def noted (given : List (ι × Write σ)) : List (ι × Write (Journaled ι σ)) :=
  given.map fun (name, w) => (name, w.noting name)

/-- Some capability of this name was given last of its kind. -/
def Keeps (given : List (ι × Write σ)) (name : ι) : Prop :=
  (∃ v, last Write.validator? given = some (name, v)) ∨
    (∃ s, last Write.sender? given = some (name, s)) ∨
    ∃ l, last Write.logger? given = some (name, l)

/-- Noting calls does not change which capability is the last of its kind. -/
theorem last_noted {γ : Type} {kind : Write σ → Option β}
    {kind' : Write (Journaled ι σ) → Option γ} (noting : ι → β → γ)
    (commutes : ∀ name w, kind' (w.noting name) = (kind w).map (noting name))
    (given : List (ι × Write σ)) :
    last kind' (noted given) = (last kind given).map fun (name, c) => (name, noting name c) := by
  induction given using List.reverseRecOn with
  | nil => rfl
  | append_singleton given q ih =>
    have more : noted (given ++ [q]) = noted given ++ [(q.1, q.2.noting q.1)] := by simp [noted]
    rw [more, last_concat, last_concat, ih, commutes]
    cases kind q.2 <;> rfl

theorem last_validator_noted (given : List (ι × Write σ)) :
    last Write.validator? (noted given) =
      (last Write.validator? given).map fun (name, v) => (name, notingValidator name v) :=
  last_noted notingValidator (fun _ w => by cases w <;> rfl) given

theorem last_sender_noted (given : List (ι × Write σ)) :
    last Write.sender? (noted given) =
      (last Write.sender? given).map fun (name, s) => (name, notingSender name s) :=
  last_noted notingSender (fun _ w => by cases w <;> rfl) given

theorem last_logger_noted (given : List (ι × Write σ)) :
    last Write.logger? (noted given) =
      (last Write.logger? given).map fun (name, l) => (name, notingLogger name l) :=
  last_noted notingLogger (fun _ w => by cases w <;> rfl) given

/-- What is noted of an assembly are names of capabilities that were given last. -/
theorem twins_noted {given : List (ι × Write σ)} {n : Notifier (Journaled ι σ)}
    (built : (ofGiven (noted given)).build = .ok n) :
    Twins Eq (fun name _ => Keeps given name) Eq n n := by
  rw [build_ofGiven, last_sender_noted] at built
  cases hs : last Write.sender? given with
  | none => simp [hs] at built
  | some sender =>
    obtain rfl : assembly _ _ = n := by simpa [hs] using built
    refine ⟨fun number region => ?validator, fun d d' same => ?perform⟩
    case validator =>
      simp only [assembly, last_validator_noted]
      cases hv : last Write.validator? given with
      | none => exact parallel_plans number region
      | some validator => exact parallel_noting (by simpa using .inl ⟨_, hv⟩) _
    case perform =>
      subst same
      cases d with
      | send number message => exact parallel_noting (by simpa using .inr (.inl ⟨_, hs⟩)) _
      | log text =>
        simp only [assembly, last_logger_noted, Notifier.perform, Delivery.perform_log]
        cases hl : last Write.logger? given with
        | none => exact parallel_emit _
        | some logger => exact parallel_noting (by simpa using .inr (.inr ⟨_, hl⟩)) _

/-- In no step of any run are capabilities called that were replaced. -/
theorem keeps_of_called (given : List (ι × Write σ)) (others : Nat → Option (Notifier σ))
    (a : Nat) (steps : List Session.Step) (w : Journaled ι σ) :
    let family := Function.update (fun b => (others b).map Notifier.beside) a
      (ofGiven (noted given)).build.toOption
    ∀ result ∈ ((Session.runSteps family steps).run { world := w }).value,
      ∀ name ∈ result.2, Keeps given name := by
  intro family result mem name called
  have twins (b : Nat) : Option.Rel
      (Twins Eq (fun name _ => Keeps given name) Eq) (family b) (family b) := by
    by_cases own : b = a
    · subst own
      cases built : (ofGiven (noted given)).build with
      | error e => simp [family, built, Except.toOption]
      | ok n =>
        simpa [family, built, Except.toOption] using Option.Rel.some (twins_noted built)
    · cases other : others b with
      | none => simp [family, own, other]
      | some n => simpa [family, own, other] using Option.Rel.some n.twins_beside
  have like : Session.ParallelSessions Eq (fun name _ => Keeps given name)
      { world := w } { world := w } := ⟨rfl, rfl, .nil⟩
  have run := Session.parallel_runSteps twins steps like
  obtain ⟨-, noted⟩ := (List.forall₂_same.mp run.results) result mem
  exact List.forall₂_same.mp noted name called

/-- What a draft comes to that was given some capabilities, whether for one notifier alone or to be
shared. -/
structure Settled (given : List (ι × Write σ)) : Prop where
  /-- Nothing is built exactly if no sender was given, whatever else was. -/
  missing : (ofGiven given).build = .error .missingSender ↔ last Write.sender? given = none
  /-- What is built otherwise is the notifier of the last capabilities. -/
  built : ∀ sender, last Write.sender? given = some sender →
    (ofGiven given).build = .ok (assembly given sender)
  /-- Among whatever other notifiers it takes steps, no capability is called that was replaced. -/
  called : ∀ (others : Nat → Option (Notifier σ)) (a : Nat) (steps : List Session.Step)
    (w : Journaled ι σ),
    let family := Function.update (fun b => (others b).map Notifier.beside) a
      (ofGiven (noted given)).build.toOption
    ∀ result ∈ ((Session.runSteps family steps).run { world := w }).value,
      ∀ name ∈ result.2, Keeps given name
  /-- Capabilities of different kinds may be given in either order. -/
  commutes : ∀ before w w' after, given.map Prod.snd = before ++ w :: w' :: after →
    w.capability ≠ w'.capability →
    (ofWrites (before ++ w' :: w :: after)).build = (ofGiven given).build

/-- Of each kind the last capability that was given counts, and replaced ones are never called. Own
and shared capabilities are interchangeable. -/
theorem build_last_given (given : List (ι × Write σ)) :
    Settled given ∧ ∀ stubs number settings,
      Interchangeable (Recipe.build stubs number (.drafted settings))
        (Recipe.build stubs number (.drafted (settings.map Setting.shared))) := by
  refine ⟨⟨?missing, ?built, keeps_of_called given, ?commutes⟩, interchangeable_shared⟩
  case missing =>
    rw [build_ofGiven]
    cases last Write.sender? given <;> simp
  case built =>
    intro sender h
    rw [build_ofGiven, h]
  case commutes =>
    intro before w w' after h different
    rw [ofGiven, h, ofWrites_swap before after different]

end Draft

end Notifier

end GuardedSms
