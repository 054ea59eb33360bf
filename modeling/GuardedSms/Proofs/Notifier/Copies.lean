import GuardedSms.Notifier.Recipe
import GuardedSms.Proofs.Session.Parallel

/-!
# Copies of scripted validators

A scripted validator counts its calls in a copy, which belongs to one notifier or is shared. Copies
that were called equally often give the same verdicts. So it makes no difference to a notifier
whether it was given a validator of its own or one that others may share, as long as they do not.
Senders and loggers have no state of their own, and it makes none for them either.

## Main definitions

* `Interchangeable`: attempts to assemble a notifier that no run tells apart.
* `Setting.shared`: a setting that gives the same, for others to share.

## Main statements

* `exists_twins_copies`: a notifier is the twin of itself with another copy of its validator.
* `interchangeable_shared`: own and shared capabilities are interchangeable.
-/
namespace GuardedSms

/-! ## Capabilities from sources -/

section Capabilities

variable {ε σ τ : Type} {S : σ → τ → Prop} {E : ε → ε → Prop}

/-- The numbering plans know no state. -/
theorem parallel_plans (number region : String) :
    Parallel S E Eq (Phone.validator number region) (Phone.validator number region) := by
  unfold Phone.validator Phone.Directory.validator
  cases Phone.Directory.listed.verdict number region with
  | ok valid => exact (parallel_emit _).bind fun _ _ _ => parallel_pure rfl
  | error e => exact parallel_pure rfl

variable {S : Usage → Usage → Prop}

theorem parallel_senderSource (source : SenderSource) (number message : String) :
    Parallel S Eq Eq (source.sender number message) (source.sender number message) := by
  cases source with
  | announcing => exact parallel_emit _
  | recorder name => exact parallel_record rfl

theorem parallel_loggerSource (source : LoggerSource) (text : String) :
    Parallel S Eq Eq (source.logger text) (source.logger text) := by
  cases source with
  | diagnostics => exact parallel_emit _
  | recorder name => exact parallel_record rfl

/-- Two copies of a scripted validator answer the same as long as they are asked the same. -/
theorem parallel_stub (name : String) (stub : Stub) (i j : Instance) (number region : String) :
    Parallel (fun u u' : Usage => u i = u' j) Eq Eq
      (Validator.recorded name (stub.validator i) number region)
      (Validator.recorded name (stub.validator j) number region) := by
  refine (parallel_record rfl).bind fun _ _ _ => parallel_beside ?_
  intro u u' same
  simp [Stub.validator, Usage.count, same]

end Capabilities

/-- Whatever copies its validator acts in, a notifier does the same while these are called equally
often. -/
theorem exists_twins_copies (stubs : String → Stub) (source : ValidatorSource)
    (copy copy' : String → Instance) (sender : SenderSource) (logger : LoggerSource) :
    ∃ S : Usage → Usage → Prop, S Usage.none Usage.none ∧
      Twins S Eq Eq ⟨source.validator stubs copy, sender.sender, logger.logger⟩
        ⟨source.validator stubs copy', sender.sender, logger.logger⟩ := by
  have performs (S : Usage → Usage → Prop) (v v' : Validator World) (d d' : Delivery)
      (same : d = d') : Parallel S Eq Eq
        (Notifier.perform ⟨v, sender.sender, logger.logger⟩ d)
        (Notifier.perform ⟨v', sender.sender, logger.logger⟩ d') := by
    subst same
    cases d with
    | send number message => exact parallel_senderSource sender number message
    | log text => exact parallel_loggerSource logger text
  cases source with
  | plans => exact ⟨Eq, rfl, parallel_plans, performs _ _ _⟩
  | stub name =>
    exact ⟨fun u u' => u (copy name) = u' (copy' name), rfl,
      parallel_stub name (stubs name) (copy name) (copy' name), performs _ _ _⟩

/-! ## Drafts -/

/-- A setting that gives the same, as something that others may share. -/
def Setting.shared : Setting → Setting
  | .ownValidator source | .sharedValidator source => .sharedValidator source
  | .sender source | .sharedSender source => .sharedSender source
  | .logger source | .sharedLogger source => .sharedLogger source

/-- Drafts with capabilities of the same sources, where the validators may act in other copies. -/
structure Notifier.Draft.Copies (stubs : String → Stub) (d d' : Draft World) : Prop where
  validator : Option.Rel (fun v v' => ∃ (source : ValidatorSource) (copy copy' : _),
    v = source.validator stubs copy ∧ v' = source.validator stubs copy') d.validator d'.validator
  sender : Option.Rel (fun s s' => ∃ source : SenderSource, s = source.sender ∧ s' = source.sender)
    d.sender d'.sender
  logger : Option.Rel (fun l l' => ∃ source : LoggerSource, l = source.logger ∧ l' = source.logger)
    d.logger d'.logger

open Notifier.Draft in
/-- Settings write the same into drafts as their shared forms, but for the copies. -/
theorem copies_write {stubs : String → Stub} {d d' : Notifier.Draft World}
    (copies : Copies stubs d d') (number position : Nat) (setting : Setting) :
    Copies stubs (d.write (setting.write stubs number position))
      (d'.write (setting.shared.write stubs number position)) := by
  obtain ⟨validator, sender, logger⟩ := copies
  cases setting with
  | ownValidator source | sharedValidator source =>
    exact ⟨.some ⟨source, _, _, rfl, rfl⟩, sender, logger⟩
  | sender source | sharedSender source =>
    exact ⟨validator, .some ⟨source, rfl, rfl⟩, logger⟩
  | logger source | sharedLogger source =>
    exact ⟨validator, sender, .some ⟨source, rfl, rfl⟩⟩

open Notifier.Draft in
theorem copies_writes {stubs : String → Stub} {d d' : Notifier.Draft World}
    (copies : Copies stubs d d') (number start : Nat) (settings : List Setting) :
    Copies stubs
      (((settings.zipIdx start).map fun (s, i) => s.write stubs number i).foldl write d)
      ((((settings.map Setting.shared).zipIdx start).map fun (s, i) =>
        s.write stubs number i).foldl write d') := by
  induction settings generalizing d d' start with
  | nil => exact copies
  | cons setting settings ih => exact ih (copies_write copies number start setting) (start + 1)

/-! ## Runs -/

/-- Attempts to assemble a notifier that no run tells apart: both fail in the same way, or whatever
steps are taken with the notifiers, the answers, the journals and the events are the same. -/
inductive Interchangeable :
    Except AssemblyError (Notifier World) → Except AssemblyError (Notifier World) → Prop
  | failed (e : AssemblyError) : Interchangeable (.error e) (.error e)
  | assembled {n m : Notifier World}
    (same : ∀ steps,
      let r := (Session.runSteps (fun _ => some n) steps).run { world := World.start }
      let q := (Session.runSteps (fun _ => some m) steps).run { world := World.start }
      r.value = q.value ∧ r.state.world.entries = q.state.world.entries ∧ r.events = q.events) :
    Interchangeable (.ok n) (.ok m)

theorem interchangeable_of_twins {n m : Notifier World} {S : Usage → Usage → Prop}
    (start : S Usage.none Usage.none) (twins : Twins S Eq Eq n m) :
    Interchangeable (.ok n) (.ok m) := by
  refine .assembled fun steps => ?_
  have like : Session.ParallelSessions S Eq { world := World.start } { world := World.start } :=
    ⟨start, rfl, .nil⟩
  obtain ⟨results, -, ⟨es, fs, added, added', entries⟩, events⟩ :=
    Session.parallel_runSteps (fun _ => .some twins) steps like
  refine ⟨?value, ?journal, events⟩
  case value =>
    simpa [List.forall₂_eq_eq_eq, ← Prod.ext_iff] using results
  case journal =>
    rw [List.forall₂_eq_eq_eq] at entries
    rw [added, added', entries]

/-- Drafts that differ in copies only are built to notifiers that no run tells apart. -/
theorem Notifier.Draft.Copies.interchangeable {stubs : String → Stub} {d d' : Notifier.Draft World}
    (copies : Copies stubs d d') : Interchangeable d.build d'.build := by
  obtain ⟨v, s, l⟩ := d
  obtain ⟨v', s', l'⟩ := d'
  obtain ⟨validator, sender, logger⟩ := copies
  -- What was not given comes from a source, too.
  have judges : ∃ (source : ValidatorSource) (copy copy' : _),
      v.getD Phone.validator = source.validator stubs copy ∧
        v'.getD Phone.validator = source.validator stubs copy' := by
    cases validator with
    | none => exact ⟨.plans, .shared, .shared, rfl, rfl⟩
    | some same => exact same
  have logs : ∃ source : LoggerSource, l.getD Logger.diagnostics = source.logger ∧
      l'.getD Logger.diagnostics = source.logger := by
    cases logger with
    | none => exact ⟨.diagnostics, rfl, rfl⟩
    | some same => exact same
  cases sender with
  | none => exact .failed _
  | some sends =>
    obtain ⟨validatorSource, copy, copy', judge, judge'⟩ := judges
    obtain ⟨senderSource, rfl, rfl⟩ := sends
    obtain ⟨loggerSource, log, log'⟩ := logs
    obtain ⟨S, start, twins⟩ :=
      exists_twins_copies stubs validatorSource copy copy' senderSource loggerSource
    rw [build_with_sender, build_with_sender, judge, judge', log, log']
    exact interchangeable_of_twins start twins

/-- It makes no difference to a notifier whether its capabilities were given as its own or as shared
ones. -/
theorem interchangeable_shared (stubs : String → Stub) (number : Nat) (settings : List Setting) :
    Interchangeable (Recipe.build stubs number (.drafted settings))
      (Recipe.build stubs number (.drafted (settings.map Setting.shared))) :=
  have empty : Notifier.Draft.Copies stubs {} {} := ⟨.none, .none, .none⟩
  (copies_writes empty number 0 settings).interchangeable

end GuardedSms
