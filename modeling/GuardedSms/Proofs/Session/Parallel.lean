import GuardedSms.Proofs.Notifier.Parallel
import GuardedSms.Proofs.Session.Frame

/-!
# Sessions side by side

Two families of notifiers take the same steps, and each notifier of one family runs in parallel with
that of the same number in the other. Then the families run in parallel, too: step by step they give
the same answers and emit the same events, they add related entries, and they leave related states.

## Main definitions

* `ParallelSessions`: two sessions side by side.
* `ParallelStep`, `ParallelRun`: what two steps and two runs have in common.

## Main statements

* `parallel_step`, `parallel_runSteps`: twins take steps in parallel, and run in parallel.
-/
namespace GuardedSms.Session

variable {ε σ τ : Type} {S : σ → τ → Prop} {E : ε → ε → Prop}

/-- Sessions in related states, in which the same was prepared and what was postponed runs in
parallel. -/
structure ParallelSessions (S : σ → τ → Prop) (E : ε → ε → Prop) (s : Session (Journaled ε σ))
    (t : Session (Journaled ε τ)) : Prop where
  state : S s.world.state t.world.state
  prepared : s.prepared = t.prepared
  postponed : List.Forall₂ (Option.Rel (Parallel S E Eq)) s.postponed t.postponed

/-! ## One step -/

/-- What two steps have in common that are taken side by side. -/
structure ParallelStep (S : σ → τ → Prop) (E : ε → ε → Prop) (s : Session (Journaled ε σ))
    (t : Session (Journaled ε τ)) (r : Ran (Session (Journaled ε σ)) Answer)
    (q : Ran (Session (Journaled ε τ)) Answer) : Prop where
  value : r.value = q.value
  sessions : ParallelSessions S E r.state q.state
  entries : ∃ es fs, r.state.world.entries = s.world.entries ++ es ∧
    q.state.world.entries = t.world.entries ++ fs ∧ List.Forall₂ E es fs
  events : r.events = q.events

variable {s s' : Session (Journaled ε σ)} {t t' : Session (Journaled ε τ)}

/-- A step that adds no entries. -/
theorem ParallelStep.silent {a b : Answer} (value : a = b)
    (sessions : ParallelSessions S E s' t') (same : s'.world.entries = s.world.entries)
    (same' : t'.world.entries = t.world.entries) :
    ParallelStep S E s t ⟨a, s', []⟩ ⟨b, t', []⟩ :=
  ⟨value, sessions, ⟨[], [], by simp [same], by simp [same'], .nil⟩, rfl⟩

/-- Twins answer a request in parallel. -/
theorem parallel_answer {n : Notifier (Journaled ε σ)} {m : Notifier (Journaled ε τ)}
    (twins : Twins S E Eq n m) (request : Request) (like : ParallelSessions S E s t) :
    ParallelStep S E s t ((answer n request).run s) ((answer m request).run t) := by
  obtain ⟨state, prepared, postponed⟩ := like
  cases request with
  | screen number region =>
    obtain ⟨value, state, entries, events⟩ := twins.screen number region _ _ state
    exact ⟨congrArg Answer.outcome value, ⟨state, prepared, postponed⟩, entries,
      by simp [answer, events]⟩
  | notify number region message =>
    obtain ⟨-, state, entries, events⟩ := twins.notify (fun _ => rfl) number region _ _ state
    exact ⟨rfl, ⟨state, prepared, postponed⟩, entries, by simp [answer, events]⟩
  | prepare number region message =>
    have same (o : Outcome String) : Notifier.deliveryOf message o =
        Notifier.deliveryOf message o := rfl
    obtain ⟨value, state, entries, events⟩ := twins.prepare same number region _ _ state
    have more := congrArg₂ (fun l d => l ++ [d]) prepared value
    exact ⟨congrArg Answer.prepared value, ⟨state, more, postponed⟩, entries,
      by simp [answer, events]⟩
  | perform index =>
    simp only [answer, Action.run_bind, Action.run_get, prepared]
    cases t.prepared[index]? with
    | none => exact .silent rfl ⟨state, prepared, postponed⟩ rfl rfl
    | some d =>
      obtain ⟨-, state, entries, events⟩ := twins.perform d d rfl _ _ state
      exact ⟨rfl, ⟨state, prepared, postponed⟩, entries, by simp [events]⟩
  | performJson json =>
    simp only [answer]
    cases Delivery.decode json.text with
    | error fault => exact .silent rfl ⟨state, prepared, postponed⟩ rfl rfl
    | ok d =>
      obtain ⟨-, state, entries, events⟩ := twins.perform d d rfl _ _ state
      exact ⟨rfl, ⟨state, prepared, postponed⟩, entries, by simp [events]⟩
  | postpone number region message =>
    have same (o : Outcome String) : Notifier.deliveryOf message o =
        Notifier.deliveryOf message o := rfl
    obtain ⟨value, state, entries, events⟩ := twins.postpone same number region _ _ state
    have more := List.rel_append postponed (.cons (.some value) .nil)
    refine ⟨?value, ⟨state, prepared, more⟩, entries, by simp [answer, events]⟩
    case value => simp [answer, postponed.length_eq]

/-- A step is taken in parallel if whoever is asked has a twin. -/
theorem parallel_step {f : Nat → Option (Notifier (Journaled ε σ))}
    {g : Nat → Option (Notifier (Journaled ε τ))}
    (twins : ∀ a, Option.Rel (Twins S E Eq) (f a) (g a)) (step : Step)
    (like : ParallelSessions S E s t) :
    ParallelStep S E s t ((Session.step f step).run s) ((Session.step g step).run t) := by
  cases step with
  | ask a request =>
    have both := twins a
    simp only [Session.step]
    generalize f a = n, g a = m at both ⊢
    cases both with
    | none => exact .silent rfl like rfl rfl
    | some twins => exact parallel_answer twins request like
  | run index =>
    obtain ⟨state, prepared, postponed⟩ := like
    have left := forall₂_getElem? postponed index
    rw [run_step_run, run_step_run]
    generalize s.postponed[index]? = action, t.postponed[index]? = action' at left ⊢
    cases left with
    | none => exact .silent rfl ⟨state, prepared, postponed⟩ rfl rfl
    | some open? =>
      cases open? with
      | none => exact .silent rfl ⟨state, prepared, postponed⟩ rfl rfl
      | some parallel =>
        obtain ⟨-, state, entries, events⟩ := parallel _ _ state
        exact ⟨rfl, ⟨state, prepared, forall₂_set_none postponed index⟩, entries, events⟩
  | drop index =>
    obtain ⟨state, prepared, postponed⟩ := like
    exact .silent rfl ⟨state, prepared, forall₂_set_none postponed index⟩ rfl rfl

/-! ## Runs -/

/-- What two runs have in common that go side by side. -/
structure ParallelRun (S : σ → τ → Prop) (E : ε → ε → Prop) (s : Session (Journaled ε σ))
    (t : Session (Journaled ε τ)) (r : Ran (Session (Journaled ε σ)) (List (Answer × List ε)))
    (q : Ran (Session (Journaled ε τ)) (List (Answer × List ε))) : Prop where
  /-- Step by step the answers are the same and the entries are related. -/
  results : List.Forall₂ (fun p p' => p.1 = p'.1 ∧ List.Forall₂ E p.2 p'.2) r.value q.value
  sessions : ParallelSessions S E r.state q.state
  entries : ∃ es fs, r.state.world.entries = s.world.entries ++ es ∧
    q.state.world.entries = t.world.entries ++ fs ∧ List.Forall₂ E es fs
  events : r.events = q.events

/-- Families of twins run in parallel. -/
theorem parallel_runSteps {f : Nat → Option (Notifier (Journaled ε σ))}
    {g : Nat → Option (Notifier (Journaled ε τ))}
    (twins : ∀ a, Option.Rel (Twins S E Eq) (f a) (g a)) (steps : List Step)
    (like : ParallelSessions S E s t) :
    ParallelRun S E s t ((runSteps f steps).run s) ((runSteps g steps).run t) := by
  induction steps generalizing s t with
  | nil => exact ⟨.nil, like, ⟨[], [], by simp, by simp, .nil⟩, rfl⟩
  | cons step steps ih =>
    obtain ⟨answer, like', ⟨es, fs, added, added', entries⟩, events⟩ :=
      parallel_step twins step like
    obtain ⟨results, sessions, ⟨es', fs', more, more', entries'⟩, events'⟩ := ih like'
    refine ⟨?results, ?sessions, ?entries, ?events⟩
    case results =>
      rw [value_runSteps_cons, value_runSteps_cons, added, added', List.drop_left, List.drop_left]
      exact .cons ⟨answer, entries⟩ results
    case sessions =>
      rw [state_runSteps_cons, state_runSteps_cons]
      exact sessions
    case entries =>
      refine ⟨es ++ es', fs ++ fs', ?_, ?_, List.rel_append entries entries'⟩
      · rw [state_runSteps_cons, more, added, List.append_assoc]
      · rw [state_runSteps_cons, more', added', List.append_assoc]
    case events => rw [events_runSteps_cons, events_runSteps_cons, events, events']

end GuardedSms.Session
