import GuardedSms.Proofs.Notifier.Screening
import Mathlib.Data.List.Forall2

/-!
# Two runs side by side

Statements about two runs compare what the runs answer, what they leave behind and what they
record. Two actions run in parallel if, from related states, they give related values, leave
related states again, record related entries one by one, and emit the same events. Which values,
states and entries are related is left open.

Notifiers whose capabilities run in parallel screen, notify, prepare and postpone in parallel.

## Main definitions

* `Parallel`: two actions run side by side.
* `Twins`: two notifiers whose capabilities run side by side.

## Main statements

* `Parallel.bind`: sequences run in parallel if their parts do.
* `Twins.screen`, `Twins.notify`, `Twins.prepare`, `Twins.postpone`: so do the operations of twins.
-/
namespace GuardedSms

variable {ε σ τ α β γ δ : Type}

/-- What two runs of actions have in common, by which values, states and entries are related. The
entries are those that each run adds to its journal. -/
structure RanParallel (S : σ → τ → Prop) (E : ε → ε → Prop) (V : α → β → Prop) (w : Journaled ε σ)
    (u : Journaled ε τ) (r : Ran (Journaled ε σ) α) (q : Ran (Journaled ε τ) β) : Prop where
  value : V r.value q.value
  state : S r.state.state q.state.state
  entries : ∃ es fs, r.state.entries = w.entries ++ es ∧ q.state.entries = u.entries ++ fs ∧
    List.Forall₂ E es fs
  events : r.events = q.events

/-- Two actions that have as much in common from all related states. -/
def Parallel (S : σ → τ → Prop) (E : ε → ε → Prop) (V : α → β → Prop)
    (a : Action (Journaled ε σ) α) (b : Action (Journaled ε τ) β) : Prop :=
  ∀ w u, S w.state u.state → RanParallel S E V w u (a.run w) (b.run u)

section Actions

variable {S : σ → τ → Prop} {E : ε → ε → Prop} {V : α → β → Prop} {U : γ → δ → Prop}

theorem parallel_pure {v : α} {v' : β} (h : V v v') : Parallel S E V (pure v) (pure v') :=
  fun _ _ state => ⟨h, state, ⟨[], [], by simp, by simp, .nil⟩, rfl⟩

theorem parallel_emit (e : Event) : Parallel S E Eq (Action.emit e) (Action.emit e) :=
  fun _ _ state => ⟨rfl, state, ⟨[], [], by simp, by simp, .nil⟩, rfl⟩

theorem parallel_record {e f : ε} (h : E e f) :
    Parallel S E Eq (Journaled.record e) (Journaled.record f) :=
  fun _ _ state => ⟨rfl, state, ⟨[e], [f], rfl, rfl, .cons h .nil⟩, rfl⟩

/-- Beside the journal it is enough that the states are changed in parallel. -/
theorem parallel_beside {a : Action σ α} {b : Action τ α}
    (h : ∀ s t, S s t → (a.run s).value = (b.run t).value ∧ S (a.run s).state (b.run t).state ∧
      (a.run s).events = (b.run t).events) :
    Parallel S E Eq (Journaled.beside a) (Journaled.beside b) := by
  intro w u state
  obtain ⟨value, state', events⟩ := h w.state u.state state
  exact ⟨value, state', ⟨[], [], by simp, by simp, .nil⟩, events⟩

/-- Sequences run in parallel if their parts do. -/
theorem Parallel.bind {a : Action (Journaled ε σ) α} {b : Action (Journaled ε τ) β}
    {f : α → Action (Journaled ε σ) γ} {g : β → Action (Journaled ε τ) δ}
    (first : Parallel S E V a b) (next : ∀ v v', V v v' → Parallel S E U (f v) (g v')) :
    Parallel S E U (a >>= f) (b >>= g) := by
  intro w u h
  obtain ⟨value, state, ⟨es, fs, added, added', entries⟩, events⟩ := first w u h
  obtain ⟨value', state', ⟨es', fs', more, more', entries'⟩, events'⟩ := next _ _ value _ _ state
  rw [Action.run_bind, Action.run_bind]
  refine ⟨value', state', ⟨es ++ es', fs ++ fs', ?_, ?_, List.rel_append entries entries'⟩, ?_⟩
  · rw [← List.append_assoc, ← added, more]
  · rw [← List.append_assoc, ← added', more']
  · rw [events, events']

end Actions

/-- Two notifiers whose capabilities run in parallel, also on two deliveries that differ but are
related. -/
structure Twins (S : σ → τ → Prop) (E : ε → ε → Prop) (D : Delivery → Delivery → Prop)
    (n : Notifier (Journaled ε σ)) (m : Notifier (Journaled ε τ)) : Prop where
  validator : ∀ number region, Parallel S E Eq (n.validator number region)
    (m.validator number region)
  perform : ∀ d d', D d d' → Parallel S E Eq (n.perform d) (m.perform d')

namespace Twins

variable {S : σ → τ → Prop} {E : ε → ε → Prop} {D : Delivery → Delivery → Prop}
variable {n : Notifier (Journaled ε σ)} {m : Notifier (Journaled ε τ)}

theorem screen (twins : Twins S E D n m) (number : Option String) (region : String) :
    Parallel S E Eq (n.screen number region) (m.screen number region) := by
  intro w u h
  cases number with
  | none => exact ⟨rfl, h, ⟨[], [], by simp, by simp, .nil⟩, rfl⟩
  | some number =>
    by_cases empty : number = ""
    · subst empty
      exact ⟨rfl, h, ⟨[], [], by simp, by simp, .nil⟩, rfl⟩
    · obtain ⟨value, state, entries, events⟩ := twins.validator number region w u h
      rw [Notifier.run_screen n region w empty, Notifier.run_screen m region u empty]
      refine ⟨?value, state, entries, ?events⟩
      case value => simp only [value]
      case events => simp only [value, events]

variable {message message' : String}

/-- What is described differs as far as the messages make it differ. -/
theorem prepare (twins : Twins S E D n m)
    (related : ∀ o, D (Notifier.deliveryOf message o) (Notifier.deliveryOf message' o))
    (number : Option String) (region : String) :
    Parallel S E D (n.prepare number region message) (m.prepare number region message') := by
  refine (twins.screen number region).bind ?_
  rintro outcome _ rfl
  exact parallel_pure (related outcome)

theorem notify (twins : Twins S E D n m)
    (related : ∀ o, D (Notifier.deliveryOf message o) (Notifier.deliveryOf message' o))
    (number : Option String) (region : String) :
    Parallel S E Eq (n.notify number region message) (m.notify number region message') := by
  refine (twins.screen number region).bind ?_
  rintro outcome _ rfl
  have performed := twins.perform _ _ (related outcome)
  cases outcome with
  | success number => exact (parallel_emit _).bind fun _ _ _ => performed
  | failure reason => exact (parallel_emit _).bind fun _ _ _ => performed

/-- What is handed out runs in parallel, too. -/
theorem postpone (twins : Twins S E D n m)
    (related : ∀ o, D (Notifier.deliveryOf message o) (Notifier.deliveryOf message' o))
    (number : Option String) (region : String) :
    Parallel S E (Parallel S E Eq) (n.postpone number region message)
      (m.postpone number region message') := by
  refine (twins.prepare related number region).bind fun d d' same => ?_
  exact parallel_pure (twins.perform d d' same)

end Twins

end GuardedSms
