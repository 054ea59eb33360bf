import GuardedSms.Event

/-!
# Actions

An action changes a state of any type and emits trace events. Events are only ever appended, so
the events of a sequence are the events of its parts in order.
-/
namespace GuardedSms

/-- What an action leaves behind. -/
structure Ran (σ α : Type) where
  value : α
  state : σ
  events : List Event

def Action (σ α : Type) : Type := σ → Ran σ α

namespace Action

variable {σ τ α β γ : Type}

def run (a : Action σ α) (s : σ) : Ran σ α := a s

@[ext] theorem ext {a b : Action σ α} (h : ∀ s, a.run s = b.run s) : a = b := funext h

instance : Monad (Action σ) where
  pure v s := ⟨v, s, []⟩
  bind a f s :=
    let r := a.run s
    let t := (f r.value).run r.state
    ⟨t.value, t.state, r.events ++ t.events⟩

instance : MonadStateOf σ (Action σ) where
  get s := ⟨s, s, []⟩
  set t _ := ⟨(), t, []⟩
  modifyGet f s := ⟨(f s).1, (f s).2, []⟩

def emit (e : Event) : Action σ Unit := fun s => ⟨(), s, [e]⟩

/-- Run an action on a component of a larger state. -/
def focus (get : τ → σ) (put : σ → τ → τ) (a : Action σ α) : Action τ α := fun t =>
  let r := a.run (get t)
  ⟨r.value, put r.state t, r.events⟩

@[simp] theorem run_pure (v : α) (s : σ) : (pure v : Action σ α).run s = ⟨v, s, []⟩ := rfl

@[simp] theorem run_bind (a : Action σ α) (f : α → Action σ β) (s : σ) :
    (a >>= f).run s =
      { value := ((f (a.run s).value).run (a.run s).state).value
        state := ((f (a.run s).value).run (a.run s).state).state
        events := (a.run s).events ++ ((f (a.run s).value).run (a.run s).state).events } := rfl

@[simp] theorem run_map (f : α → β) (a : Action σ α) (s : σ) :
    (f <$> a).run s = ⟨f (a.run s).value, (a.run s).state, (a.run s).events⟩ := by
  change Ran.mk (f (a.run s).value) (a.run s).state ((a.run s).events ++ []) = _
  simp

@[simp] theorem run_emit (e : Event) (s : σ) : (emit e).run s = ⟨(), s, [e]⟩ := rfl

@[simp] theorem run_get (s : σ) : (get : Action σ σ).run s = ⟨s, s, []⟩ := rfl

@[simp] theorem run_set (s t : σ) : (set t : Action σ PUnit).run s = ⟨(), t, []⟩ := rfl

@[simp] theorem run_modify (f : σ → σ) (s : σ) :
    (modify f : Action σ PUnit).run s = ⟨(), f s, []⟩ := rfl

@[simp] theorem run_focus (get : τ → σ) (put : σ → τ → τ) (a : Action σ α) (t : τ) :
    (focus get put a).run t =
      ⟨(a.run (get t)).value, put (a.run (get t)).state t, (a.run (get t)).events⟩ := rfl

instance : LawfulMonad (Action σ) :=
  LawfulMonad.mk' (Action σ)
    (fun a => by ext s; simp)
    (fun v f => by ext s; simp)
    (fun a f g => by ext s; simp [List.append_assoc])

end Action

end GuardedSms
