import GuardedSms.Action

/-!
# Journaled states

A state of any type beside a record that only grows. Actions on the state alone run beside the
record without touching it.
-/
namespace GuardedSms

structure Journaled (ε σ : Type) where
  state : σ
  entries : List ε

namespace Journaled

variable {ε σ α : Type}

/-- A state about which nothing has been recorded yet. -/
def start (s : σ) : Journaled ε σ := ⟨s, []⟩

def record (entry : ε) : Action (Journaled ε σ) Unit :=
  modify fun w => { w with entries := w.entries ++ [entry] }

/-- Run an action on the state and leave the record alone. -/
def beside (a : Action σ α) : Action (Journaled ε σ) α :=
  a.focus Journaled.state fun s w => { w with state := s }

/-- The answer of an action together with the entries that it recorded. -/
def recording (a : Action (Journaled ε σ) α) : Action (Journaled ε σ) (α × List ε) := do
  let before := (← get).entries.length
  let answer ← a
  return (answer, (← get).entries.drop before)

@[simp] theorem run_record (entry : ε) (w : Journaled ε σ) :
    (record entry).run w = ⟨(), ⟨w.state, w.entries ++ [entry]⟩, []⟩ := rfl

@[simp] theorem run_beside (a : Action σ α) (w : Journaled ε σ) :
    (beside a : Action (Journaled ε σ) α).run w =
      ⟨(a.run w.state).value, ⟨(a.run w.state).state, w.entries⟩, (a.run w.state).events⟩ := rfl

@[simp] theorem run_recording (a : Action (Journaled ε σ) α) (w : Journaled ε σ) :
    (recording a).run w =
      ⟨((a.run w).value, (a.run w).state.entries.drop w.entries.length), (a.run w).state,
        (a.run w).events⟩ := by
  simp [recording]

end Journaled

end GuardedSms
