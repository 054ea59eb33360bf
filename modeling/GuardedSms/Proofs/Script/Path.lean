import GuardedSms.Proofs.Script.Rules
import Mathlib.Logic.ExistsUnique

/-!
# The path of a nested evaluation

Selects are nested in the branches of selects to any depth, and predicates and branches increment
the variables that later predicates compare. An evaluation takes one path through them: at every
select it chooses one branch, and behind the increments of that branch stands the next select or
the outcome. The trace is that path, and the calls are recorded along it.

## Main definitions

* `Visit`: a select that is entered, with what it chooses there.
* `Follows`: visits that lead from a reply to its outcome.

## Main statements

* `run_select`: what a select does is its visit and then the branch that it chooses.
* `select_follows_path`: the events and the calls of an evaluation are those of its path.
-/
namespace GuardedSms.Script

/-! ## Visits -/

/-- A select that is entered with some variables, and what it chooses: the first rule that holds
there, or its fallback if none does. -/
inductive Visit where
  | matched (before : List Rule) (rule : Rule) (later : List Rule) (fallback : Reply)
    (entered : Variables) (fail : Fail before entered)
    (holds : rule.holds (afterTests before entered))
  | unmatched (rules : List Rule) (fallback : Reply) (entered : Variables)
    (fail : Fail rules entered)

namespace Visit

def rules : Visit → List Rule
  | matched before rule later .. => before ++ rule :: later
  | unmatched rules .. => rules

def fallback : Visit → Reply
  | matched _ _ _ fallback .. | unmatched _ fallback .. => fallback

/-- The variables with which the select is entered. -/
def entered : Visit → Variables
  | matched _ _ _ _ entered .. | unmatched _ _ entered _ => entered

/-- The event of the visit: the position of the rule that is chosen, or the number of rules. -/
def event : Visit → Event
  | matched before .. => .guardMatched before.length
  | unmatched rules .. => .noGuardMatched rules.length

/-- The rules whose predicates run. -/
def tried : Visit → List Rule
  | matched before rule .. => before ++ [rule]
  | unmatched rules .. => rules

/-- The variables when the predicates have run. -/
def left (v : Visit) : Variables := afterTests v.tried v.entered

/-- The calls of the predicates. -/
def tests (v : Visit) : List Call := testsOf v.tried v.entered

/-- What the chosen branch replies. -/
def branch : Visit → Reply
  | matched _ rule .. => rule.reply
  | unmatched _ fallback .. => fallback

/-- The call of the chosen branch, if it records any. -/
def fired : Visit → List Call
  | matched _ rule .. => rule.fired
  | unmatched .. => [.fired fallbackName]

/-- A visit tells the position of one of its rules, or their number. -/
theorem event_cases (v : Visit) :
    (∃ index < v.rules.length, v.event = .guardMatched index) ∨
      v.event = .noGuardMatched v.rules.length := by
  cases v with
  | matched before rule later => exact .inl ⟨before.length, by simp [rules], rfl⟩
  | unmatched => exact .inr rfl

/-- Wherever a select is entered, there is a visit to it. -/
theorem exists_visit (rules : List Rule) (fallback : Reply) (vs : Variables) :
    ∃ v : Visit, v.rules = rules ∧ v.fallback = fallback ∧ v.entered = vs := by
  obtain ⟨before, rule, later, rfl, fail, holds⟩ | fail := first_or_fail rules vs
  · exact ⟨.matched before rule later fallback vs fail holds, rfl, rfl, rfl⟩
  · exact ⟨.unmatched rules fallback vs fail, rfl, rfl, rfl⟩

/-- There is one visit only to a select that is entered with some variables. -/
theorem unique {v w : Visit} (rules : v.rules = w.rules) (fallback : v.fallback = w.fallback)
    (entered : v.entered = w.entered) : v = w := by
  cases v with
  | matched before rule later f vs fail holds =>
    cases w with
    | matched before' rule' later' f' vs' fail' holds' =>
      obtain rfl : f = f' := fallback
      obtain rfl : vs = vs' := entered
      obtain ⟨rfl, rfl, rfl⟩ := first_unique rules fail holds fail' holds'
      rfl
    | unmatched rules' f' vs' fail' =>
      obtain rfl : before ++ rule :: later = rules' := rules
      obtain rfl : vs = vs' := entered
      exact absurd holds (by simp [not_holds_of_fail fail'])
  | unmatched rules' f vs fail =>
    cases w with
    | matched before rule later f' vs' fail' holds =>
      obtain rfl : rules' = before ++ rule :: later := rules
      obtain rfl : vs = vs' := entered
      exact absurd holds (by simp [not_holds_of_fail fail])
    | unmatched rules'' f' vs' fail' =>
      obtain rfl : f = f' := fallback
      obtain rfl : vs = vs' := entered
      obtain rfl : rules' = rules'' := rules
      rfl

/-- A visit goes on with a reply that stands in the select. -/
theorem branch_mem (v : Visit) :
    v.branch = v.fallback ∨ ∃ rule ∈ v.rules, v.branch = rule.reply := by
  cases v with
  | matched before rule later => exact .inr ⟨rule, by simp [rules], rfl⟩
  | unmatched => exact .inl rfl

end Visit

/-- A select runs its predicates, emits its event, records the call of the branch that it chooses,
and goes on with that branch. -/
theorem run_select (v : Visit) {m : Machine} (h : m.state = v.entered) :
    (Chain.eval ⟨guardsOf v.rules, v.fallback.fallback⟩).run m =
      let ran := v.branch.eval.run ⟨v.left, m.entries ++ (v.tests ++ v.fired)⟩
      ⟨ran.value, ran.state, v.event :: ran.events⟩ := by
  cases v with
  | matched before rule later fallback vs fail holds =>
    obtain rfl : m.state = vs := h
    have found := run_search_first 0 later fail holds
    rw [Visit.rules, Chain.eval, Action.run_bind, found]
    simp [run_branch, Visit.branch, Visit.left, Visit.tests, Visit.fired, Visit.tried,
      Visit.entered, Visit.event]
  | unmatched rules fallback vs fail =>
    obtain rfl : m.state = vs := h
    have found := run_search_none 0 fail
    rw [Visit.rules, Chain.eval, Action.run_bind, found]
    simp [run_fallback, Visit.branch, Visit.left, Visit.tests, Visit.fired, Visit.tried,
      Visit.entered, Visit.event, Visit.fallback, length_guardsOf]

/-! ## Paths -/

/-- A reply behind its increments, with the variables after them. -/
def Reply.stripped : Reply → Variables → Reply × Variables
  | .bump name next, vs => next.stripped (vs.bump name)
  | .success value, vs => (.success value, vs)
  | .failure message, vs => (.failure message, vs)
  | .variable name, vs => (.variable name, vs)
  | .select rules fallback, vs => (.select rules fallback, vs)

/-- Visits that lead from a reply, with some variables, to an outcome and the variables that are
left: without a visit the outcome stands behind the increments of the reply; otherwise the select
of the first visit stands there, and the other visits lead on from the branch that it chooses. -/
inductive Follows : Reply → Variables → List Visit → Outcome Json → Variables → Prop
  | value {r : Reply} {vs t : Variables} {value : Json}
    (h : r.stripped vs = (.success value, t)) : Follows r vs [] (.success value) t
  | failure {r : Reply} {vs t : Variables} {message : String}
    (h : r.stripped vs = (.failure message, t)) : Follows r vs [] (.failure message) t
  | read {r : Reply} {vs t : Variables} {name : String}
    (h : r.stripped vs = (.variable name, t)) :
    Follows r vs [] (.success (.int (t.value name))) t
  | inside {r : Reply} {vs t : Variables} {v : Visit} {visits : List Visit}
    {outcome : Outcome Json} (h : r.stripped vs = (.select v.rules v.fallback, v.entered))
    (rest : Follows v.branch v.left visits outcome t) : Follows r vs (v :: visits) outcome t

/-- Every reply has one path only. -/
theorem Follows.unique {r : Reply} {vs t t' : Variables} {visits visits' : List Visit}
    {outcome outcome' : Outcome Json} (h : Follows r vs visits outcome t)
    (h' : Follows r vs visits' outcome' t') :
    visits = visits' ∧ outcome = outcome' ∧ t = t' := by
  induction h generalizing visits' outcome' t' with
  | value h | failure h | read h => cases h' <;> simp_all
  | inside h rest ih =>
    cases h' with
    | value h' | failure h' | read h' => simp_all
    | @inside _ _ _ w _ _ h' rest' =>
      obtain ⟨⟨rules, fallback⟩, entered⟩ :
          (_ = w.rules ∧ _ = w.fallback) ∧ _ = w.entered := by simpa using h.symm.trans h'
      obtain rfl := Visit.unique rules fallback entered
      obtain ⟨rfl, rfl, rfl⟩ := ih rest'
      exact ⟨rfl, rfl, rfl⟩

theorem Follows.bump {next : Reply} {name : String} {vs t : Variables} {visits : List Visit}
    {outcome : Outcome Json} (h : Follows next (vs.bump name) visits outcome t) :
    Follows (.bump name next) vs visits outcome t := by
  cases h with
  | value h => exact .value h
  | failure h => exact .failure h
  | read h => exact .read h
  | inside h rest => exact .inside h rest

/-- What an evaluation has in common with the path that it takes. -/
structure Took (r : Reply) (m : Machine) (visits : List Visit)
    (ran : Ran Machine (Outcome Json)) : Prop where
  /-- The visits lead from the reply to the outcome. -/
  follows : Follows r m.state visits ran.value ran.state.state
  /-- There is one event for each visit, the outermost first. -/
  events : ran.events = visits.map Visit.event
  /-- It tells the position of the rule that is chosen, or the number of rules if none is. -/
  told : ∀ v ∈ visits, (∃ index < v.rules.length, v.event = .guardMatched index) ∨
    v.event = .noGuardMatched v.rules.length
  /-- At each visit the calls of the predicates are recorded before the call of the branch, and
  that before all calls of the visits inside the branch. -/
  calls : ran.state.entries = m.entries ++ visits.flatMap fun v => v.tests ++ v.fired

/-- A reply that is an outcome already takes a path without visits. -/
theorem Took.leaf {r : Reply} {m : Machine} {ran : Ran Machine (Outcome Json)}
    (follows : Follows r m.state [] ran.value ran.state.state) (events : ran.events = [])
    (calls : ran.state.entries = m.entries) : Took r m [] ran :=
  ⟨follows, events, by simp, by simpa using calls⟩

/-- A path through the branch that a visit chooses is one through the select, too. -/
theorem Took.select {v : Visit} {m : Machine} (h : m.state = v.entered)
    (took : ∀ m, ∃ visits, Took v.branch m visits (v.branch.eval.run m)) :
    ∃ visits, Took (.select v.rules v.fallback) m visits
      ((Chain.eval ⟨guardsOf v.rules, v.fallback.fallback⟩).run m) := by
  obtain ⟨visits, follows, events, -, calls⟩ := took ⟨v.left, m.entries ++ (v.tests ++ v.fired)⟩
  have next : (Reply.select v.rules v.fallback).stripped m.state =
      (.select v.rules v.fallback, v.entered) := by rw [Reply.stripped, h]
  rw [run_select v h]
  refine ⟨v :: visits, .inside next follows, ?events, fun v _ => v.event_cases, ?calls⟩
  case events => rw [List.map_cons, ← events]
  case calls => simpa using calls

-- The recursion is that of replies and rules: a select goes on with a reply that stands in it.
mutual

theorem exists_path_reply : ∀ (r : Reply) (m : Machine), ∃ visits, Took r m visits (r.eval.run m)
  | .success value, m => ⟨[], .leaf (.value rfl) rfl rfl⟩
  | .failure message, m => ⟨[], .leaf (.failure rfl) rfl rfl⟩
  | .variable name, m => ⟨[], .leaf (.read rfl) rfl rfl⟩
  | .bump name next, m => by
    let bumped : Machine := ⟨m.state.bump name, m.entries⟩
    have ran : (Reply.bump name next).eval.run m = next.eval.run bumped := by
      simp [Reply.eval, run_bump, bumped]
    obtain ⟨visits, follows, events, told, calls⟩ := exists_path_reply next bumped
    rw [ran]
    exact ⟨visits, follows.bump, events, told, calls⟩
  | .select rules fallback, m => by
    obtain ⟨v, hr, hf, entered⟩ := Visit.exists_visit rules fallback m.state
    rw [Reply.eval, ← hr, ← hf]
    refine Took.select entered.symm fun m => ?_
    obtain same | ⟨rule, mem, same⟩ := v.branch_mem
    · rw [same, hf]
      exact exists_path_reply fallback m
    · rw [same]
      exact exists_path_of_mem rules rule (hr ▸ mem) m

theorem exists_path_rule : ∀ (rule : Rule) (m : Machine),
    ∃ visits, Took rule.reply m visits (rule.reply.eval.run m)
  | .tested _ _ reply, m | .always _ reply, m => exists_path_reply reply m
  | .failing .., _ => ⟨[], .leaf (.failure rfl) rfl rfl⟩

theorem exists_path_of_mem : ∀ (rules : List Rule), ∀ rule ∈ rules, ∀ m : Machine,
    ∃ visits, Took rule.reply m visits (rule.reply.eval.run m)
  | [], _, mem, _ => absurd mem List.not_mem_nil
  | first :: rest, rule, mem, m => by
    obtain same | later := List.mem_cons.mp mem
    · rw [same]
      exact exists_path_rule first m
    · exact exists_path_of_mem rest rule later m

end

/-- A select, however deep others are nested in its branches, takes one path, and its events and
the calls that are recorded are those of the path. -/
theorem select_follows_path (rules : List Rule) (fallback : Reply) (m : Machine) :
    ∃! visits, Took (.select rules fallback) m visits
      ((Chain.eval ⟨guardsOf rules, fallback.fallback⟩).run m) := by
  obtain ⟨visits, took⟩ := exists_path_reply (.select rules fallback) m
  exact ⟨visits, took, fun _ other => (other.follows.unique took.follows).1⟩

end GuardedSms.Script
