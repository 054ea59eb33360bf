import GuardedSms.Proofs.Chain.FirstMatch
import GuardedSms.Script.Rule

/-!
# What rules do

The guard of a rule tests the shared variables and may increment some, records the call, and
replies when it is chosen. What its predicate says, changes and records is a function of the
variables alone, and no test emits an event.

## Main definitions

* `Test.holds`, `Test.after`: the result of a test, and the variables after it.
* `Rule.tests`, `Rule.fired`, `Rule.reply`: what the predicate and the branch of a rule record, and
  what the branch replies.
* `Fail`: rules of which none holds.

## Main statements

* `run_predicate`, `run_branch`: the two parts of the guard of a rule.
* `run_search_first`, `run_search_none`: a search among rules runs the tests up to the first that
  holds.
-/
namespace GuardedSms.Script

/-! ## Tests -/

/-- Whether a test holds. -/
def Test.holds : Test → Variables → Bool
  | constant value, _ => value
  | compare name comparison bound, vs => comparison.holds (vs.value name) bound
  | bump name next, vs => next.holds (vs.bump name)

/-- The variables after a test. -/
def Test.after : Test → Variables → Variables
  | bump name next, vs => next.after (vs.bump name)
  | constant _, vs | compare .., vs => vs

theorem run_bump (name : String) (m : Machine) :
    (bump name).run m = ⟨(), ⟨m.state.bump name, m.entries⟩, []⟩ := rfl

theorem run_test (test : Test) (m : Machine) :
    test.eval.run m = ⟨test.holds m.state, ⟨test.after m.state, m.entries⟩, []⟩ := by
  induction test generalizing m with
  | constant value => rfl
  | compare name comparison bound => rfl
  | bump name next ih => simp [Test.eval, Test.holds, Test.after, run_bump, ih]

/-! ## Rules -/

namespace Rule

/-- Whether the predicate of a rule holds. -/
def holds : Rule → Variables → Bool
  | tested _ test _, vs | failing _ test _, vs => test.holds vs
  | always .., _ => true

/-- The variables after the predicate of a rule. -/
def after : Rule → Variables → Variables
  | tested _ test _, vs | failing _ test _, vs => test.after vs
  | always .., vs => vs

/-- The call that the predicate of a rule records, if it records any. -/
def tests : Rule → Variables → List Call
  | tested name test _, vs | failing name test _, vs => [.tested name (test.holds vs)]
  | always .., _ => []

/-- What the branch of a rule replies. -/
def reply : Rule → Reply
  | tested _ _ reply | always _ reply => reply
  | failing _ _ message => .failure message

/-- The call that the branch of a rule records before it replies, if it records any. -/
def fired : Rule → List Call
  | tested name .. | always name _ => [.fired name]
  | failing .. => []

end Rule

theorem run_predicate (rule : Rule) (m : Machine) :
    rule.guard.predicate.run m =
      ⟨rule.holds m.state, ⟨rule.after m.state, m.entries ++ rule.tests m.state⟩, []⟩ := by
  cases rule with
  | tested | failing =>
    simp [Rule.guard, Guard.failing, recordedTest, run_test, Rule.holds, Rule.after, Rule.tests]
  | always => simp [Rule.guard, Guard.always, Rule.holds, Rule.after, Rule.tests]

theorem run_branch (rule : Rule) (m : Machine) :
    rule.guard.branch.run m = rule.reply.eval.run ⟨m.state, m.entries ++ rule.fired⟩ := by
  cases rule with
  | tested | always => simp [Rule.guard, Guard.always, recordedBranch, Rule.reply, Rule.fired]
  | failing => simp [Rule.guard, Guard.failing, Rule.reply, Rule.fired, Reply.eval]

theorem run_fallback (reply : Reply) (m : Machine) :
    reply.fallback.run m = reply.eval.run ⟨m.state, m.entries ++ [.fired fallbackName]⟩ := by
  simp [Reply.fallback, recordedBranch]

/-! ## Lists of rules -/

/-- The variables after the predicates of some rules, which run in order. -/
def afterTests : List Rule → Variables → Variables
  | [], vs => vs
  | rule :: rest, vs => afterTests rest (rule.after vs)

/-- The calls that the predicates of some rules record, which run in order. -/
def testsOf : List Rule → Variables → List Call
  | [], _ => []
  | rule :: rest, vs => rule.tests vs ++ testsOf rest (rule.after vs)

/-- No predicate of some rules holds, each on the variables that those before it left. -/
def Fail : List Rule → Variables → Prop
  | [], _ => True
  | rule :: rest, vs => rule.holds vs = false ∧ Fail rest (rule.after vs)

theorem length_guardsOf (rules : List Rule) : (guardsOf rules).length = rules.length := by
  induction rules with
  | nil => rfl
  | cons rule rules ih => simp [guardsOf, ih]

/-- Rules of which none holds are searched in vain, and all their tests run. -/
theorem run_search_none (start : Nat) {rules : List Rule} {m : Machine}
    (fail : Fail rules m.state) :
    (Guard.firstHolding start (guardsOf rules)).run m =
      ⟨none, ⟨afterTests rules m.state, m.entries ++ testsOf rules m.state⟩, []⟩ := by
  induction rules generalizing start m with
  | nil => simp [guardsOf, Guard.firstHolding, afterTests, testsOf]
  | cons rule rules ih =>
    obtain ⟨fails, later⟩ := fail
    let t : Machine := ⟨rule.after m.state, m.entries ++ rule.tests m.state⟩
    have rest := ih (start + 1) (m := t) later
    rw [guardsOf, Guard.run_firstHolding_cons, run_predicate, rest]
    simp [fails, afterTests, testsOf, t]

/-- Behind rules of which none holds, a rule that holds is found; the tests up to it run. -/
theorem run_search_first (start : Nat) {before : List Rule} {rule : Rule} (later : List Rule)
    {m : Machine} (fail : Fail before m.state) (holds : rule.holds (afterTests before m.state)) :
    (Guard.firstHolding start (guardsOf (before ++ rule :: later))).run m =
      ⟨some (start + before.length, rule.guard),
        ⟨afterTests (before ++ [rule]) m.state,
          m.entries ++ testsOf (before ++ [rule]) m.state⟩, []⟩ := by
  induction before generalizing start m with
  | nil =>
    rw [afterTests] at holds
    rw [List.nil_append, guardsOf, Guard.run_firstHolding_cons, run_predicate]
    simp [holds, afterTests, testsOf]
  | cons first before ih =>
    obtain ⟨fails, others⟩ := fail
    let t : Machine := ⟨first.after m.state, m.entries ++ first.tests m.state⟩
    have rest := ih (start + 1) (m := t) others holds
    rw [List.cons_append, guardsOf, Guard.run_firstHolding_cons, run_predicate, rest]
    simp [fails, afterTests, testsOf, t, Nat.add_assoc, Nat.add_comm 1]

/-- Some rule is the first that holds, or none holds. -/
theorem first_or_fail (rules : List Rule) (vs : Variables) :
    (∃ before rule later, rules = before ++ rule :: later ∧ Fail before vs ∧
      rule.holds (afterTests before vs)) ∨ Fail rules vs := by
  induction rules generalizing vs with
  | nil => exact .inr trivial
  | cons rule rules ih =>
    by_cases holds : rule.holds vs
    · exact .inl ⟨[], rule, rules, rfl, trivial, holds⟩
    · rw [Bool.not_eq_true] at holds
      obtain ⟨before, first, later, rfl, fail, found⟩ | fail := ih (rule.after vs)
      · exact .inl ⟨rule :: before, first, later, rfl, ⟨holds, fail⟩, found⟩
      · exact .inr ⟨holds, fail⟩

/-- The first rule that holds is at one place only. -/
theorem first_unique {before before' : List Rule} {rule rule' : Rule} {later later' : List Rule}
    {vs : Variables} (same : before ++ rule :: later = before' ++ rule' :: later')
    (fail : Fail before vs) (holds : rule.holds (afterTests before vs))
    (fail' : Fail before' vs) (holds' : rule'.holds (afterTests before' vs)) :
    before = before' ∧ rule = rule' ∧ later = later' := by
  induction before generalizing before' vs with
  | nil =>
    cases before' with
    | nil => simpa using same
    | cons first before' =>
      obtain ⟨rfl, -⟩ := List.cons.inj same
      exact absurd holds (by simp [afterTests, fail'.1])
  | cons first before ih =>
    cases before' with
    | nil =>
      obtain ⟨rfl, -⟩ := List.cons.inj same
      exact absurd holds' (by simp [afterTests, fail.1])
    | cons first' before' =>
      obtain ⟨rfl, rest⟩ := List.cons.inj same
      obtain ⟨rfl, rfl, rfl⟩ := ih rest fail.2 holds fail'.2 holds'
      exact ⟨rfl, rfl, rfl⟩

/-- If no rule holds, none is the first that holds. -/
theorem not_holds_of_fail {before : List Rule} {rule : Rule} {later : List Rule} {vs : Variables}
    (fail : Fail (before ++ rule :: later) vs) : rule.holds (afterTests before vs) = false := by
  induction before generalizing vs with
  | nil => exact fail.1
  | cons first before ih => exact ih fail.2

end GuardedSms.Script
