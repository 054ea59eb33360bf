import GuardedSms.Cascade
import GuardedSms.Proofs.Chain.Placement
import Mathlib.Logic.ExistsUnique

/-!
# Nested blocks

A cascade is written as a block of arms: conditions with branches in order, and a branch for all
other cases at the end. A branch may be another block. To evaluate a block is to enter one block
after the other, and to ask in each of them for the conditions up to the first that holds. No
condition of a block that is not entered is asked for.

Conditions stand in blocks with their truth values, so a block is all that can happen for one input.

## Main definitions

* `Block`, `Branch`: arms as they are written, with blocks nested to any depth.
* `Block.chain`: the chain of a block, in which conditions are recorded when they are asked for.
* `Block.taken`, `Block.asked`, `Block.choice`: the branch, the recorded names and the event of a
  block.
* `Enters`: the blocks that are entered on the way to an outcome.

## Main statements

* `Block.run_chain`: a block runs the branch that it takes and nothing of the others.
* `Enters.run`: what an evaluation records and emits is that of the blocks that it enters.
* `Block.classify_chain`: a block classifies along the one way through it.
-/
namespace GuardedSms.Cascade

mutual

/-- What an arm leads to. -/
inductive Branch where
  | outcome (outcome : Outcome Json)
  | block (block : Block)

/-- Arms in the order in which they are written. -/
inductive Block where
  | arm (name : String) (condition : Bool) (branch : Branch) (rest : Block)
  | otherwise (branch : Branch)

end

mutual

def Branch.eval : Branch → Action Record (Outcome Json)
  | .outcome outcome => pure outcome
  | .block block => Chain.eval ⟨block.guards, block.fallback⟩

@[simp] def Block.guards : Block → List (Guard Record Json)
  | .arm name condition branch rest => Cascade.arm name condition branch.eval :: rest.guards
  | .otherwise _ => []

@[simp] def Block.fallback : Block → Action Record (Outcome Json)
  | .arm _ _ _ rest => rest.fallback
  | .otherwise branch => branch.eval

end

namespace Block

def chain (block : Block) : Chain Record Json := ⟨block.guards, block.fallback⟩

@[simp] theorem eval_outcome (outcome : Outcome Json) :
    (Branch.outcome outcome).eval = pure outcome := by
  rw [Branch.eval]

@[simp] theorem eval_block (block : Block) : (Branch.block block).eval = block.chain.eval := by
  rw [Branch.eval, chain]

/-- The branch of the first arm whose condition holds, or the one for all other cases. -/
@[simp] def taken : Block → Branch
  | arm _ condition branch rest => if condition then branch else rest.taken
  | otherwise branch => branch

/-- The names of the arms up to and including the first whose condition holds. -/
@[simp] def asked : Block → List String
  | arm name condition _ rest => name :: if condition then [] else rest.asked
  | otherwise _ => []

/-- The event that tells the position of the first arm whose condition holds, or the number of arms,
both counted from `start`. -/
@[simp] def choice (start : Nat) : Block → Event
  | arm _ condition _ rest => if condition then .guardMatched start else rest.choice (start + 1)
  | otherwise _ => .noGuardMatched start

/-- A block records the conditions up to the first that holds, and then runs what it takes. -/
theorem run_evalFrom : ∀ (start : Nat) (block : Block) (w : Record),
    (Chain.evalFrom start block.fallback block.guards).run w =
      let ran := block.taken.eval.run ⟨w.state, w.entries ++ block.asked⟩
      ⟨ran.value, ran.state, block.choice start :: ran.events⟩
  | start, otherwise branch, w => by
    simp [Chain.evalFrom]
  | start, arm name condition branch rest, w => by
    cases condition with
    | true => simp [Chain.evalFrom, Cascade.arm]
    | false =>
      have later := run_evalFrom (start + 1) rest ⟨w.state, w.entries ++ [name]⟩
      simp [Chain.evalFrom, Cascade.arm, later]

theorem run_chain (block : Block) (w : Record) :
    block.chain.eval.run w =
      let ran := block.taken.eval.run ⟨w.state, w.entries ++ block.asked⟩
      ⟨ran.value, ran.state, block.choice 0 :: ran.events⟩ := by
  rw [Chain.eval_eq_evalFrom]
  exact run_evalFrom 0 block w

end Block

/-- The blocks that are entered on the way from a branch to an outcome, the outermost first: behind
a block the way leads on from the branch that the block takes. -/
inductive Enters : Branch → List Block → Outcome Json → Prop
  | outcome (outcome : Outcome Json) : Enters (.outcome outcome) [] outcome
  | block {block : Block} {blocks : List Block} {outcome : Outcome Json}
    (inside : Enters block.taken blocks outcome) : Enters (.block block) (block :: blocks) outcome

/-- An evaluation comes to the outcome to which its way leads. It records what is asked for in the
blocks on the way, block by block, and emits one event for each of them. -/
theorem Enters.run {branch : Branch} {blocks : List Block} {outcome : Outcome Json}
    (enters : Enters branch blocks outcome) (w : Record) :
    branch.eval.run w =
      ⟨outcome, ⟨w.state, w.entries ++ blocks.flatMap Block.asked⟩,
        blocks.map (Block.choice 0)⟩ := by
  -- The record is general, since a block leaves its names in it before the way leads on.
  induction enters generalizing w with
  | outcome outcome => simp
  | block inside ih =>
    rw [Block.eval_block, Block.run_chain, ih]
    simp

/-- A chain classifies along the way through its block. -/
theorem Enters.classify_chain {block : Block} {blocks : List Block} {outcome : Outcome Json}
    (enters : Enters (.block block) blocks outcome) :
    classify block.chain = (outcome, blocks.flatMap Block.asked, blocks.map (Block.choice 0)) := by
  have ran := enters.run (.start ())
  rw [Block.eval_block] at ran
  rw [classify, ran]
  rfl

/-- There is one way only. -/
theorem Enters.unique {branch : Branch} {blocks blocks' : List Block}
    {outcome outcome' : Outcome Json} (enters : Enters branch blocks outcome)
    (enters' : Enters branch blocks' outcome') : blocks = blocks' ∧ outcome = outcome' := by
  induction enters generalizing blocks' with
  | outcome =>
    cases enters'
    exact ⟨rfl, rfl⟩
  | block inside ih =>
    cases enters' with
    | block inside' =>
      obtain ⟨rfl, rfl⟩ := ih inside'
      exact ⟨rfl, rfl⟩

mutual

theorem exists_enters : ∀ branch : Branch, ∃ blocks outcome, Enters branch blocks outcome
  | .outcome outcome => ⟨[], outcome, .outcome outcome⟩
  | .block block => by
    obtain ⟨blocks, outcome, inside⟩ := exists_enters_taken block
    exact ⟨block :: blocks, outcome, .block inside⟩

theorem exists_enters_taken : ∀ block : Block, ∃ blocks outcome, Enters block.taken blocks outcome
  | .arm _ true branch _ => exists_enters branch
  | .arm _ false _ rest => exists_enters_taken rest
  | .otherwise branch => exists_enters branch

end

/-- The chain of a block classifies along the one way through the block, however deep it is
nested. -/
theorem Block.classify_chain (block : Block) :
    ∃! way : List Block × Outcome Json, Enters (.block block) way.1 way.2 ∧
      classify block.chain =
        (way.2, way.1.flatMap Block.asked, way.1.map (Block.choice 0)) := by
  obtain ⟨blocks, outcome, enters⟩ := exists_enters (.block block)
  refine ⟨(blocks, outcome), ⟨enters, enters.classify_chain⟩, ?_⟩
  rintro ⟨blocks', outcome'⟩ ⟨enters', -⟩
  obtain ⟨rfl, rfl⟩ := enters.unique enters'
  rfl

end GuardedSms.Cascade
