import GuardedSms.Proofs.Cascade.Blocks
import Mathlib.Tactic.SplitIfs

/-!
# Classified numbers

The cascades that classify a number of 64 bits, written as blocks: their conditions are those of
machine arithmetic, in which a remainder has the sign of the number. A remainder is zero all the
same if and only if the number is divisible. So the answers follow from divisibility and order,
though the conditions of the arms overlap and the first that holds decides.

## Main definitions

* `fizzbuzzBlock`, `gradeBlock`, `nestedBlock`: the cascades as blocks.
* `FizzbuzzAnswers`, `GradeAnswers`, `NestedAnswers`: which answer goes with which numbers.
* `Along`: a cascade that asks for the conditions in some blocks and for nothing else.

## Main statements

* `int64_classified`: every number of 64 bits is classified, and no condition is asked for in vain.
-/
namespace GuardedSms.Cascade

/-! ## The cascades as blocks -/

def fizzbuzzBlock (v : Int64) : Block :=
  .arm "15" (v % 15 == 0) (.outcome (.success (.str "FizzBuzz"))) <|
  .arm "5" (v % 5 == 0) (.outcome (.success (.str "Buzz"))) <|
  .arm "3" (v % 3 == 0) (.outcome (.success (.str "Fizz"))) <|
  .otherwise (.outcome (.failure "plain number"))

def gradeBlock (v : Int64) : Block :=
  .arm "neg" (v < 0) (.outcome (.failure "negative")) <|
  .arm "f" (v < 50) (.outcome (.success (.str "F"))) <|
  .arm "c" (v < 70) (.outcome (.success (.str "C"))) <|
  .arm "b" (v < 90) (.outcome (.success (.str "B"))) <|
  .arm "a" (v ≤ 100) (.outcome (.success (.str "A"))) <|
  .otherwise (.outcome (.failure (toString v.toInt ++ " is out of range")))

/-- The block inside for even numbers. -/
def evenBlock (v : Int64) : Block :=
  .arm "inner4" (v % 4 == 0) (.outcome (.success (.arr [.int v.toInt, .str "four"]))) <|
  .otherwise (.outcome (.success (.arr [.int v.toInt, .str "two"])))

/-- The block inside for odd numbers that are not late. It has no arms. -/
def oddBlock (v : Int64) : Block := .otherwise (.outcome (.success (.int v.toInt)))

def nestedBlock (v : Int64) : Block :=
  .arm "outer" (v % 2 == 0) (.block (evenBlock v)) <|
  .arm "late" (v > 100) (.outcome (.failure "big odd")) <|
  .otherwise (.block (oddBlock v))

/-- A machine remainder is zero if and only if the number is divisible, whatever their signs. -/
theorem mod_beq_zero (v k : Int64) : (v % k == 0) = decide (k.toInt ∣ v.toInt) := by
  rw [Bool.eq_iff_iff, beq_iff_eq, decide_eq_true_iff, ← Int64.toInt_inj, Int64.toInt_mod,
    Int.dvd_iff_tmod_eq_zero]
  rfl

theorem emod_beq_zero (n k : Int) : (n % k == 0) = decide (k ∣ n) := by
  rw [Bool.eq_iff_iff, beq_iff_eq, decide_eq_true_iff, Int.dvd_iff_emod_eq_zero]

theorem chain_fizzbuzzBlock (v : Int64) : (fizzbuzzBlock v).chain = fizzbuzz v.toInt := by
  simp [fizzbuzzBlock, Block.chain, fizzbuzz, succeed, fail, mod_beq_zero, emod_beq_zero]

theorem chain_gradeBlock (v : Int64) : (gradeBlock v).chain = grade v.toInt := by
  simp [gradeBlock, Block.chain, grade, succeed, fail, Int64.lt_iff_toInt_lt,
    Int64.le_iff_toInt_le]

theorem chain_evenBlock (v : Int64) : (evenBlock v).chain = evenNumber v.toInt := by
  simp [evenBlock, Block.chain, evenNumber, succeed, mod_beq_zero, emod_beq_zero]

theorem chain_oddBlock (v : Int64) : (oddBlock v).chain = elseOnly v.toInt := by
  simp [oddBlock, Block.chain, elseOnly, succeed]

theorem chain_nestedBlock (v : Int64) : (nestedBlock v).chain = nested v.toInt := by
  have arms : (nestedBlock v).guards = (nested v.toInt).guards := by
    simp [nestedBlock, nested, fail, chain_evenBlock, mod_beq_zero, emod_beq_zero,
      Int64.lt_iff_toInt_lt]
  have fallback : (nestedBlock v).fallback = (nested v.toInt).fallback := by
    simp [nestedBlock, nested, chain_oddBlock]
  rw [Block.chain, arms, fallback]

/-! ## The answers -/

/-- The answers of `fizzbuzz`, which follow from divisibility by three and by five. -/
structure FizzbuzzAnswers (v : Int) (answer : Outcome Json) : Prop where
  both : answer = .success (.str "FizzBuzz") ↔ 3 ∣ v ∧ 5 ∣ v
  five : answer = .success (.str "Buzz") ↔ 5 ∣ v ∧ ¬ 3 ∣ v
  three : answer = .success (.str "Fizz") ↔ 3 ∣ v ∧ ¬ 5 ∣ v
  neither : answer = .failure "plain number" ↔ ¬ 3 ∣ v ∧ ¬ 5 ∣ v

/-- The answers of `grade`, each for the numbers between two bounds. -/
structure GradeAnswers (v : Int) (answer : Outcome Json) : Prop where
  negative : answer = .failure "negative" ↔ v < 0
  f : answer = .success (.str "F") ↔ 0 ≤ v ∧ v < 50
  c : answer = .success (.str "C") ↔ 50 ≤ v ∧ v < 70
  b : answer = .success (.str "B") ↔ 70 ≤ v ∧ v < 90
  a : answer = .success (.str "A") ↔ 90 ≤ v ∧ v ≤ 100
  outOfRange : answer = .failure (toString v ++ " is out of range") ↔ 100 < v

/-- The answers of `nested`, for even numbers by divisibility by four, for odd ones by size. -/
structure NestedAnswers (v : Int) (answer : Outcome Json) : Prop where
  four : answer = .success (.arr [.int v, .str "four"]) ↔ 4 ∣ v
  two : answer = .success (.arr [.int v, .str "two"]) ↔ 2 ∣ v ∧ ¬ 4 ∣ v
  bigOdd : answer = .failure "big odd" ↔ ¬ 2 ∣ v ∧ 100 < v
  odd : answer = .success (.int v) ↔ ¬ 2 ∣ v ∧ v ≤ 100

/-- The failure of a number that is out of range is another than that of a negative number. -/
theorem outOfRange_ne_negative (n : Int) : n.repr ++ " is out of range" ≠ "negative" := by
  intro same
  have longer := congrArg String.length same
  rw [String.length_append, show " is out of range".length = 16 from rfl,
    show "negative".length = 8 from rfl] at longer
  omega

/-- A block that takes an outcome is the only one that is entered. -/
theorem Enters.of_taken {block : Block} {outcome : Outcome Json}
    (taken : block.taken = .outcome outcome) : Enters (.block block) [block] outcome :=
  .block (taken ▸ .outcome outcome)

theorem exists_fizzbuzz (v : Int64) : ∃ answer,
    Enters (.block (fizzbuzzBlock v)) [fizzbuzzBlock v] answer ∧
      FizzbuzzAnswers v.toInt answer := by
  have taken : (fizzbuzzBlock v).taken = .outcome
      (if 15 ∣ v.toInt then .success (.str "FizzBuzz")
       else if 5 ∣ v.toInt then .success (.str "Buzz")
       else if 3 ∣ v.toInt then .success (.str "Fizz")
       else .failure "plain number") := by
    simp [fizzbuzzBlock, mod_beq_zero, ← apply_ite Branch.outcome]
  refine ⟨_, .of_taken taken, ?_⟩
  -- One answer is given in each case. That the others are not is a matter of their texts, and that
  -- their numbers are none of this case one of arithmetic.
  split_ifs <;> constructor <;> simp <;> omega

theorem exists_grade (v : Int64) : ∃ answer,
    Enters (.block (gradeBlock v)) [gradeBlock v] answer ∧ GradeAnswers v.toInt answer := by
  have taken : (gradeBlock v).taken = .outcome
      (if v.toInt < 0 then .failure "negative"
       else if v.toInt < 50 then .success (.str "F")
       else if v.toInt < 70 then .success (.str "C")
       else if v.toInt < 90 then .success (.str "B")
       else if v.toInt ≤ 100 then .success (.str "A")
       else .failure (toString v.toInt ++ " is out of range")) := by
    simp [gradeBlock, Int64.lt_iff_toInt_lt, Int64.le_iff_toInt_le, ← apply_ite Branch.outcome]
  have apart := outOfRange_ne_negative v.toInt
  refine ⟨_, .of_taken taken, ?_⟩
  split_ifs <;> constructor <;> simp [apart, apart.symm] <;> omega

/-- The blocks that are entered inside the nested one. -/
def insideNested (v : Int64) : List Block :=
  if 2 ∣ v.toInt then [evenBlock v] else if 100 < v.toInt then [] else [oddBlock v]

theorem exists_nested (v : Int64) : ∃ answer,
    Enters (.block (nestedBlock v)) (nestedBlock v :: insideNested v) answer ∧
      NestedAnswers v.toInt answer := by
  have taken : (nestedBlock v).taken =
      if 2 ∣ v.toInt then .block (evenBlock v)
      else if 100 < v.toInt then .outcome (.failure "big odd")
      else .block (oddBlock v) := by
    simp [nestedBlock, mod_beq_zero, Int64.lt_iff_toInt_lt]
  have takenInside : (evenBlock v).taken = .outcome
      (if 4 ∣ v.toInt then .success (.arr [.int v.toInt, .str "four"])
       else .success (.arr [.int v.toInt, .str "two"])) := by
    simp [evenBlock, mod_beq_zero, ← apply_ite Branch.outcome]
  rw [insideNested]
  -- Only where another block is entered does the way go on.
  by_cases even : 2 ∣ v.toInt
  · rw [if_pos even] at taken ⊢
    refine ⟨_, .block (taken.symm ▸ Enters.of_taken takenInside), ?_⟩
    split_ifs <;> constructor <;> simp <;> omega
  · rw [if_neg even] at taken ⊢
    by_cases late : 100 < v.toInt
    · rw [if_pos late] at taken ⊢
      refine ⟨_, .of_taken taken, ?_⟩
      constructor <;> simp <;> omega
    · rw [if_neg late] at taken ⊢
      refine ⟨.success (.int v.toInt), .block (taken.symm ▸ Enters.of_taken rfl), ?_⟩
      constructor <;> simp <;> omega

/-! ## The classification -/

/-- A cascade comes to its answer through some blocks, the first of which it is, and the others are
inside. It records the conditions up to the first that holds in each of them, in the order in
which the blocks are entered, and emits one event for each block. -/
structure Along (c : Chain Record Json) (block : Block) (inside : List Block) : Prop where
  written : block.chain = c
  enters : Enters (.block block) (block :: inside) (classify c).1
  calls : (classify c).2.1 = block.asked ++ inside.flatMap Block.asked
  events : (classify c).2.2 = (block :: inside).map (Block.choice 0)

theorem Along.of_enters {c : Chain Record Json} {block : Block} {inside : List Block}
    {answer : Outcome Json} (written : block.chain = c)
    (enters : Enters (.block block) (block :: inside) answer) :
    Along c block inside ∧ (classify c).1 = answer := by
  have classified := enters.classify_chain
  rw [written] at classified
  refine ⟨⟨written, ?_, ?_, ?_⟩, ?_⟩ <;> simp [classified, enters]

/-- What the cascades make of a number of 64 bits. -/
structure Classified (v : Int64) : Prop where
  fizzbuzz_answers : FizzbuzzAnswers v.toInt (classify (fizzbuzz v.toInt)).1
  fizzbuzz_along : Along (fizzbuzz v.toInt) (fizzbuzzBlock v) []
  grade_answers : GradeAnswers v.toInt (classify (grade v.toInt)).1
  grade_along : Along (grade v.toInt) (gradeBlock v) []
  nested_answers : NestedAnswers v.toInt (classify (nested v.toInt)).1
  nested_along : Along (nested v.toInt) (nestedBlock v) (insideNested v)

/-- Every number of 64 bits is classified by divisibility and order, and no condition is asked for
but those up to the first that holds, in the blocks that are entered. -/
theorem int64_classified (v : Int64) : Classified v := by
  obtain ⟨_, enters, fizzbuzz⟩ := exists_fizzbuzz v
  obtain ⟨fizzbuzzAlong, rfl⟩ := Along.of_enters (chain_fizzbuzzBlock v) enters
  obtain ⟨_, enters, grade⟩ := exists_grade v
  obtain ⟨gradeAlong, rfl⟩ := Along.of_enters (chain_gradeBlock v) enters
  obtain ⟨_, enters, nested⟩ := exists_nested v
  obtain ⟨nestedAlong, rfl⟩ := Along.of_enters (chain_nestedBlock v) enters
  exact ⟨fizzbuzz, fizzbuzzAlong, grade, gradeAlong, nested, nestedAlong⟩

end GuardedSms.Cascade
