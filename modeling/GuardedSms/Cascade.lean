import GuardedSms.Guard
import GuardedSms.Journaled
import GuardedSms.Json

/-!
# Cascades

Fixed chains that classify a number, with every predicate recorded by name when it runs.
-/
namespace GuardedSms.Cascade

/-- The names of the predicates that ran. -/
abbrev Record : Type := Journaled String Unit

/-- An arm that is taken when a condition holds. -/
def arm (name : String) (condition : Bool) (branch : Action Record (Outcome Json)) :
    Guard Record Json :=
  ⟨do Journaled.record name; return condition, branch⟩

def succeed (v : Json) : Action Record (Outcome Json) := pure (.success v)

def fail (message : String) : Action Record (Outcome Json) := pure (.failure message)

/-- A present number that is not empty. -/
def number (n : Option String) : Chain Record Json where
  guards := [
    arm "null" n.isNone (fail Wording.absentNumber),
    arm "empty" (n == some "") (fail Wording.emptyNumber)]
  fallback := succeed (.str (n.getD ""))

def fizzbuzz (v : Int) : Chain Record Json where
  guards := [
    arm "15" (v % 15 == 0) (succeed (.str "FizzBuzz")),
    arm "5" (v % 5 == 0) (succeed (.str "Buzz")),
    arm "3" (v % 3 == 0) (succeed (.str "Fizz"))]
  fallback := fail "plain number"

def grade (v : Int) : Chain Record Json where
  guards := [
    arm "neg" (v < 0) (fail "negative"),
    arm "f" (v < 50) (succeed (.str "F")),
    arm "c" (v < 70) (succeed (.str "C")),
    arm "b" (v < 90) (succeed (.str "B")),
    arm "a" (v ≤ 100) (succeed (.str "A"))]
  fallback := fail (toString v ++ " is out of range")

/-- No arms at all. -/
def elseOnly (v : Int) : Chain Record Json where
  guards := []
  fallback := succeed (.int v)

/-- Even numbers by their divisibility by four. -/
def evenNumber (v : Int) : Chain Record Json where
  guards := [arm "inner4" (v % 4 == 0) (succeed (.arr [.int v, .str "four"]))]
  fallback := succeed (.arr [.int v, .str "two"])

def nested (v : Int) : Chain Record Json where
  guards := [
    arm "outer" (v % 2 == 0) (evenNumber v).eval,
    arm "late" (v > 100) (fail "big odd")]
  fallback := (elseOnly v).eval

/-- The outcome of a chain with the predicates that ran and the events. -/
def classify (c : Chain Record Json) : Outcome Json × List String × List Event :=
  let r := c.eval.run (.start ())
  (r.value, r.state.entries, r.events)

example : (classify (fizzbuzz 10)).2.1 = ["15", "5"] := by decide +kernel

end GuardedSms.Cascade
