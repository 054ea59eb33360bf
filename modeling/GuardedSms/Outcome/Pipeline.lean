import GuardedSms.Json.Text
import GuardedSms.Outcome.Codec

/-!
# Pipelines over outcomes

Steps that question an outcome with a JSON value or replace it.
-/
namespace GuardedSms.Outcome

/-- Equality up to the order of object members. -/
def same : Outcome Json → Outcome Json → Bool
  | success v, success w => v.same w
  | failure m, failure n => m == n
  | _, _ => false

/-- The text of an outcome with a JSON value. -/
def text (o : Outcome Json) : String := (o.toJson id).text

inductive Mapping where
  | wrap
  | tag
  | text
  | null
  | id

def Mapping.apply : Mapping → Json → Json
  | wrap, v => .arr [v]
  | tag, v => .obj [("v", v)]
  | text, v => .str v.text
  | null, _ => .null
  | id, v => v

/-- Turn a failure into a success with its message, and a success into a failure with its text. -/
def flip : Outcome Json → Outcome Json :=
  resolve (fun v => failure v.text) (fun m => success (.str m))

inductive Step where
  | isSuccess
  | isFailure
  | value
  | message
  | toExcept
  | text
  | same (other : Outcome Json)
  | resolve (onSuccess onFailure : Mapping)
  | map (f : Mapping)
  | rebuild
  | flip

inductive Answer where
  | nothing
  | flag (value : Bool)
  | value (value : Option Json)
  | message (text : Option String)
  | result (value : Except String Json)
  | text (text : String)
  | resolved (succeeded : Bool) (value : Json)

namespace Step

def answer (o : Outcome Json) : Step → Answer
  | isSuccess => .flag o.isSuccess
  | isFailure => .flag o.isFailure
  | value => .value o.value?
  | message => .message o.message?
  | toExcept => .result o.toExcept
  | text => .text o.text
  | same other => .flag (o.same other)
  | resolve f g => o.resolve (fun v => .resolved true (f.apply v))
      (fun m => .resolved false (g.apply (.str m)))
  | map _ | rebuild | flip => .nothing

def next (o : Outcome Json) : Step → Outcome Json
  | map f => o.map f.apply
  | rebuild => o.resolve success failure
  | flip => o.flip
  | _ => o

end Step

/-- The answer of each step with the outcome after it. -/
def runSteps (o : Outcome Json) : List Step → List (Answer × Outcome Json)
  | [] => []
  | step :: rest => (step.answer o, step.next o) :: (step.next o).runSteps rest

end GuardedSms.Outcome
