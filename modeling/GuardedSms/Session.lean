import GuardedSms.Delivery.Codec
import GuardedSms.Journaled
import GuardedSms.Notifier

/-!
# Sessions

A run of steps over a family of notifiers. Prepared deliveries are kept and can be performed any
number of times by any notifier; a postponed delivery can be performed once or be dropped.
-/
namespace GuardedSms

/-- What a run has at hand: a world, prepared deliveries, and postponed ones until they are
spent. -/
structure Session (σ : Type) where
  world : σ
  prepared : List Delivery := []
  postponed : List (Option (Action σ Unit)) := []

namespace Session

variable {σ ε : Type}

/-- A step that needs a notifier. -/
inductive Request where
  | screen (number : Option String) (region : String)
  | notify (number : Option String) (region message : String)
  | prepare (number : Option String) (region message : String)
  | perform (index : Nat)
  /-- Perform a delivery that is given in its JSON form. -/
  | performJson (delivery : Json)
  | postpone (number : Option String) (region message : String)

inductive Step where
  | ask (notifier : Nat) (request : Request)
  | run (index : Nat)
  | drop (index : Nat)

inductive Answer where
  | nothing
  | outcome (outcome : Outcome String)
  | prepared (delivery : Delivery)
  | postponed (index : Nat)
  | outOfRange
  | spent
  | noNotifier
  | unreadable (fault : Json.Fault)

/-- Act on the world of a session. -/
def inWorld {α : Type} (a : Action σ α) : Action (Session σ) α :=
  a.focus Session.world fun w s => { s with world := w }

def answer (n : Notifier σ) : Request → Action (Session σ) Answer
  | .screen number region => do return .outcome (← inWorld (n.screen number region))
  | .notify number region message => do
    inWorld (n.notify number region message)
    return .nothing
  | .prepare number region message => do
    let delivery ← inWorld (n.prepare number region message)
    modify fun s => { s with prepared := s.prepared ++ [delivery] }
    return .prepared delivery
  | .perform index => do
    match (← get).prepared[index]? with
    | some delivery =>
      inWorld (n.perform delivery)
      return .nothing
    | none => return .outOfRange
  | .performJson json =>
    match Delivery.decode json.text with
    | .ok delivery => do
      inWorld (n.perform delivery)
      return .nothing
    | .error fault => return .unreadable fault
  | .postpone number region message => do
    let action ← inWorld (n.postpone number region message)
    let index := (← get).postponed.length
    modify fun s => { s with postponed := s.postponed ++ [some action] }
    return .postponed index

/-- Mark a postponed delivery as spent. -/
def spend (index : Nat) : Action (Session σ) Unit :=
  modify fun s => { s with postponed := s.postponed.set index none }

def step (notifiers : Nat → Option (Notifier σ)) : Step → Action (Session σ) Answer
  | .ask notifier request =>
    match notifiers notifier with
    | some n => answer n request
    | none => pure .noNotifier
  | .run index => do
    match (← get).postponed[index]? with
    | some (some action) =>
      spend index
      inWorld action
      return .nothing
    | _ => return .spent
  | .drop index => do
    spend index
    return .nothing

/-- Take a step and tell which entries it added to the journal. -/
def stepRecording (notifiers : Nat → Option (Notifier (Journaled ε σ))) (s : Step) :
    Action (Session (Journaled ε σ)) (Answer × List ε) := do
  let before := (← get).world.entries.length
  let answer ← step notifiers s
  return (answer, (← get).world.entries.drop before)

def runSteps (notifiers : Nat → Option (Notifier (Journaled ε σ))) :
    List Step → Action (Session (Journaled ε σ)) (List (Answer × List ε))
  | [] => pure []
  | s :: rest => do
    let first ← stepRecording notifiers s
    return first :: (← runSteps notifiers rest)

end Session

end GuardedSms
