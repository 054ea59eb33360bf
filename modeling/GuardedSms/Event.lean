import GuardedSms.Errors

/-!
# Trace events

An event names what happened; its level, target and fields are derived from that.
-/
namespace GuardedSms

inductive Event where
  /-- The predicate at this position of a chain was the first to hold. -/
  | guardMatched (index : Nat)
  /-- A chain of this many guards falls back to its default. -/
  | noGuardMatched (guards : Nat)
  /-- A number was read and judged by the numbering plans. -/
  | numberJudged (number region : String) (valid : Bool)
  /-- A validator gave up, which counts as a refusal. -/
  | errorRefused (error : ValidationError)
  | numberAccepted (number region : String)
  | numberRejected (reason : String)
  /-- A text for the diagnostics log. -/
  | diagnostic (text : String)
  /-- A message leaves for a number. -/
  | smsSent (number body : String)
  deriving DecidableEq

namespace Event

inductive Level where
  | trace
  | debug
  | info
  | warn
  deriving DecidableEq

def Level.name : Level → String
  | trace => "TRACE"
  | debug => "DEBUG"
  | info => "INFO"
  | warn => "WARN"

inductive Field where
  | text (value : String)
  | count (value : Nat)
  | flag (value : Bool)
  deriving DecidableEq

def level : Event → Level
  | guardMatched _ | noGuardMatched _ => .trace
  | numberJudged .. | errorRefused _ | numberAccepted .. | numberRejected _ => .debug
  | diagnostic _ => .warn
  | smsSent .. => .info

def target : Event → String
  | guardMatched _ | noGuardMatched _ => "sms_notify::core::select"
  | numberJudged .. | smsSent .. => "sms_notify::effects::capabilities"
  | errorRefused _ | numberAccepted .. | numberRejected _ => "sms_notify::effects::notification"
  | diagnostic _ => "sms_notify::diagnostics"

def message : Event → String
  | guardMatched _ => "guard matched"
  | noGuardMatched _ => "no guard matched, taking default branch"
  | numberJudged .. => "validated phone number"
  | errorRefused _ => "validator error treated as invalid number"
  | numberAccepted .. => "phone number accepted"
  | numberRejected _ => "phone number rejected"
  | diagnostic text => text
  | smsSent .. => "sending SMS"

/-- The fields beside the message. -/
def details : Event → List (String × Field)
  | guardMatched index => [("index", .count index)]
  | noGuardMatched guards => [("guards", .count guards)]
  | numberJudged number region valid =>
    [("number", .text number), ("region", .text region), ("valid", .flag valid)]
  | errorRefused error => [("error", .text error.message)]
  | numberAccepted number region => [("number", .text number), ("region", .text region)]
  | numberRejected reason => [("reason", .text reason)]
  | diagnostic _ => []
  | smsSent number body => [("number", .text number), ("body", .text body)]

def fields (e : Event) : List (String × Field) := ("message", .text e.message) :: e.details

end Event

end GuardedSms
