import GuardedSms.Cascade
import GuardedSms.Delivery.Codec
import GuardedSms.Notifier.Recipe
import GuardedSms.Outcome.Pipeline
import GuardedSms.Script.Bench
import GuardedSms.Session
import GuardedSms.Proofs.Cascade.Classification
import GuardedSms.Proofs.Chain.Closing
import GuardedSms.Proofs.Chain.Drafting
import GuardedSms.Proofs.Chain.Reordering
import GuardedSms.Proofs.Chain.Splitting
import GuardedSms.Proofs.Delivery.Buffering
import GuardedSms.Proofs.Delivery.Nesting
import GuardedSms.Proofs.Delivery.Positions
import GuardedSms.Proofs.Notifier.Decisions
import GuardedSms.Proofs.Notifier.Drafting
import GuardedSms.Proofs.Outcome.Canonical
import GuardedSms.Proofs.Outcome.Fusion
import GuardedSms.Proofs.Outcome.Integers
import GuardedSms.Proofs.Phone.Blame
import GuardedSms.Proofs.Phone.International
import GuardedSms.Proofs.Script.Path
import GuardedSms.Proofs.Session.Accounting
import GuardedSms.Proofs.Session.Agreement
import GuardedSms.Proofs.Session.Independence
import GuardedSms.Proofs.Session.Leniency
import GuardedSms.Proofs.Session.Messages
import GuardedSms.Proofs.Session.Reassignment
import GuardedSms.Proofs.Session.Tracing
