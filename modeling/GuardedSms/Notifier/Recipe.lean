import GuardedSms.Notifier.Draft
import GuardedSms.Notifier.Recording
import GuardedSms.Notifier.Stub

/-!
# Recipes for notifiers

How a notifier of scripted and recorded capabilities is assembled: from three shared ones, or
draft step by draft step, where a validator may be a fresh copy.
-/
namespace GuardedSms

/-- The state of recorded notifiers with scripted validators. -/
abbrev World : Type := Recorded Usage

def World.start : World := Journaled.start Usage.none

inductive ValidatorSource where
  | plans
  | stub (name : String)

inductive SenderSource where
  | announcing
  | recorder (name : String)

inductive LoggerSource where
  | diagnostics
  | recorder (name : String)

/-- The validator of a source; a scripted one in the given copy. -/
def ValidatorSource.validator (stubs : String → Stub) (copy : String → Instance) :
    ValidatorSource → Validator World
  | plans => Phone.validator
  | stub name => Validator.recorded name ((stubs name).validator (copy name))

def SenderSource.sender : SenderSource → Sender World
  | announcing => Sender.announcing
  | recorder name => Sender.recorded name

def LoggerSource.logger : LoggerSource → Logger World
  | diagnostics => Logger.diagnostics
  | recorder name => Logger.recorded name

/-- What a notifier is given: something of its own, or something that others may share. -/
inductive Setting where
  | ownValidator (source : ValidatorSource)
  | sharedValidator (source : ValidatorSource)
  | sender (source : SenderSource)
  | sharedSender (source : SenderSource)
  | logger (source : LoggerSource)
  | sharedLogger (source : LoggerSource)

/-- What the setting at some position gives in the assembly of some notifier. Only a scripted
validator has a state of its own, so a sender or a logger is the same in all copies. -/
def Setting.write (stubs : String → Stub) (notifier position : Nat) :
    Setting → Notifier.Draft.Write World
  | ownValidator source => .validator (source.validator stubs fun _ => .owned notifier position)
  | sharedValidator source => .validator (source.validator stubs .shared)
  | sender source | sharedSender source => .sender source.sender
  | logger source | sharedLogger source => .logger source.logger

inductive Recipe where
  | direct (validator : ValidatorSource) (sender : SenderSource) (logger : LoggerSource)
  | drafted (settings : List Setting)

/-- Assemble the notifier with the given number. -/
def Recipe.build (stubs : String → Stub) (notifier : Nat) :
    Recipe → Except AssemblyError (Notifier World)
  | direct validator sender logger =>
    .ok ⟨validator.validator stubs .shared, sender.sender, logger.logger⟩
  | drafted settings =>
    (Notifier.Draft.ofWrites <| settings.zipIdx.map fun (setting, position) =>
      setting.write stubs notifier position).build

def Recipe.buildAll (stubs : String → Stub) (recipes : List Recipe) :
    List (Except AssemblyError (Notifier World)) :=
  recipes.zipIdx.map fun (recipe, notifier) => recipe.build stubs notifier

end GuardedSms
