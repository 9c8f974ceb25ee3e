import FieldMenu.Activation.Question
import FieldMenu.Activation.Report
import FieldMenu.Menu.Tree

/-!
The host answers questions, saves batches and keeps the log; an activation asks before its first
write and saves after its last.
-/

namespace FieldMenu

/-- Why a batch is not saved.  A failure to put records into text is left out: every record has a
text, so it never comes to that. -/
inductive PersistError where
  | io (path reason : String)
  | rejected (reason : String)
deriving DecidableEq, Repr

def PersistError.message : PersistError → String
  | .io path reason => "I/O error writing " ++ path ++ ": " ++ reason
  | .rejected reason => "Persistence rejected: " ++ reason

inductive ActivationError where
  | persist (cause : PersistError)
  | nodeNotFound (path : String)
deriving DecidableEq, Repr

namespace ActivationError

def message : ActivationError → String
  | .persist cause => "Persistence failed: " ++ cause.message
  | .nodeNotFound path => "No menu entry at '" ++ path ++ "'"

def userMessage : ActivationError → String
  | .persist (.io path _) => "Changes were applied but could not be saved to " ++ path
  | .persist cause => "Changes were applied but not saved: " ++ cause.message
  | .nodeNotFound path => "Menu entry not found: " ++ path

/-- A save can be tried again, whichever way it failed: the failure of which this is not so is the one
left out of `PersistError`. -/
def isRecoverable : ActivationError → Bool
  | .persist _ => true
  | .nodeNotFound _ => false

end ActivationError

inductive Outcome where
  | notActionable
  | noTargets
  | cancelled
  | applied (report : ActivationReport)
deriving DecidableEq, Repr

structure Host (m : Type → Type) where
  confirm : Question → m Bool
  persist : List Record → m (Except PersistError Unit)
  log : Log.Event → m Unit

/-- An activation that is over, with the records as it left them. -/
structure Activation where
  outcome : Except ActivationError Outcome
  targets : List Record

def Question.cancelledEvent (question : Question) : Log.Event :=
  .info .activationCancelled "Activation cancelled by user"
    [("action", question.description), ("entities", toString question.batchSize)]

def ActivationReport.persistFailedEvent (report : ActivationReport) (cause : PersistError) :
    Log.Event :=
  .error .persistFailed "Failed to persist activated batch"
    [ ("action", report.description), ("entities", toString report.entities),
      ("error", cause.message) ]

section

variable {m : Type → Type} [Monad m]

def MenuAction.perform (host : Host m) (action : MenuAction) (targets : List Record) :
    m Activation := do
  let report := action.report targets
  let changed := action.apply targets
  report.failureEvents.forM host.log
  match ← host.persist changed with
  | .error cause => do
      host.log (report.persistFailedEvent cause)
      pure { outcome := .error (.persist cause), targets := changed }
  | .ok () => do
      host.log report.appliedEvent
      pure { outcome := .ok (.applied report), targets := changed }

def Question.confirmed (host : Host m) (settings : Settings) (question : Question) : m Bool :=
  if question.isRequired settings then host.confirm question else pure true

def MenuNode.activate (host : Host m) (settings : Settings) (node : MenuNode)
    (targets : List Record) : m Activation :=
  match node.action? with
  | none => pure { outcome := .ok .notActionable, targets }
  | some action =>
      if targets.isEmpty then pure { outcome := .ok .noTargets, targets }
      else do
        let question := action.question targets.length
        if ← question.confirmed host settings then action.perform host targets
        else do
          host.log question.cancelledEvent
          pure { outcome := .ok .cancelled, targets }

def Document.activatePath (host : Host m) (document : Document) (path : List String)
    (targets library : List Record) : m Activation := do
  let menu := document.menu targets library
  host.log (menuBuiltEvent targets menu)
  match findPath? menu path with
  | none => pure { outcome := .error (.nodeNotFound (Text.joinWith " > " path)), targets }
  | some node => node.activate host document.toSettings targets

end

end FieldMenu
