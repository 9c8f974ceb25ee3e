import FieldMenu.Activation.Change
import FieldMenu.Activation.Question
import FieldMenu.Json.Value
import FieldMenu.Log.Event

namespace FieldMenu

structure EntityFailure where
  entity : String
  error : String
deriving DecidableEq, Repr

structure ActivationReport where
  description : String := ""
  entities : Nat := 0
  changed : Nat := 0
  fieldsRemoved : Nat := 0
  failures : List EntityFailure := []
deriving DecidableEq, Repr

namespace ActivationReport

def isComplete (report : ActivationReport) : Bool :=
  report.failures.isEmpty

def summary (report : ActivationReport) : String :=
  "Applied '" ++ report.description ++ "' to " ++ toString report.changed ++ " of " ++
    toString report.entities ++ " entries" ++
    (if 0 < report.fieldsRemoved then
      " (" ++ toString report.fieldsRemoved ++ " fields removed)"
    else "") ++
    (if report.failures.isEmpty then ""
    else "; " ++ toString report.failures.length ++ " failed")

def toJson (report : ActivationReport) : Json :=
  .object
    [ ("description", .string report.description),
      ("entities", .nat report.entities),
      ("changed", .nat report.changed),
      ("fieldsRemoved", .nat report.fieldsRemoved),
      ("failures", .array (report.failures.map fun failure =>
        .object [("entity", .string failure.entity), ("error", .string failure.error)])) ]

end ActivationReport

namespace Edited

def change? (edited : Edited Change) : Option Change :=
  match edited.outcome with
  | .ok change => some change
  | .error _ => none

/-- The refusal as a report names it, with the record as it is then. -/
def failure? {α : Type} (edited : Edited α) : Option EntityFailure :=
  match edited.outcome with
  | .ok _ => none
  | .error refusal => some { entity := edited.record.entityId, error := refusal.message }

end Edited

namespace MenuAction

def results (action : MenuAction) (batch : List Record) : List (Edited Change) :=
  batch.map (action.edit batch)

def apply (action : MenuAction) (batch : List Record) : List Record :=
  (action.results batch).map Edited.record

def report (action : MenuAction) (batch : List Record) : ActivationReport :=
  let results := action.results batch
  let changes := results.filterMap Edited.change?
  { description := action.description
    entities := batch.length
    changed := changes.countP Change.changed
    fieldsRemoved := (changes.map Change.fieldsRemoved).foldr (· + ·) 0
    failures := results.filterMap Edited.failure? }

end MenuAction

namespace ActivationReport

def failureEvent (report : ActivationReport) (failure : EntityFailure) : Log.Event :=
  .warning .mutationFailed "Skipping entity after failed mutation"
    [("entity", failure.entity), ("action", report.description), ("error", failure.error)]

def failureEvents (report : ActivationReport) : List Log.Event :=
  report.failures.map report.failureEvent

def appliedEvent (report : ActivationReport) : Log.Event :=
  .info .activationApplied "Activation applied"
    [ ("action", report.description), ("entities", toString report.entities),
      ("changed", toString report.changed), ("failed", toString report.failures.length) ]

end ActivationReport

end FieldMenu
