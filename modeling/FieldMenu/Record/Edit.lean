import FieldMenu.Record.Basic

/-! A sequence of writes ends at the first that is refused, and the writes before it stay. -/

namespace FieldMenu

inductive EditError where
  | invalidFieldName (name : String)
  | readOnly (entity : String)
  | other (reason : String)
deriving DecidableEq, Repr

def EditError.message : EditError → String
  | .invalidFieldName name => "Invalid field name '" ++ name ++ "'"
  | .readOnly entity => "Entity '" ++ entity ++ "' is read-only"
  | .other reason => reason

structure Edited (α : Type) where
  record : Record
  outcome : Except EditError α

namespace Edited

/-- Goes on with the record as it is now, unless a write has been refused. -/
def andThen {α β : Type} (edited : Edited α) (next : Record → α → Edited β) : Edited β :=
  match edited.outcome with
  | .ok result => next edited.record result
  | .error refusal => { record := edited.record, outcome := .error refusal }

def map {α β : Type} (f : α → β) (edited : Edited α) : Edited β :=
  { record := edited.record, outcome := edited.outcome.map f }

end Edited

namespace Record

def refusal? (record : Record) (name : String) : Option EditError :=
  if record.locked then some (.readOnly record.entityId)
  else if Text.isBlankText name then some (.invalidFieldName name)
  else none

def write {α : Type} (record : Record) (name : String) (fields : FieldStore) (result : α) :
    Edited α :=
  match record.refusal? name with
  | some refusal => { record, outcome := .error refusal }
  | none => { record := { record with customFields := fields }, outcome := .ok result }

def setField (record : Record) (name value : String) : Edited Unit :=
  record.write name (record.customFields.set name value) ()

def removeField (record : Record) (name : String) : Edited Bool :=
  record.write name (record.customFields.remove name) (record.customFields.has name)

/-- Takes out the fields of these names one after the other, and counts the names that still had
one. -/
def removeFields (record : Record) : List String → Edited Nat
  | [] => { record, outcome := .ok 0 }
  | name :: names =>
      (record.removeField name).andThen fun record removed =>
        (record.removeFields names).map fun count => if removed then count + 1 else count

def clearFields (record : Record) : Edited Nat :=
  record.removeFields (record.customFields.map CustomField.name)

end Record

end FieldMenu
