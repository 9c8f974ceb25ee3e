import FieldMenu.Menu.Node
import FieldMenu.Record.Edit

/-!
Whether an action adds or removes is decided once for the whole batch, before the first write.
-/

namespace FieldMenu

structure Change where
  changed : Bool
  fieldsRemoved : Nat := 0
deriving DecidableEq, Repr

namespace Record

def assign (record : Record) (field value : String) : Edited Bool :=
  (record.setField field value).map fun _ => record.field? field != some value

def act (record : Record) (action : AdditionalAction) : Edited Bool :=
  match action.action with
  | .set => record.assign action.field action.value
  | .remove => record.removeField action.field

def actAll (record : Record) : List AdditionalAction → Edited Bool
  | [] => { record, outcome := .ok false }
  | action :: actions =>
      (record.act action).andThen fun record changed =>
        (record.actAll actions).map fun later => changed || later

def dropField (record : Record) (field : String) : Edited Change :=
  (record.removeField field).map fun removed => { changed := removed }

def setWith (record : Record) (field value : String) (actions : List AdditionalAction) :
    Edited Change :=
  (record.assign field value).andThen fun record changed =>
    (record.actAll actions).map fun later => { changed := changed || later }

def addTokenWith (record : Record) (field token : String) (actions : List AdditionalAction) :
    Edited Change :=
  let added : Edited Bool :=
    match Token.add? (record.field? field) token with
    | some value => (record.setField field value).map fun _ => true
    | none => { record, outcome := .ok false }
  added.andThen fun record changed =>
    (record.actAll actions).map fun later => { changed := changed || later }

def dropToken (record : Record) (field token : String) : Edited Change :=
  match Token.remove (record.field? field) token with
  | .unchanged => { record, outcome := .ok { changed := false } }
  | .replace value => (record.setField field value).map fun _ => { changed := true }
  | .removeField => record.dropField field

def dropAll (record : Record) : Edited Change :=
  record.clearFields.map fun removed => { changed := 0 < removed, fieldsRemoved := removed }

end Record

def Operation.removes (operation : Operation) (field value : String) (batch : List Record) : Bool :=
  match operation with
  | .set => false
  | .remove => true
  | .toggle => batch.all fun record => record.holdsValue field value

def MenuAction.edit (action : MenuAction) (batch : List Record) : Record → Edited Change :=
  match action with
  | .toggle field value operation _ actions =>
      if operation.removes field value batch then fun record => record.dropField field
      else fun record => record.setWith field value actions
  | .option field token _ actions =>
      if batch.all fun record => record.holdsToken field token then
        fun record => record.dropToken field token
      else fun record => record.addTokenWith field token actions
  | .clearField field => fun record => record.dropField field
  | .clearAll => Record.dropAll

end FieldMenu
