import FieldMenu.Record.Field
import FieldMenu.Value.Token

namespace FieldMenu

open Text

structure Record where
  id : String
  title : String
  platform : Option String := none
  genres : List String := []
  developer : Option String := none
  publisher : Option String := none
  series : Option String := none
  region : Option String := none
  playMode : Option String := none
  releaseYear : Option Int32 := none
  favorite : Bool := false
  completed : Bool := false
  locked : Bool := false
  customFields : FieldStore := []
deriving DecidableEq

inductive Property where
  | notAProperty
  | unset
  | value (text : String)
deriving DecidableEq, Repr

namespace Property

/-- A property that may be absent; the empty text counts as absent. -/
def ofText : Option String → Property
  | some text => if text.isEmpty then .unset else .value text
  | none => .unset

def ofFlag (flag : Bool) : Property :=
  .value (if flag then "true" else "false")

end Property

namespace Record

def entityId (record : Record) : String :=
  if record.title.isEmpty then record.id else record.title ++ " (" ++ record.id ++ ")"

/-- The typed property of that name, without the white space around it and in any letter case. -/
def property (record : Record) (name : String) : Property :=
  match lowered (trimmed name) with
  | "id" => .value record.id
  | "title" => .value record.title
  | "platform" => .ofText record.platform
  | "genre" | "genres" =>
      if record.genres.isEmpty then .unset else .value (Token.join record.genres)
  | "developer" => .ofText record.developer
  | "publisher" => .ofText record.publisher
  | "series" => .ofText record.series
  | "region" => .ofText record.region
  | "playmode" => .ofText record.playMode
  | "releaseyear" =>
      match record.releaseYear with
      | some year => .value (toString year.toInt)
      | none => .unset
  | "favorite" => .ofFlag record.favorite
  | "completed" => .ofFlag record.completed
  | _ => .notAProperty

def field? (record : Record) (name : String) : Option String :=
  record.customFields.get? name

def holdsValue (record : Record) (name value : String) : Bool :=
  match record.field? name with
  | some held => sameIgnoringCase held value
  | none => false

theorem holdsValue_iff {record : Record} {name value : String} :
    record.holdsValue name value = true ↔
      ∃ held, record.field? name = some held ∧ sameIgnoringCase held value = true := by
  unfold holdsValue
  cases record.field? name with
  | none => simp
  | some held => simp

def holdsToken (record : Record) (name token : String) : Bool :=
  Token.contains (record.field? name) token

/-- The attribute that a condition speaks of.  A typed property hides a custom field of its name,
even where the property has no value. -/
def attribute? (record : Record) (name : String) : Option String :=
  match record.property name with
  | .value text => some text
  | .unset => none
  | .notAProperty => record.field? name

def appendField (record : Record) (name value : String) : Record :=
  { record with customFields := record.customFields ++ [{ name, value }] }

end Record

end FieldMenu
