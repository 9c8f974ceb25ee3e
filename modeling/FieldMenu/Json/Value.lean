namespace FieldMenu

/-- A JSON value.  A number is an integer when it is written without fraction and exponent; any
other number keeps its spelling.  So does what is well written and still denotes no text or has no
name: a string with half of a surrogate pair, or an object with such a name for a member.  It can be
passed over, and nothing else. -/
inductive Json where
  | null
  | bool (value : Bool)
  | int (value : Int)
  | real (spelling : String)
  | string (value : String)
  | array (items : List Json)
  | object (members : List (String × Json))
  | unreadable (spelling : String)
deriving Inhabited, Repr

namespace Json

def nat (value : Nat) : Json :=
  .int value

def ofOption {α : Type} (write : α → Json) : Option α → Json
  | some value => write value
  | none => .null

def strings (values : List String) : Json :=
  .array (values.map .string)

def asString? : Json → Option String
  | .string value => some value
  | _ => none

def asBool? : Json → Option Bool
  | .bool value => some value
  | _ => none

def asInt? : Json → Option Int
  | .int value => some value
  | _ => none

def asArray? : Json → Option (List Json)
  | .array items => some items
  | _ => none

/-- The value of the first member of that name; none as well for a null and for no object. -/
def get? (json : Json) (name : String) : Option Json :=
  match json with
  | .object members =>
      match members.lookup name with
      | some .null => none
      | found => found
  | _ => none

end Json

end FieldMenu
