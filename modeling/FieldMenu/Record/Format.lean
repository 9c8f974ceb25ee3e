import FieldMenu.Json.Value
import FieldMenu.Record.Basic

/-! Writing leaves out what has its default; reading fills it in again. -/

namespace FieldMenu

namespace Json

/-- The value of the only member of that name, if there is one; refused when there are more. -/
def single? (members : List (String × Json)) (name : String) : Option (Option Json) :=
  match members.filter fun member => member.1 == name with
  | [] => some none
  | [member] => some (some member.2)
  | _ => none

/-- The values of the named members, in the order of the names, where each may be missing. -/
def memberValues? (names : List String) : Json → Option (List (Option Json))
  | .object members => names.mapM (single? members)
  | .array items =>
      if items.length ≤ names.length then
        some (items.map some ++ List.replicate (names.length - items.length) none)
      else none
  | _ => none

def readOr? {α : Type} (default : α) (read? : Json → Option α) : Option Json → Option α
  | none => some default
  | some json => read? json

def readNullable? {α : Type} (read? : Json → Option α) : Option Json → Option (Option α)
  | none | some .null => some none
  | some json => (read? json).map some

def readArray? {α : Type} (read? : Json → Option α) (json : Json) : Option (List α) :=
  json.asArray?.bind fun items => items.mapM read?

def asInt32? (json : Json) : Option Int32 :=
  json.asInt?.bind fun value =>
    if -0x80000000 ≤ value ∧ value < 0x80000000 then some (Int32.ofInt value) else none

end Json

namespace CustomField

def toJson (field : CustomField) : Json :=
  .object [("name", .string field.name), ("value", .string field.value)]

def ofJson? (json : Json) : Option CustomField :=
  match json.memberValues? ["name", "value"] with
  | some [some name, some value] => do
      some { name := ← name.asString?, value := ← value.asString? }
  | _ => none

end CustomField

namespace Record

def memberNames : List String :=
  [ "id", "title", "platform", "genres", "developer", "publisher", "series", "region", "playMode",
    "releaseYear", "favorite", "completed", "locked", "customFields" ]

def optionalMember {α : Type} (name : String) (write : α → Json) :
    Option α → List (String × Json)
  | some value => [(name, write value)]
  | none => []

def toJson (record : Record) : Json :=
  .object <|
    [("id", .string record.id), ("title", .string record.title)] ++
    optionalMember "platform" .string record.platform ++
    (if record.genres.isEmpty then [] else [("genres", .strings record.genres)]) ++
    optionalMember "developer" .string record.developer ++
    optionalMember "publisher" .string record.publisher ++
    optionalMember "series" .string record.series ++
    optionalMember "region" .string record.region ++
    optionalMember "playMode" .string record.playMode ++
    optionalMember "releaseYear" (fun year => .int year.toInt) record.releaseYear ++
    [("favorite", .bool record.favorite), ("completed", .bool record.completed)] ++
    (if record.locked then [("locked", .bool true)] else []) ++
    [("customFields", .array (record.customFields.map CustomField.toJson))]

def ofJson? (json : Json) : Option Record :=
  match json.memberValues? memberNames with
  | some [some id, some title, platform, genres, developer, publisher, series, region, playMode,
      releaseYear, favorite, completed, locked, customFields] => do
      some
        { id := ← id.asString?
          title := ← title.asString?
          platform := ← Json.readNullable? Json.asString? platform
          genres := ← Json.readOr? [] (Json.readArray? Json.asString?) genres
          developer := ← Json.readNullable? Json.asString? developer
          publisher := ← Json.readNullable? Json.asString? publisher
          series := ← Json.readNullable? Json.asString? series
          region := ← Json.readNullable? Json.asString? region
          playMode := ← Json.readNullable? Json.asString? playMode
          releaseYear := ← Json.readNullable? Json.asInt32? releaseYear
          favorite := ← Json.readOr? false Json.asBool? favorite
          completed := ← Json.readOr? false Json.asBool? completed
          locked := ← Json.readOr? false Json.asBool? locked
          customFields := ← Json.readOr? [] (Json.readArray? CustomField.ofJson?) customFields }
  | _ => none

end Record

end FieldMenu
