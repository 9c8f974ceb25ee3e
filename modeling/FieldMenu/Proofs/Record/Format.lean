import FieldMenu.Proofs.Json.Reading
import FieldMenu.Proofs.Layout.Members
import FieldMenu.Record.Format

namespace FieldMenu

open Layout

theorem mapM_eq_some_map {α β γ : Type} {read? : β → Option γ} {write : α → β} {take : α → γ}
    {values : List α} (inverse : ∀ value ∈ values, read? (write value) = some (take value)) :
    (values.map write).mapM read? = some (values.map take) := by
  induction values with
  | nil => rfl
  | cons value values ih =>
      have others := ih fun other member => inverse other (List.mem_cons_of_mem value member)
      rw [List.map_cons, List.mapM_cons, inverse value List.mem_cons_self, others]
      rfl

namespace Json

theorem filter_present_of_not_mem {slots : List (String × Option Json)} {name : String}
    (absent : name ∉ slots.map Prod.fst) :
    (present slots).filter (fun member => member.1 == name) = [] := by
  rw [List.filter_eq_nil_iff]
  intro member there same
  have known := (names_present_sublist slots).subset (List.mem_map_of_mem there)
  rw [beq_iff_eq.mp same] at known
  exact absent known

theorem single?_present {slots : List (String × Option Json)}
    (nodup : (slots.map Prod.fst).Nodup) {slot : String × Option Json} (member : slot ∈ slots) :
    single? (present slots) slot.1 = some slot.2 := by
  obtain ⟨name, value⟩ := slot
  obtain ⟨before, after, rfl⟩ := List.append_of_mem member
  rw [List.map_append, List.map_cons, List.nodup_middle, List.nodup_cons, List.mem_append] at nodup
  obtain ⟨absent, _⟩ := nodup
  have front := filter_present_of_not_mem fun there => absent (.inl there)
  have behind := filter_present_of_not_mem fun there => absent (.inr there)
  have middle : present (before ++ (name, value) :: after) =
      present before ++ (value.toList.map fun value => (name, value)) ++ present after := by
    cases value <;> simp [present]
  rw [single?, middle, List.filter_append, List.filter_append, front, behind]
  cases value <;> simp

theorem memberValues?_present {slots : List (String × Option Json)}
    (nodup : (slots.map Prod.fst).Nodup) :
    (Json.object (present slots)).memberValues? (slots.map Prod.fst) =
      some (slots.map Prod.snd) := by
  rw [memberValues?]
  exact mapM_eq_some_map fun slot member => single?_present nodup member

theorem readArray?_map {α : Type} {write : α → Json} {read? : Json → Option α}
    (inverse : ∀ value, read? (write value) = some value) (values : List α) :
    readArray? read? (.array (values.map write)) = some values := by
  have all : (values.map write).mapM read? = some (values.map fun value => value) :=
    mapM_eq_some_map fun value _ => inverse value
  rwa [List.map_id'] at all

theorem readNullable?_map {α : Type} {write : α → Json} {read? : Json → Option α}
    (inverse : ∀ value, read? (write value) = some value) (notNull : ∀ value, write value ≠ .null)
    (value : Option α) : readNullable? read? (value.map write) = some value := by
  cases value with
  | none => rfl
  | some value =>
      rw [Option.map_some, readNullable?, inverse]
      · rfl
      · exact notNull value

theorem asInt32?_int (year : Int32) : asInt32? (.int year.toInt) = some year := by
  have bounds : -0x80000000 ≤ year.toInt ∧ year.toInt < 0x80000000 :=
    ⟨Int32.le_toInt year, Int32.toInt_lt year⟩
  rw [asInt32?, asInt?, Option.bind_some, if_pos bounds, Int32.ofInt_toInt]

end Json

namespace CustomField

def slots (field : CustomField) : List (String × Option Json) :=
  [("name", some (.string field.name)), ("value", some (.string field.value))]

theorem ofJson?_toJson (field : CustomField) : ofJson? field.toJson = some field := by
  have nodup : (field.slots.map Prod.fst).Nodup := show ["name", "value"].Nodup by decide
  have values : field.toJson.memberValues? ["name", "value"] =
      some [some (.string field.name), some (.string field.value)] :=
    Json.memberValues?_present nodup
  rw [ofJson?, values]
  rfl

end CustomField

namespace Record

/-- The members of a record, those as well that are left out. -/
def slots (record : Record) : List (String × Option Json) :=
  [ ("id", some (.string record.id)),
    ("title", some (.string record.title)),
    ("platform", record.platform.map .string),
    ("genres", if record.genres.isEmpty then none else some (.strings record.genres)),
    ("developer", record.developer.map .string),
    ("publisher", record.publisher.map .string),
    ("series", record.series.map .string),
    ("region", record.region.map .string),
    ("playMode", record.playMode.map .string),
    ("releaseYear", record.releaseYear.map fun year => .int year.toInt),
    ("favorite", some (.bool record.favorite)),
    ("completed", some (.bool record.completed)),
    ("locked", if record.locked then some (.bool true) else none),
    ("customFields", some (.array (record.customFields.map CustomField.toJson))) ]

theorem toJson_eq_present (record : Record) : record.toJson = .object (present record.slots) := by
  have stands (name : String) (value : Json) (others : List (String × Option Json)) :
      present ((name, some value) :: others) = (name, value) :: present others := rfl
  have optional {α : Type} (name : String) (write : α → Json) (value : Option α)
      (others : List (String × Option Json)) :
      present ((name, value.map write) :: others) =
        optionalMember name write value ++ present others := by
    cases value <;> rfl
  have genres (others : List (String × Option Json)) :
      present (("genres", if record.genres.isEmpty then none else some (.strings record.genres)) ::
          others) =
        (if record.genres.isEmpty then [] else [("genres", .strings record.genres)]) ++
          present others := by
    cases record.genres <;> rfl
  have locked (others : List (String × Option Json)) :
      present (("locked", if record.locked then some (.bool true) else none) :: others) =
        (if record.locked then [("locked", .bool true)] else []) ++ present others := by
    cases record.locked <;> rfl
  simp only [toJson, slots, stands, optional, genres, locked, List.append_assoc, List.cons_append,
    List.nil_append]
  rfl

theorem memberValues?_toJson (record : Record) :
    record.toJson.memberValues? memberNames = some (record.slots.map Prod.snd) := by
  have nodup : (record.slots.map Prod.fst).Nodup := show memberNames.Nodup by decide
  rw [toJson_eq_present]
  exact Json.memberValues?_present nodup

theorem ofJson?_toJson (record : Record) : ofJson? record.toJson = some record := by
  have string (value : String) : Json.asString? (.string value) = some value := rfl
  have text (value : Option String) :
      Json.readNullable? Json.asString? (value.map Json.string) = some value :=
    Json.readNullable?_map string (by simp) value
  have genres : Json.readOr? [] (Json.readArray? Json.asString?)
      (if record.genres.isEmpty then none else some (.strings record.genres)) =
        some record.genres := by
    cases filled : record.genres with
    | nil => rfl
    | cons genre genres => exact Json.readArray?_map string (genre :: genres)
  have year : Json.readNullable? Json.asInt32?
      (record.releaseYear.map fun year => .int year.toInt) = some record.releaseYear :=
    Json.readNullable?_map Json.asInt32?_int (by simp) record.releaseYear
  have locked : Json.readOr? false Json.asBool?
      (if record.locked then some (.bool true) else none) = some record.locked := by
    cases record.locked <;> rfl
  have fields : Json.readOr? [] (Json.readArray? CustomField.ofJson?)
      (some (.array (record.customFields.map CustomField.toJson))) = some record.customFields :=
    Json.readArray?_map CustomField.ofJson?_toJson record.customFields
  rw [ofJson?, memberValues?_toJson]
  simp only [slots, List.map_cons, List.map_nil, text, genres, year, locked, fields]
  rfl

theorem plain_strings (values : List String) : (Json.strings values).Plain := by
  refine .array fun item member => ?_
  obtain ⟨value, _, rfl⟩ := List.mem_map.mp member
  exact .string value

theorem plain_customFields (fields : FieldStore) :
    (Json.array (fields.map CustomField.toJson)).Plain := by
  refine .array fun item member => ?_
  obtain ⟨field, _, rfl⟩ := List.mem_map.mp member
  refine .object fun member there => ?_
  rcases List.mem_pair.mp there with rfl | rfl
  · exact .string field.name
  · exact .string field.value

theorem plain_slots (record : Record) :
    ∀ slot ∈ record.slots, ∀ value, slot.2 = some value → value.Plain := by
  have stands {value json : Json} (plain : value.Plain) (there : some value = some json) :
      json.Plain :=
    Option.some.inj there ▸ plain
  have text (value : Option String) (json : Json) (there : value.map Json.string = some json) :
      json.Plain := by
    obtain ⟨value, _, rfl⟩ := Option.map_eq_some_iff.mp there
    exact .string value
  have year (json : Json)
      (there : (record.releaseYear.map fun year => Json.int year.toInt) = some json) :
      json.Plain := by
    obtain ⟨year, _, rfl⟩ := Option.map_eq_some_iff.mp there
    exact .int year.toInt
  have genres (json : Json)
      (there : (if record.genres.isEmpty then none else some (Json.strings record.genres)) =
        some json) : json.Plain := by
    split at there
    · cases there
    · exact stands (plain_strings record.genres) there
  have locked (json : Json)
      (there : (if record.locked then some (Json.bool true) else none) = some json) :
      json.Plain := by
    split at there
    · exact stands (.bool true) there
    · cases there
  simp only [slots, List.forall_mem_cons]
  exact ⟨fun _ => stands (.string record.id), fun _ => stands (.string record.title),
    text record.platform, genres, text record.developer, text record.publisher,
    text record.series, text record.region, text record.playMode, year,
    fun _ => stands (.bool record.favorite), fun _ => stands (.bool record.completed), locked,
    fun _ => stands (plain_customFields record.customFields), fun _ none => nomatch none⟩

theorem plain_toJson (record : Record) : record.toJson.Plain := by
  rw [toJson_eq_present]
  refine .object ?_
  rintro ⟨name, value⟩ there
  exact plain_slots record _ (mem_present.mp there) value rfl

end Record

end FieldMenu
