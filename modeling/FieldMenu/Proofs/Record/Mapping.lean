import FieldMenu.Proofs.Record.Naming
import FieldMenu.Proofs.Text.Case

namespace FieldMenu

open Text

theorem sameIgnoringCase_equivalence :
    Equivalence fun name other => sameIgnoringCase name other = true where
  refl := sameIgnoringCase_self
  symm same := sameIgnoringCase_iff.mpr (sameIgnoringCase_iff.mp same).symm
  trans first second :=
    sameIgnoringCase_iff.mpr
      ((sameIgnoringCase_iff.mp first).trans (sameIgnoringCase_iff.mp second))

namespace FieldStore

variable {store : FieldStore} {name other : String}

theorem isNamed_eq_of_same (field : CustomField) (same : sameIgnoringCase name other = true) :
    field.isNamed name = field.isNamed other :=
  isNamed_congr field (sameIgnoringCase_iff.mp same)

theorem set_append_cons {front : FieldStore} {field : CustomField} (rest : FieldStore)
    (value : String) (unnamed : ∀ earlier ∈ front, earlier.isNamed name = false)
    (named : field.isNamed name = true) :
    FieldStore.set name value (front ++ field :: rest) = front ++ { field with value } :: rest := by
  induction front with
  | nil => rw [List.nil_append, FieldStore.set, if_pos named, List.nil_append]
  | cons earlier front ih =>
      obtain ⟨here, later⟩ := List.forall_mem_cons.mp unnamed
      rw [List.cons_append, FieldStore.set, here, if_neg Bool.false_ne_true, ih later,
        List.cons_append]

theorem set_set (same : sameIgnoringCase name other = true) (store : FieldStore)
    (value later : String) :
    (store.set name value).set other later = store.set name later := by
  induction store with
  | nil =>
      have named : CustomField.isNamed { name, value } other = true := same
      simp only [FieldStore.set, named, if_true]
  | cons field store ih =>
      cases named : field.isNamed name with
      | true =>
          have kept : CustomField.isNamed { field with value } other = true := by
            rw [← isNamed_eq_of_same _ same]
            exact named
          simp only [FieldStore.set, named, kept, if_true]
      | false =>
          have unnamed : field.isNamed other = false := by
            rwa [← isNamed_eq_of_same field same]
          simp only [FieldStore.set, named, unnamed, Bool.false_eq_true, if_false, ih]

end FieldStore

/-- The names of the typed properties, in lowercase. -/
def Property.names : List String :=
  [ "id", "title", "platform", "genre", "genres", "developer", "publisher", "series", "region",
    "playmode", "releaseyear", "favorite", "completed" ]

theorem Property.ofText_ne (text : Option String) : Property.ofText text ≠ .notAProperty := by
  cases text with
  | none => exact nofun
  | some text =>
      rw [ofText]
      split <;> exact nofun

namespace Record

variable {record : Record} {name : String}

theorem property_ne_of_typed (typed : lowered (trimmed name) ∈ Property.names) :
    record.property name ≠ .notAProperty := by
  rw [property]
  split
  case h_1 | h_2 | h_12 | h_13 => exact nofun
  case h_3 | h_6 | h_7 | h_8 | h_9 | h_10 => exact Property.ofText_ne _
  case h_4 | h_5 | h_11 => split <;> exact nofun
  case h_14 => simp_all [Property.names]

theorem property_of_untyped (untyped : lowered (trimmed name) ∉ Property.names) :
    record.property name = .notAProperty := by
  rw [property]
  split
  case h_14 => rfl
  all_goals
    rename_i spelled
    exact absurd (by rw [spelled]; decide) untyped

theorem attribute?_of_untyped (untyped : lowered (trimmed name) ∉ Property.names) :
    record.attribute? name = record.field? name := by
  rw [attribute?, property_of_untyped untyped]

theorem attribute?_of_typed (typed : lowered (trimmed name) ∈ Property.names)
    (fields : FieldStore) :
    { record with customFields := fields }.attribute? name = record.attribute? name := by
  have same : { record with customFields := fields }.property name = record.property name := by
    rw [property, property]
  rw [attribute?, attribute?, same]
  cases kind : record.property name with
  | value text => rfl
  | unset => rfl
  | notAProperty => exact absurd kind (property_ne_of_typed typed)

end Record

/-- What a record holds once a value is set under a name. -/
structure Record.Assigned (before : Record) (name value : String) (after : Record) : Prop where
  fieldsOnly : after = { before with customFields := after.customFields }
  found : ∀ other, sameIgnoringCase name other = true → after.field? other = some value
  others : ∀ other, sameIgnoringCase name other = false → after.field? other = before.field? other
  /-- The names that were there stay, in their spelling and order. -/
  names : before.customFields.map CustomField.name <+: after.customFields.map CustomField.name
  /-- The first field of the name takes the value, and all other fields stay. -/
  overwritten : ∀ front field rest, before.customFields = front ++ field :: rest →
    (∀ earlier ∈ front, earlier.isNamed name = false) → field.isNamed name = true →
    after.customFields = front ++ { field with value } :: rest
  /-- Only where no field has the name is one added, behind the others. -/
  appended : (∀ field ∈ before.customFields, field.isNamed name = false) →
    after = before.appendField name value
  /-- A value set later, in whatever spelling of the name, leaves nothing of this one. -/
  overridden : ∀ other later, sameIgnoringCase name other = true →
    after.setField other later = before.setField name later

/-- What a record holds once a name is removed. -/
structure Record.Removed (before : Record) (name : String) (after : Record) (found : Bool) :
    Prop where
  fieldsOnly : after = { before with customFields := after.customFields }
  gone : ∀ other, sameIgnoringCase name other = true → after.field? other = none
  others : ∀ other, sameIgnoringCase name other = false → after.field? other = before.field? other
  /-- The fields of all other names stay, in their order. -/
  kept : after.customFields = before.customFields.filter fun field => !field.isNamed name
  found_iff : found = true ↔ ∃ field ∈ before.customFields, field.isNamed name = true

/-- Writes under the name end with this refusal, and the record is as it was. -/
def Record.Refuses (record : Record) (name : String) (refusal : EditError) : Prop :=
  (∀ value, record.setField name value = { record, outcome := .error refusal }) ∧
    record.removeField name = { record, outcome := .error refusal }

namespace Record

variable {record : Record} {name : String}

theorem refuses {refusal : EditError} (refused : record.refusal? name = some refusal) :
    record.Refuses name refusal :=
  ⟨fun _ => write_of_some refused _ _, write_of_some refused _ _⟩

theorem field?_congr {other : String} (same : sameIgnoringCase name other = true) :
    record.field? name = record.field? other :=
  FieldStore.get?_congr record.customFields (sameIgnoringCase_iff.mp same)

theorem assigned (unlocked : record.locked = false) (named : isBlankText name = false)
    (value : String) :
    record.Assigned name value
      { record with customFields := record.customFields.set name value } where
  fieldsOnly := rfl
  found other same := by
    rw [← field?_congr same]
    exact FieldStore.get?_set_self record.customFields name value
  others other different :=
    FieldStore.get?_set_of_ne record.customFields value (sameIgnoringCase_eq_false_iff.mp different)
  names := by
    cases held : record.customFields.has name with
    | true => exact ⟨[], by rw [FieldStore.map_name_set_of_has held, List.append_nil]⟩
    | false =>
        rw [FieldStore.set_of_not_has held, List.map_append]
        exact List.prefix_append _ _
  overwritten front field rest split unnamed held := by
    simp only [split]
    exact FieldStore.set_append_cons rest value unnamed held
  appended unnamed := by
    have absent : record.customFields.has name = false :=
      List.any_eq_false.mpr fun field member => Bool.eq_false_iff.mp (unnamed field member)
    exact set_eq_appendField absent value
  overridden other later same := by
    have otherNamed : isBlankText other = false := by
      rwa [← isBlankText_congr (sameIgnoringCase_iff.mp same)]
    have free : { record with customFields := record.customFields.set name value }.refusal? other =
        none :=
      refusal?_eq_none unlocked otherNamed
    rw [setField, setField, write_of_none free, write_of_none (refusal?_eq_none unlocked named)]
    simp only [FieldStore.set_set same]

theorem removed (record : Record) (name : String) :
    record.Removed name { record with customFields := record.customFields.remove name }
      (record.customFields.has name) where
  fieldsOnly := rfl
  gone other same := by
    rw [← field?_congr same]
    exact FieldStore.get?_remove_self record.customFields name
  others other different :=
    FieldStore.get?_remove_of_ne record.customFields (sameIgnoringCase_eq_false_iff.mp different)
  kept := rfl
  found_iff := List.any_eq_true

/-- The custom fields of a record are a map from names, regardless of letter case, to values.  A
locked record and a blank name are refused and change nothing.  A condition finds in the map what it
asks for, unless a typed property has the name; then no write to the map shows. -/
theorem fields_form_map (record : Record) :
    (Equivalence fun name other => sameIgnoringCase name other = true) ∧
    (∀ name other, sameIgnoringCase name other = true →
      record.field? name = record.field? other) ∧
    (record.locked = false → ∀ name, isBlankText name = false →
      (∀ value, ∃ after, record.setField name value = { record := after, outcome := .ok () } ∧
        record.Assigned name value after) ∧
      ∃ after found, record.removeField name = { record := after, outcome := .ok found } ∧
        record.Removed name after found) ∧
    (record.locked = true → ∀ name, record.Refuses name (.readOnly record.entityId)) ∧
    (record.locked = false → ∀ name, isBlankText name = true →
      record.Refuses name (.invalidFieldName name)) ∧
    ∀ name,
      (lowered (trimmed name) ∉ Property.names → record.attribute? name = record.field? name) ∧
      (lowered (trimmed name) ∈ Property.names → ∀ other value,
        (record.setField other value).record.attribute? name = record.attribute? name ∧
        (record.removeField other).record.attribute? name = record.attribute? name) := by
  refine ⟨sameIgnoringCase_equivalence, fun name other same => field?_congr same,
    fun unlocked name named => ⟨fun value => ?_, ?_⟩,
    fun locked name => refuses (refusal?_eq_readOnly locked name),
    fun unlocked name blank => refuses (refusal?_of_isBlankText unlocked blank),
    fun name => ⟨attribute?_of_untyped, fun typed other value => ⟨?_, ?_⟩⟩⟩
  · exact ⟨_, write_of_none (refusal?_eq_none unlocked named) _ (),
      assigned unlocked named value⟩
  · exact ⟨_, _, write_of_none (refusal?_eq_none unlocked named) _ _, removed record name⟩
  · rw [(record.setField_follows other value).confined.fieldsOnly]
    exact attribute?_of_typed typed _
  · rw [(record.removeField_follows other).confined.fieldsOnly]
    exact attribute?_of_typed typed _

end Record

end FieldMenu
