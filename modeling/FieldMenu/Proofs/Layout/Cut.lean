import FieldMenu.Proofs.Layout.Reading
import FieldMenu.Proofs.Scan.Cut

namespace FieldMenu

open Scan Text Layout

namespace Layout

def Field.cut (field : Field) (kept : List Char) : Field :=
  { field with value := '[' :: kept, after := .empty }

section

variable {key : String} {lead blank : Space} {before after fields : List Field}
  {field last : Field} {kept inner : List Char}

theorem member?_cut (named : isName key.toList = true) (quiet : ∀ other ∈ fields, other.Quiet key)
    (same : asciiLowered last.name = asciiLowered key.toList) (kept : List Char) :
    member? (opening lead blank fields ++ (last.cut kept).text) key =
      some
        { before := opening lead blank fields ++ last.lead.text
          value := last.before.text ++ '[' :: kept } := by
  have same : asciiLowered (last.cut kept).name = asciiLowered key.toList := same
  have found : member? (opening lead blank fields ++ ((last.cut kept).text ++ [])) key = some _ :=
    finds_opening named quiet same []
  simpa [Field.cut, Slot.text] using found

theorem arrayParts?_cut (space : Space)
    (unclosed : enclosed? '[' ']' 0 .outside [] kept = none) :
    arrayParts? (space.text ++ '[' :: kept) = none := by
  have bracket : trimStart ('[' :: kept) = '[' :: kept := trimStart_cons_of_not_blank _ rfl
  rw [arrayParts?, space.trimStart_append, bracket]
  exact unclosed

theorem arrayBody?_cut (named : isName key.toList = true)
    (quiet : ∀ other ∈ fields, other.Quiet key)
    (same : asciiLowered last.name = asciiLowered key.toList)
    (unclosed : enclosed? '[' ']' 0 .outside [] kept = none) :
    arrayBody? (opening lead blank fields ++ (last.cut kept).text) key = none := by
  rw [arrayBody?, member?_cut named quiet same, Option.bind_some, arrayParts?_cut _ unclosed]
  rfl

/-- An array that breaks off is not taken out. -/
theorem withoutArray_cut (named : isName key.toList = true)
    (quiet : ∀ other ∈ fields, other.Quiet key)
    (same : asciiLowered last.name = asciiLowered key.toList)
    (unclosed : enclosed? '[' ']' 0 .outside [] kept = none) :
    withoutArray (opening lead blank fields ++ (last.cut kept).text) key =
      opening lead blank fields ++ (last.cut kept).text := by
  rw [withoutArray, member?_cut named quiet same]
  simp only [arrayParts?_cut _ unclosed]

theorem passes_head (named : isName key.toList = true) (plain : isName last.name = true)
    (other : asciiLowered last.name ≠ asciiLowered key.toList) :
    Passes key (last.cut []).text := by
  have name := passes_key named plain other last.gap.isBlank
  have bracket : Passes key ['['] := passes_of_ne (by decide)
  simpa [Field.cut, Field.text, Slot.text] using
    (passes_space last.lead).append (name.append ((passes_space last.before).append bracket))

theorem valueText?_cut (named : isName key.toList = true)
    (quiet : ∀ other ∈ fields, other.Quiet key) (plain : isName last.name = true)
    (other : asciiLowered last.name ≠ asciiLowered key.toList) (kept : List Char) :
    valueText? (opening lead blank fields ++ (last.cut kept).text) key = valueText? kept key := by
  have text : (last.cut kept).text = (last.cut []).text ++ kept := by
    simp [Field.cut, Field.text, Slot.text]
  rw [text, valueText?_append_of_passes (passes_opening named quiet),
    valueText?_append_of_passes (passes_head named plain other)]

theorem valueText?_kept {lost : List Char} (quiet : Quiet key ('[' :: (kept ++ lost) ++ [']'])) :
    valueText? kept key = none := by
  have bracket : Passes key ['['] := passes_of_ne (by decide)
  have passes : Passes key ('[' :: kept ++ (lost ++ [']', ','])) := by
    simpa using quiet .empty ',' rfl (by decide)
  have cut := valueText?_eq_none_of_cut passes
  rwa [← List.singleton_append, valueText?_append_of_passes bracket] at cut

theorem withoutArray_front (named : isName key.toList = true)
    (quiet : ∀ other ∈ before, other.Quiet key)
    (same : asciiLowered field.name = asciiLowered key.toList)
    (value : field.value = '[' :: inner ++ [']']) (balanced : Balanced inner)
    (after : List Field) (last : Field) :
    ∃ (fields : List Field) (space : Space),
      withoutArray (opening lead blank (before ++ field :: after) ++ last.text) key =
          opening lead blank fields ++ { last with lead := space }.text ∧
        fields.map Field.core = (before ++ after).map Field.core := by
  rw [opening_append_cons, (finds_opening named quiet same).withoutArray value balanced]
  cases after with
  | nil =>
      refine ⟨before, field.lead, ?_, by simp⟩
      have gap := closeGap_next (opening lead blank before) field.lead field.after last []
      simpa using gap
  | cons next after =>
      refine ⟨before ++ { next with lead := field.lead } :: after, last.lead, ?_,
        by simp [Field.core]⟩
      rw [List.flatMap_cons, List.append_assoc, List.append_assoc, closeGap_next,
        opening_append_cons]
      rfl

end

section

variable {key : String} {lead blank : Space} {fields : List Field}
  {members : List (String × Option Json)} {names : List String}

theorem Lays.valueText?_front (searchable : Searchable key members names) {value : Json}
    (there : (key, some value) ∈ members) (lays : Lays (present members) fields)
    (rest : List Char) :
    ∃ written more, value.Written written ∧ more.takeWhile Char.isDigit = [] ∧
      valueText? (opening lead blank fields ++ rest) key = some (written ++ more) := by
  obtain ⟨before, field, after, rfl, quiet, same, written, _⟩ :=
    lays.exists_field searchable there
  rw [opening_append_cons]
  exact ⟨field.value, _, written,
    takeWhile_isDigit_space field.after (show ','.isDigit = false from rfl) _,
    valueText?_field searchable.apart.keyNamed quiet same written _⟩

theorem Lays.objectArray_front (searchable : Searchable key members names) {α : Type}
    {trees : List α} {toJson : α → Json}
    (objects : ∀ tree, ∃ members, toJson tree = Json.object members)
    (there : (key, some (Json.array (trees.map toJson))) ∈ members)
    (lays : Lays (present members) fields) (rest : List Char) :
    List.Forall₂ (fun text tree => (toJson tree).Rendering text)
      (objectArray (opening lead blank fields ++ rest) key) trees := by
  obtain ⟨before, field, after, rfl, quiet, same, written, _⟩ :=
    lays.exists_field searchable there
  obtain ⟨space, pairs, equal, value, each⟩ := written.exists_slots
  rw [opening_append_cons, objectArray,
    (finds_opening searchable.apart.keyNamed quiet same).arrayBody? value
      (balanced_pairs fun pair member => (each pair member).balanced)]
  exact forall₂_objects objects space equal each

/-- Without one of the arrays in front, the text is that of the other members in front, and breaks
off at the same place. -/
theorem Lays.withoutArray_front (searchable : Searchable key members names) {items : List Json}
    (there : (key, some (Json.array items)) ∈ members) (lays : Lays (present members) fields)
    (last : Field) :
    ∃ (others : List Field) (space : Space),
      withoutArray (opening lead blank fields ++ last.text) key =
          opening lead blank others ++ { last with lead := space }.text ∧
        Lays (present (without members key)) others := by
  obtain ⟨before, field, after, rfl, quiet, same, written, rest⟩ :=
    lays.exists_field searchable there
  obtain ⟨_, pairs, _, value, each⟩ := written.exists_slots
  obtain ⟨others, space, left, laid⟩ := Layout.withoutArray_front searchable.apart.keyNamed quiet
    same value (balanced_pairs fun pair member => (each pair member).balanced) after last
  exact ⟨others, space, left, rest.of_core laid⟩

end

end Layout

end FieldMenu
