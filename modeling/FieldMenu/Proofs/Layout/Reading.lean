import FieldMenu.Proofs.Layout.Members
import Mathlib.Data.List.Forall2

namespace FieldMenu

open Scan Text Layout

namespace Json.Written

theorem exists_slots {items : List Json} {text : List Char}
    (written : (Json.array items).Written text) :
    ∃ (blank : Space) (pairs : List (Json × Slot)),
      items = pairs.map Prod.fst ∧ text = arrayText blank (pairs.map Prod.snd) ∧
        ∀ pair ∈ pairs, pair.1.Written pair.2.value := by
  cases written with
  | array blank pairs each => exact ⟨blank, pairs, rfl, rfl, each⟩

theorem string_text {value : String} {text : List Char}
    (written : (Json.string value).Written text) :
    text = '"' :: escape value.toList ++ ['"'] := by
  cases written with
  | string => rfl

theorem exists_inner {members : List (String × Json)} {text : List Char}
    (written : (Json.object members).Written text) :
    ∃ inner, text = '{' :: inner ++ ['}'] ∧ Balanced inner := by
  cases written with
  | object blank fields entries order spelled each laid =>
      exact ⟨_, rfl, balanced_entries laid spelled fun entry member =>
        (each entry member).balanced⟩

theorem values_of_strings {values : List String} {pairs : List (Json × Slot)}
    (equal : values.map Json.string = pairs.map Prod.fst)
    (each : ∀ pair ∈ pairs, pair.1.Written pair.2.value) :
    (pairs.map Prod.snd).map Slot.value =
      (values.map fun value => escape value.toList).map fun content =>
        '"' :: content ++ ['"'] := by
  induction values generalizing pairs with
  | nil =>
      have none : pairs = [] := by simpa using equal.symm
      simp [none]
  | cons value values ih =>
      obtain ⟨pair, rest, rfl, first, others⟩ := List.map_eq_cons_iff.mp equal.symm
      have written := each pair List.mem_cons_self
      rw [first] at written
      have firstText : pair.2.value = '"' :: escape value.toList ++ ['"'] :=
        written.string_text
      have otherTexts := ih others.symm fun pair member =>
        each pair (List.mem_cons_of_mem _ member)
      simp only [List.map_cons, firstText, otherTexts]

theorem trimStart_append {json : Json} {text : List Char} (written : json.Written text)
    (rest : List Char) : trimStart (text ++ rest) = text ++ rest := by
  have head {c : Char} {tail : List Char} (notBlank : isBlank c = false) :
      trimStart (c :: tail ++ rest) = c :: tail ++ rest :=
    trimStart_cons_of_not_blank _ notBlank
  cases written with
  | null => exact head rfl
  | bool value => cases value <;> exact head rfl
  | int value =>
      obtain ⟨c, tail, digits, minus | digit⟩ := exists_head_toString_int value
      · rw [digits, minus]
        exact head rfl
      · rw [digits]
        exact head (isBlank_of_isDigit digit)
  | string value => exact head rfl
  | array blank items each => exact head rfl
  | object blank fields entries order spelled each laid => exact head rfl

end Json.Written

namespace Layout

variable {key : String} {members : List (String × Option Json)} {inner : List String}
  {text : List Char}

theorem isDigit_eq_false_of_isBlank {c : Char} (blank : isBlank c = true) :
    c.isDigit = false := by
  cases digit : c.isDigit with
  | false => rfl
  | true => rw [isBlank_of_isDigit digit] at blank; cases blank

theorem takeWhile_isDigit_space (space : Space) {mark : Char} (notDigit : mark.isDigit = false)
    (rest : List Char) : (space.text ++ mark :: rest).takeWhile Char.isDigit = [] := by
  cases text : space.text with
  | cons c text =>
      have blank : isBlank c = true := space.isBlank c (by simp [text])
      simp [isDigit_eq_false_of_isBlank blank]
  | nil => simp [notDigit]

theorem takeWhile_isDigit_after (space : Space) (after : List Field) (rest : List Char) :
    (space.text ++ (after.flatMap (fun other => ',' :: other.text) ++ '}' :: rest)).takeWhile
      Char.isDigit = [] := by
  cases after with
  | nil => exact takeWhile_isDigit_space space rfl _
  | cons next after => exact takeWhile_isDigit_space space rfl _

theorem valueText?_field {lead blank : Space} {before : List Field} {field : Field}
    (named : isName key.toList = true) (quiet : ∀ other ∈ before, other.Quiet key)
    (same : asciiLowered field.name = asciiLowered key.toList) {value : Json}
    (written : value.Written field.value) (rest : List Char) :
    valueText? (opening lead blank before ++ (field.text ++ rest)) key =
      some (field.value ++ (field.after.text ++ rest)) := by
  rw [(finds_opening named quiet same).valueText?, written.trimStart_append]

theorem valueText?_rendering (searchable : Searchable key members inner) {value : Json}
    (there : (key, some value) ∈ members)
    (rendering : (Json.object (present members)).Rendering text) :
    ∃ written rest, value.Written written ∧ rest.takeWhile Char.isDigit = [] ∧
      valueText? text key = some (written ++ rest) := by
  obtain ⟨lead, blank, trail, before, after, field, rfl, quiet, same, written, _⟩ :=
    exists_field_of_present searchable there rendering
  refine ⟨field.value, _, written, takeWhile_isDigit_after field.after after trail.text, ?_⟩
  rw [objectText_append_cons]
  exact valueText?_field searchable.apart.keyNamed quiet same written _

theorem valueText?_of_absent (searchable : Searchable key members inner)
    (absent : (key, none) ∈ members)
    (rendering : (Json.object (present members)).Rendering text) : valueText? text key = none := by
  rw [valueText?, member?_eq_none_of_passes (passes_of_absent searchable absent rendering)]
  rfl

theorem present_without_of_absent (distinct : Distinct (members.map Prod.fst))
    (absent : (key, none) ∈ members) : present (without members key) = present members := by
  rw [present_without, List.filter_eq_self]
  intro member there
  rw [bne_iff_ne]
  rintro rfl
  cases congrArg Prod.snd (eq_of_same_letters distinct (mem_present.mp there) absent rfl)

theorem eq_array_of_listed {α : Type} {trees : Option (List α)} {toJson : α → Json} :
    ∀ json ∈ listed toJson trees, ∃ items, json = Json.array items := by
  intro json there
  obtain ⟨trees, _, rfl⟩ := Option.map_eq_some_iff.mp there
  exact ⟨_, rfl⟩

theorem withoutArray_rendering (searchable : Searchable key members inner) {value : Option Json}
    (isArray : ∀ json ∈ value, ∃ items, json = Json.array items) (member : (key, value) ∈ members)
    (rendering : (Json.object (present members)).Rendering text) :
    (Json.object (present (without members key))).Rendering (withoutArray text key) := by
  cases value with
  | none =>
      rw [withoutArray, member?_eq_none_of_passes (passes_of_absent searchable member rendering),
        present_without_of_absent searchable.distinct member]
      exact rendering
  | some value =>
      obtain ⟨items, rfl⟩ := isArray value rfl
      obtain ⟨lead, blank, trail, before, after, field, rfl, quiet, same, written, rest⟩ :=
        exists_field_of_present searchable member rendering
      obtain ⟨space, pairs, rfl, value, each⟩ := written.exists_slots
      obtain ⟨blank', fields, left, laid⟩ := withoutArray_objectText trail after
        (finds_opening searchable.apart.keyNamed quiet same) value
        (balanced_pairs fun pair pairMember => (each pair pairMember).balanced)
      rw [left]
      exact ⟨lead, trail, _, (rest.of_core laid).written blank', rfl⟩

theorem without_cons_self {value : Option Json}
    (distinct : Distinct (((key, value) :: members).map Prod.fst)) :
    without ((key, value) :: members) key = members := by
  have fresh : asciiLowered key.toList ∉
      (members.map Prod.fst).map fun name => asciiLowered name.toList :=
    (List.nodup_cons.mp distinct.1).1
  rw [without, List.filter_cons_of_neg (by simp), List.filter_eq_self]
  intro member there
  rw [bne_iff_ne]
  rintro rfl
  exact fresh (List.mem_map_of_mem (List.mem_map_of_mem there))

theorem withoutArrays_rendering (arrays : List (String × Option Json))
    {others : List (String × Option Json)}
    (isArray : ∀ member ∈ arrays, ∀ json ∈ member.2, ∃ items, json = Json.array items)
    (distinct : Distinct ((arrays ++ others).map Prod.fst))
    (apart : ∀ name ∈ arrays.map Prod.fst, Json.Apart name inner)
    (nested : Nested inner (arrays ++ others))
    (rendering : (Json.object (present (arrays ++ others))).Rendering text) :
    (Json.object (present others)).Rendering (withoutArrays text (arrays.map Prod.fst)) := by
  induction arrays generalizing text with
  | nil => exact rendering
  | cons array arrays ih =>
      obtain ⟨key, value⟩ := array
      have distinct : Distinct (((key, value) :: (arrays ++ others)).map Prod.fst) := distinct
      have searchable : Searchable key ((key, value) :: (arrays ++ others)) inner :=
        ⟨distinct, apart key List.mem_cons_self, nested⟩
      -- What is left writes the members that are left, so the next array is found in it as well.
      have left := withoutArray_rendering searchable (isArray _ List.mem_cons_self)
        List.mem_cons_self rendering
      rw [without_cons_self distinct] at left
      exact ih (fun member there => isArray member (List.mem_cons_of_mem _ there)) distinct.tail
        (fun name there => apart name (List.mem_cons_of_mem _ there)) nested.tail left

theorem arrayBody?_rendering (searchable : Searchable key members inner) {items : List Json}
    (there : (key, some (Json.array items)) ∈ members)
    (rendering : (Json.object (present members)).Rendering text) :
    ∃ (blank : Space) (pairs : List (Json × Slot)),
      items = pairs.map Prod.fst ∧ (∀ pair ∈ pairs, pair.1.Written pair.2.value) ∧
        arrayBody? text key =
          some (blank.text ++ separated ((pairs.map Prod.snd).map Slot.text)) := by
  obtain ⟨lead, blank, trail, before, after, field, rfl, quiet, same, written, _⟩ :=
    exists_field_of_present searchable there rendering
  obtain ⟨space, pairs, equal, value, each⟩ := written.exists_slots
  refine ⟨space, pairs, equal, each, ?_⟩
  rw [objectText_append_cons]
  exact (finds_opening searchable.apart.keyNamed quiet same).arrayBody? value
    (balanced_pairs fun pair pairMember => (each pair pairMember).balanced) _

theorem arrayBody?_of_absent (searchable : Searchable key members inner)
    (absent : (key, none) ∈ members)
    (rendering : (Json.object (present members)).Rendering text) : arrayBody? text key = none := by
  rw [arrayBody?, member?_eq_none_of_passes (passes_of_absent searchable absent rendering)]
  rfl

theorem forall₂_objects {α : Type} {trees : List α} {toJson : α → Json}
    (objects : ∀ tree, ∃ members, toJson tree = Json.object members) (blank : Space)
    {pairs : List (Json × Slot)} (equal : trees.map toJson = pairs.map Prod.fst)
    (each : ∀ pair ∈ pairs, pair.1.Written pair.2.value) :
    List.Forall₂ (fun text tree => (toJson tree).Rendering text)
      (Scan.objects (blank.text ++ separated ((pairs.map Prod.snd).map Slot.text))) trees := by
  have found : Scan.objects (blank.text ++ separated ((pairs.map Prod.snd).map Slot.text)) =
      pairs.map fun pair => pair.2.value := by
    rw [objects_items]
    · simp
    · intro slot slotMember
      obtain ⟨pair, pairMember, rfl⟩ := List.mem_map.mp slotMember
      have inTrees : pair.1 ∈ trees.map toJson := by
        rw [equal]
        exact List.mem_map_of_mem pairMember
      obtain ⟨tree, _, same⟩ := List.mem_map.mp inTrees
      obtain ⟨members, isObject⟩ := objects tree
      have written := each pair pairMember
      rw [← same, isObject] at written
      exact written.exists_inner
  have texts : List.Forall₂ (fun text json => json.Rendering text)
      (pairs.map fun pair => pair.2.value) (trees.map toJson) := by
    rw [equal, List.forall₂_map_left_iff, List.forall₂_map_right_iff, List.forall₂_same]
    exact fun pair pairMember => (each pair pairMember).rendering
  rw [found]
  exact List.forall₂_map_right_iff.mp texts

theorem objectArray_rendering (searchable : Searchable key members inner) {α : Type}
    {trees : Option (List α)} {toJson : α → Json}
    (objects : ∀ tree, ∃ members, toJson tree = Json.object members)
    (member : (key, listed toJson trees) ∈ members)
    (rendering : (Json.object (present members)).Rendering text) :
    List.Forall₂ (fun text tree => (toJson tree).Rendering text) (objectArray text key)
      (trees.getD []) := by
  cases trees with
  | none =>
      rw [objectArray, arrayBody?_of_absent searchable member rendering]
      exact .nil
  | some trees =>
      obtain ⟨blank, pairs, equal, each, body⟩ := arrayBody?_rendering searchable member rendering
      rw [objectArray, body, Option.map_some, Option.getD_some]
      exact forall₂_objects objects blank equal each

theorem strings_written {values : List String} {blank : Space} {pairs : List (Json × Slot)}
    (equal : values.map Json.string = pairs.map Prod.fst)
    (each : ∀ pair ∈ pairs, pair.1.Written pair.2.value) :
    strings (blank.text ++ separated ((pairs.map Prod.snd).map Slot.text)) = values := by
  have contents := Json.Written.values_of_strings equal each
  rw [strings_items contents]
  · simp [Function.comp_def, unescape_escape]
  · intro content inContents
    obtain ⟨value, _, rfl⟩ := List.mem_map.mp inContents
    exact staysInside_escape value.toList

theorem stringArray_rendering (searchable : Searchable key members inner)
    {values : Option (List String)} (member : (key, listed Json.string values) ∈ members)
    (rendering : (Json.object (present members)).Rendering text) :
    stringArray text key = values.getD [] := by
  cases values with
  | none =>
      rw [stringArray, arrayBody?_of_absent searchable member rendering]
      rfl
  | some values =>
      obtain ⟨blank, pairs, equal, each, body⟩ := arrayBody?_rendering searchable member rendering
      rw [stringArray, body, Option.map_some, Option.getD_some]
      exact strings_written equal each

theorem string?_written {value : String} {written rest : List Char}
    (writes : (Json.string value).Written written)
    (found : valueText? text key = some (written ++ rest)) : string? text key = some value := by
  have read := quoted?_of_staysInside false [] rest (staysInside_escape value.toList)
  rw [string?, found, writes.string_text]
  simp [read, unescape_escape]

end Layout

end FieldMenu
