import FieldMenu.Proofs.Document.Tree

namespace FieldMenu

open Layout

theorem Scalar.namedBy (names : List String) (scalar : Scalar) : scalar.toJson.NamedBy names := by
  cases scalar with
  | null => exact .null
  | bool value => exact .bool value
  | int value => exact .int value.toInt
  | string value => exact .string value

theorem nested_scalarMembers (names : List String) (scalars : List (String × Option Scalar)) :
    Nested names (scalarMembers scalars) := by
  intro name value member
  obtain ⟨⟨key, scalar⟩, _, equal⟩ := List.mem_map.mp member
  cases scalar with
  | none => cases congrArg Prod.snd equal
  | some scalar =>
      cases equal
      exact scalar.namedBy names

theorem searchable_scalars {scalars : List (String × Option Scalar)}
    (distinct : Distinct (scalars.map Prod.fst)) {key : String}
    (known : key ∈ scalars.map Prod.fst) : Searchable key (scalarMembers scalars) [] where
  distinct := by simpa [scalarMembers, Function.comp_def] using distinct
  apart := { keyNamed := distinct.2 key known, named := by simp, other := by simp }
  nested := nested_scalarMembers [] scalars

def vocabulary : List String :=
  [ "additionalActions", "action", "clearAllFieldsIcon", "clearAllFieldsLabel", "conditions",
    "confirmBulkChanges", "confirmBulkThreshold", "defaultIcon", "defaultIconCascade",
    "enableValue", "enabled", "field", "fieldName", "groupName", "groups", "icon", "iconCascade",
    "injectClearAllFields", "injectSelectiveClear", "items", "logic", "menuLabel", "mode",
    "operationType", "operator", "requireConfirmation", "rules", "selectionIndicator",
    "selectiveClearIcon", "selectiveClearIndicator", "selectiveClearLabel", "toggledMenuLabel",
    "ungroupedItems", "value", "valueSortOrder", "valueSource", "values" ]

theorem distinct_vocabulary : Distinct vocabulary := by
  decide +kernel

def Known (names : List String) : Prop :=
  ∀ name ∈ names, name ∈ vocabulary

instance (names : List String) : Decidable (Known names) :=
  inferInstanceAs (Decidable (∀ name ∈ names, name ∈ vocabulary))

namespace Known

variable {names inner : List String}

theorem append (left : Known names) (right : Known inner) : Known (names ++ inner) := by
  intro name member
  rcases List.mem_append.mp member with first | second
  · exact left name first
  · exact right name second

theorem distinct (known : Known names) (nodup : names.Nodup) : Distinct names :=
  distinct_vocabulary.of_subset known nodup

theorem apart (known : Known names) (innerKnown : Known inner)
    (fresh : ∀ key ∈ names, key ∉ inner) : ∀ key ∈ names, Json.Apart key inner :=
  fun key member => distinct_vocabulary.apart (known key member) innerKnown (fresh key member)

end Known

namespace RuleTree

def names : List String :=
  ["field", "operator", "value"]

theorem known : Known names := by
  decide

theorem namedBy (tree : RuleTree) : tree.toJson.NamedBy names :=
  (nested_scalarMembers names _).namedBy (show ∀ name ∈ names, name ∈ names from fun _ => id)

end RuleTree

namespace ActionTree

def names : List String :=
  ["field", "action", "value"]

theorem known : Known names := by
  decide

theorem namedBy (tree : ActionTree) : tree.toJson.NamedBy names :=
  (nested_scalarMembers names _).namedBy (show ∀ name ∈ names, name ∈ names from fun _ => id)

end ActionTree

namespace ConditionTree

def ownNames : List String :=
  ["rules", "logic"]

def names : List String :=
  ownNames ++ RuleTree.names

theorem ownKnown : Known ownNames := by
  decide

theorem known : Known names :=
  ownKnown.append RuleTree.known

theorem distinct (tree : ConditionTree) : Distinct (tree.members.map Prod.fst) :=
  ownKnown.distinct (by decide)

theorem nested (tree : ConditionTree) : Nested RuleTree.names tree.members :=
  .listed RuleTree.namedBy (nested_scalarMembers _ _)

theorem namedBy (tree : ConditionTree) : tree.toJson.NamedBy names :=
  (tree.nested.mono fun _ => List.mem_append_right _).namedBy
    (show ∀ name ∈ ownNames, name ∈ names from fun _ => List.mem_append_left _)

end ConditionTree

namespace ItemTree

def arrayNames : List String :=
  ["additionalActions", "conditions", "values"]

def ownNames : List String :=
  arrayNames ++
    [ "fieldName", "menuLabel", "toggledMenuLabel", "enableValue", "operationType", "enabled",
      "mode", "valueSource", "icon", "requireConfirmation", "valueSortOrder",
      "selectionIndicator" ]

def innerNames : List String :=
  ActionTree.names ++ ConditionTree.names

def names : List String :=
  ownNames ++ innerNames

theorem ownKnown : Known ownNames := by
  decide

theorem innerKnown : Known innerNames :=
  ActionTree.known.append ConditionTree.known

theorem known : Known names :=
  ownKnown.append innerKnown

theorem distinct (tree : ItemTree) : Distinct (tree.members.map Prod.fst) :=
  ownKnown.distinct (by decide)

theorem nested (tree : ItemTree) : Nested innerNames tree.members :=
  .listed (fun action => (ActionTree.namedBy action).mono fun _ => List.mem_append_left _)
    (.listed (fun condition =>
        (ConditionTree.namedBy condition).mono fun _ => List.mem_append_right _)
      (.listed .string (nested_scalarMembers _ _)))

theorem namedBy (tree : ItemTree) : tree.toJson.NamedBy names :=
  (tree.nested.mono fun _ => List.mem_append_right _).namedBy
    (show ∀ name ∈ ownNames, name ∈ names from fun _ => List.mem_append_left _)

end ItemTree

namespace GroupTree

def ownNames : List String :=
  [ "items", "conditions", "groupName", "enabled", "icon", "iconCascade", "valueSortOrder",
    "selectionIndicator" ]

def names : List String :=
  ownNames ++ ItemTree.names

theorem ownKnown : Known ownNames := by
  decide

theorem known : Known names :=
  ownKnown.append ItemTree.known

theorem distinct (tree : GroupTree) : Distinct (tree.members.map Prod.fst) :=
  ownKnown.distinct (by decide)

theorem conditionNames_subset : ∀ name ∈ ConditionTree.names, name ∈ ItemTree.names :=
  fun _ member => List.mem_append_right _ (List.mem_append_right _ member)

theorem nested (tree : GroupTree) : Nested ItemTree.names tree.members :=
  .listed ItemTree.namedBy
    (.listed (fun condition => (ConditionTree.namedBy condition).mono conditionNames_subset)
      (nested_scalarMembers _ _))

theorem namedBy (tree : GroupTree) : tree.toJson.NamedBy names :=
  (tree.nested.mono fun _ => List.mem_append_right _).namedBy
    (show ∀ name ∈ ownNames, name ∈ names from fun _ => List.mem_append_left _)

end GroupTree

namespace DocumentTree

def arrayNames : List String :=
  ["groups", "ungroupedItems"]

def ownNames : List String :=
  arrayNames ++
    [ "defaultIcon", "defaultIconCascade", "confirmBulkChanges", "confirmBulkThreshold",
      "injectClearAllFields", "clearAllFieldsLabel", "clearAllFieldsIcon",
      "injectSelectiveClear", "selectiveClearLabel", "selectiveClearIcon", "selectionIndicator",
      "selectiveClearIndicator", "valueSortOrder" ]

theorem ownKnown : Known ownNames := by
  decide

theorem distinct (tree : DocumentTree) : Distinct (tree.members.map Prod.fst) :=
  ownKnown.distinct (by decide)

theorem nested (tree : DocumentTree) : Nested GroupTree.names tree.members :=
  .listed GroupTree.namedBy
    (.listed (fun item => (ItemTree.namedBy item).mono fun _ => List.mem_append_right _)
      (nested_scalarMembers _ _))

end DocumentTree

end FieldMenu
