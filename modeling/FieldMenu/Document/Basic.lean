import FieldMenu.Document.Choice
import FieldMenu.Document.Icon

namespace FieldMenu

structure Rule where
  field : String
  operator : Operator := .equals
  value : Option String := none
deriving DecidableEq, Repr

structure ConditionGroup where
  logic : Logic := .all
  rules : List Rule
deriving DecidableEq, Repr

structure AdditionalAction where
  field : String
  action : ActionKind
  value : String
deriving DecidableEq, Repr

def defaultEnableValue : String := "true"

structure Item where
  fieldName : String
  menuLabel : String
  toggledMenuLabel : Option String := none
  enableValue : String := defaultEnableValue
  operation : Operation := .toggle
  enabled : Bool := true
  mode : ItemMode := .simple
  valueSource : ValueSource := .config
  values : List String := []
  icon : Option Icon := none
  requireConfirmation : Bool := false
  valueSortOrder : Option SortOrder := none
  selectionIndicator : Option Indicator := none
  additionalActions : List AdditionalAction := []
  conditions : List ConditionGroup := []
deriving DecidableEq, Repr

structure Group where
  name : String
  enabled : Bool := true
  icon : Icon := .default
  iconCascade : IconCascade := .stop
  valueSortOrder : Option SortOrder := none
  selectionIndicator : Option Indicator := none
  items : List Item := []
  conditions : List ConditionGroup := []
deriving DecidableEq, Repr

structure InjectedEntry where
  enabled : Bool := false
  label : String
  icon : Icon := .delete
deriving DecidableEq, Repr

structure Settings where
  defaultIcon : Icon := .default
  defaultIconCascade : IconCascade := .stop
  confirmBulkChanges : Bool := false
  confirmBulkThreshold : Nat := 10
  clearAllFields : InjectedEntry := { label := "Clear All Custom Fields" }
  selectiveClear : InjectedEntry := { label := "Selectively Clear Fields" }
  selectionIndicator : Indicator := .symbol
  selectiveClearIndicator : Option Indicator := none
  valueSortOrder : SortOrder := .alphabetical
deriving DecidableEq, Repr

structure Document extends Settings where
  groups : List Group := []
  ungroupedItems : List Item := []
deriving DecidableEq, Repr

namespace Document

def isEmpty (document : Document) : Bool :=
  document.groups.isEmpty && document.ungroupedItems.isEmpty

def itemCount (document : Document) : Nat :=
  (document.groups.map fun group => group.items.length).foldr (· + ·) 0 +
    document.ungroupedItems.length

/-- The document that stands in where none is usable: one group with one toggle. -/
def builtin : Document :=
  { groups :=
      [{ name := "Quick Tags"
         items := [{ fieldName := "Discovery Bin", menuLabel := "Discovery Bin" }] }] }

end Document

end FieldMenu
