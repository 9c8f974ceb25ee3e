import FieldMenu.Document.Build
import FieldMenu.Proofs.Layout.Members

/-! Documents as trees; no text is looked at here. -/

namespace FieldMenu

open Layout

inductive Scalar where
  | null
  | bool (value : Bool)
  | int (value : Int64)
  | string (value : String)

namespace Scalar

def toJson : Scalar → Json
  | .null => .null
  | .bool value => .bool value
  | .int value => .int value.toInt
  | .string value => .string value

def asString? : Scalar → Option String
  | .string value => some value
  | _ => none

def asBool? : Scalar → Option Bool
  | .bool value => some value
  | _ => none

def asInt? : Scalar → Option Int
  | .int value => some value.toInt
  | _ => none

end Scalar

def scalarMembers (members : List (String × Option Scalar)) : List (String × Option Json) :=
  members.map fun member => (member.1, member.2.map Scalar.toJson)

namespace Position

def string? (member : Option Scalar) : Option String :=
  member.bind Scalar.asString?

def nonEmptyString? (member : Option Scalar) : Option String :=
  (string? member).filter fun value => !value.isEmpty

def flag (member : Option Scalar) (default : Bool) : Bool :=
  (member.bind Scalar.asBool?).getD default

def integer (member : Option Scalar) (default : Int) : Int :=
  (member.bind Scalar.asInt?).getD default

def icon? (member : Option Scalar) : Option Icon :=
  (string? member).map Icon.parse

def setting? {α : Type} (parse? : String → Option α) (key : String) (member : Option Scalar) :
    Noted (Option α) :=
  match string? member with
  | none => pure none
  | some word =>
      match parse? word with
      | some choice => pure (some choice)
      | none => { value := none, notices := [.unknownSetting key word] }

end Position

structure RuleTree where
  field : Option Scalar := none
  operator : Option Scalar := none
  value : Option Scalar := none

namespace RuleTree

def scalars (tree : RuleTree) : List (String × Option Scalar) :=
  [("field", tree.field), ("operator", tree.operator), ("value", tree.value)]

def toJson (tree : RuleTree) : Json :=
  .object (present (scalarMembers tree.scalars))

def read (tree : RuleTree) : Noted (Option Rule) :=
  match Position.nonEmptyString? tree.field with
  | none => .drop .ruleWithoutField
  | some field =>
      let operator := ((Position.string? tree.operator).map Operator.parse).getD .equals
      { value := some { field, operator, value := Position.string? tree.value }
        notices := Rule.operatorNotices field operator }

end RuleTree

structure ConditionTree where
  logic : Option Scalar := none
  rules : Option (List RuleTree) := none

namespace ConditionTree

def scalars (tree : ConditionTree) : List (String × Option Scalar) :=
  [("logic", tree.logic)]

def members (tree : ConditionTree) : List (String × Option Json) :=
  ("rules", listed RuleTree.toJson tree.rules) :: scalarMembers tree.scalars

def toJson (tree : ConditionTree) : Json :=
  .object (present tree.members)

def read (tree : ConditionTree) : Noted (Option ConditionGroup) := do
  let logic ← Position.setting? Logic.parse? "logic" tree.logic
  let rules ← Noted.filterMap RuleTree.read (tree.rules.getD [])
  if rules.isEmpty then .drop .conditionGroupWithoutRules
  else pure (some { logic := logic.getD .all, rules })

end ConditionTree

structure ActionTree where
  field : Option Scalar := none
  action : Option Scalar := none
  value : Option Scalar := none

namespace ActionTree

def scalars (tree : ActionTree) : List (String × Option Scalar) :=
  [("field", tree.field), ("action", tree.action), ("value", tree.value)]

def toJson (tree : ActionTree) : Json :=
  .object (present (scalarMembers tree.scalars))

def read (tree : ActionTree) : Noted (Option AdditionalAction) :=
  match Position.nonEmptyString? tree.field, Position.nonEmptyString? tree.action with
  | some field, some word =>
      match ActionKind.parse? word with
      | some action =>
          pure (some
            { field, action, value := (Position.string? tree.value).getD defaultEnableValue })
      | none => .drop .actionOfUnknownKind
  | _, _ => .drop .actionWithoutFieldOrKind

end ActionTree

structure ItemTree where
  fieldName : Option Scalar := none
  menuLabel : Option Scalar := none
  toggledMenuLabel : Option Scalar := none
  enableValue : Option Scalar := none
  operationType : Option Scalar := none
  enabled : Option Scalar := none
  mode : Option Scalar := none
  valueSource : Option Scalar := none
  values : Option (List String) := none
  icon : Option Scalar := none
  requireConfirmation : Option Scalar := none
  valueSortOrder : Option Scalar := none
  selectionIndicator : Option Scalar := none
  additionalActions : Option (List ActionTree) := none
  conditions : Option (List ConditionTree) := none

namespace ItemTree

def scalars (tree : ItemTree) : List (String × Option Scalar) :=
  [ ("fieldName", tree.fieldName), ("menuLabel", tree.menuLabel),
    ("toggledMenuLabel", tree.toggledMenuLabel), ("enableValue", tree.enableValue),
    ("operationType", tree.operationType), ("enabled", tree.enabled), ("mode", tree.mode),
    ("valueSource", tree.valueSource), ("icon", tree.icon),
    ("requireConfirmation", tree.requireConfirmation), ("valueSortOrder", tree.valueSortOrder),
    ("selectionIndicator", tree.selectionIndicator) ]

def members (tree : ItemTree) : List (String × Option Json) :=
  ("additionalActions", listed ActionTree.toJson tree.additionalActions) ::
    ("conditions", listed ConditionTree.toJson tree.conditions) ::
    ("values", listed Json.string tree.values) :: scalarMembers tree.scalars

def toJson (tree : ItemTree) : Json :=
  .object (present tree.members)

def readDetails (tree : ItemTree) (fieldName menuLabel : String) : Noted Item := do
  let operation ← Position.setting? Operation.parse? "operationType" tree.operationType
  let mode ← Position.setting? ItemMode.parse? "mode" tree.mode
  let valueSource ← Position.setting? ValueSource.parse? "valueSource" tree.valueSource
  let valueSortOrder ← Position.setting? SortOrder.parse? "valueSortOrder" tree.valueSortOrder
  let selectionIndicator ←
    Position.setting? Indicator.parse? "selectionIndicator" tree.selectionIndicator
  let additionalActions ← Noted.filterMap ActionTree.read (tree.additionalActions.getD [])
  let conditions ← Noted.filterMap ConditionTree.read (tree.conditions.getD [])
  pure
    { fieldName
      menuLabel
      toggledMenuLabel := Position.nonEmptyString? tree.toggledMenuLabel
      enableValue := (Position.string? tree.enableValue).getD defaultEnableValue
      operation := operation.getD .toggle
      enabled := Position.flag tree.enabled true
      mode := mode.getD .simple
      valueSource := valueSource.getD .config
      values := tree.values.getD []
      icon := Position.icon? tree.icon
      requireConfirmation := Position.flag tree.requireConfirmation false
      valueSortOrder
      selectionIndicator
      additionalActions
      conditions }

def read (tree : ItemTree) : Noted (Option Item) :=
  match Position.nonEmptyString? tree.fieldName, Position.nonEmptyString? tree.menuLabel with
  | some fieldName, some menuLabel => some <$> tree.readDetails fieldName menuLabel
  | _, _ => .drop .itemWithoutFieldOrLabel

end ItemTree

structure GroupTree where
  groupName : Option Scalar := none
  enabled : Option Scalar := none
  icon : Option Scalar := none
  iconCascade : Option Scalar := none
  valueSortOrder : Option Scalar := none
  selectionIndicator : Option Scalar := none
  conditions : Option (List ConditionTree) := none
  items : Option (List ItemTree) := none

namespace GroupTree

def scalars (tree : GroupTree) : List (String × Option Scalar) :=
  [ ("groupName", tree.groupName), ("enabled", tree.enabled), ("icon", tree.icon),
    ("iconCascade", tree.iconCascade), ("valueSortOrder", tree.valueSortOrder),
    ("selectionIndicator", tree.selectionIndicator) ]

def members (tree : GroupTree) : List (String × Option Json) :=
  ("items", listed ItemTree.toJson tree.items) ::
    ("conditions", listed ConditionTree.toJson tree.conditions) :: scalarMembers tree.scalars

def toJson (tree : GroupTree) : Json :=
  .object (present tree.members)

def readDetails (settings : Settings) (tree : GroupTree) (name : String) : Noted Group := do
  let items ← Noted.filterMap ItemTree.read (tree.items.getD [])
  let iconCascade ← Position.setting? IconCascade.parse? "iconCascade" tree.iconCascade
  let valueSortOrder ← Position.setting? SortOrder.parse? "valueSortOrder" tree.valueSortOrder
  let selectionIndicator ←
    Position.setting? Indicator.parse? "selectionIndicator" tree.selectionIndicator
  let conditions ← Noted.filterMap ConditionTree.read (tree.conditions.getD [])
  pure
    { name
      enabled := Position.flag tree.enabled true
      icon := (Position.icon? tree.icon).getD settings.defaultIcon
      iconCascade := iconCascade.getD settings.defaultIconCascade
      valueSortOrder
      selectionIndicator
      items
      conditions }

def read (settings : Settings) (tree : GroupTree) : Noted (Option Group) :=
  match Position.nonEmptyString? tree.groupName with
  | some name => some <$> tree.readDetails settings name
  | none => .drop .groupWithoutName

end GroupTree

structure DocumentTree where
  defaultIcon : Option Scalar := none
  defaultIconCascade : Option Scalar := none
  confirmBulkChanges : Option Scalar := none
  confirmBulkThreshold : Option Scalar := none
  injectClearAllFields : Option Scalar := none
  clearAllFieldsLabel : Option Scalar := none
  clearAllFieldsIcon : Option Scalar := none
  injectSelectiveClear : Option Scalar := none
  selectiveClearLabel : Option Scalar := none
  selectiveClearIcon : Option Scalar := none
  selectionIndicator : Option Scalar := none
  selectiveClearIndicator : Option Scalar := none
  valueSortOrder : Option Scalar := none
  groups : Option (List GroupTree) := none
  ungroupedItems : Option (List ItemTree) := none

namespace DocumentTree

def scalars (tree : DocumentTree) : List (String × Option Scalar) :=
  [ ("defaultIcon", tree.defaultIcon), ("defaultIconCascade", tree.defaultIconCascade),
    ("confirmBulkChanges", tree.confirmBulkChanges),
    ("confirmBulkThreshold", tree.confirmBulkThreshold),
    ("injectClearAllFields", tree.injectClearAllFields),
    ("clearAllFieldsLabel", tree.clearAllFieldsLabel),
    ("clearAllFieldsIcon", tree.clearAllFieldsIcon),
    ("injectSelectiveClear", tree.injectSelectiveClear),
    ("selectiveClearLabel", tree.selectiveClearLabel),
    ("selectiveClearIcon", tree.selectiveClearIcon),
    ("selectionIndicator", tree.selectionIndicator),
    ("selectiveClearIndicator", tree.selectiveClearIndicator),
    ("valueSortOrder", tree.valueSortOrder) ]

def members (tree : DocumentTree) : List (String × Option Json) :=
  ("groups", listed GroupTree.toJson tree.groups) ::
    ("ungroupedItems", listed ItemTree.toJson tree.ungroupedItems) :: scalarMembers tree.scalars

def toJson (tree : DocumentTree) : Json :=
  .object (present tree.members)

/-- The settings at the root.  A threshold below zero counts as zero. -/
def readSettings (tree : DocumentTree) : Noted Settings := do
  let cascade ← Position.setting? IconCascade.parse? "defaultIconCascade" tree.defaultIconCascade
  let indicator ← Position.setting? Indicator.parse? "selectionIndicator" tree.selectionIndicator
  let clearIndicator ←
    Position.setting? Indicator.parse? "selectiveClearIndicator" tree.selectiveClearIndicator
  let order ← Position.setting? SortOrder.parse? "valueSortOrder" tree.valueSortOrder
  pure
    { defaultIcon := (Position.icon? tree.defaultIcon).getD .default
      defaultIconCascade := cascade.getD .stop
      confirmBulkChanges := Position.flag tree.confirmBulkChanges false
      confirmBulkThreshold := (Position.integer tree.confirmBulkThreshold 10).toNat
      clearAllFields :=
        { enabled := Position.flag tree.injectClearAllFields false
          label := (Position.string? tree.clearAllFieldsLabel).getD "Clear All Custom Fields"
          icon := (Position.icon? tree.clearAllFieldsIcon).getD .delete }
      selectiveClear :=
        { enabled := Position.flag tree.injectSelectiveClear false
          label := (Position.string? tree.selectiveClearLabel).getD "Selectively Clear Fields"
          icon := (Position.icon? tree.selectiveClearIcon).getD .delete }
      selectionIndicator := indicator.getD .symbol
      selectiveClearIndicator := clearIndicator
      valueSortOrder := order.getD .alphabetical }

def readEntries (tree : DocumentTree) : Noted Document := do
  let settings ← tree.readSettings
  let groups ← Noted.filterMap (GroupTree.read settings) (tree.groups.getD [])
  let ungroupedItems ← Noted.filterMap ItemTree.read (tree.ungroupedItems.getD [])
  pure { settings with groups, ungroupedItems }

def document (tree : DocumentTree) : Document :=
  let described := tree.readEntries.value
  if described.groups = [] ∧ described.ungroupedItems = [] then Document.builtin else described

def report (tree : DocumentTree) : BuildReport :=
  let noted := tree.readEntries
  { BuildReport.ofNotices noted.notices with
    usedBuiltin := noted.value.groups = [] ∧ noted.value.ungroupedItems = [] }

end DocumentTree

end FieldMenu
