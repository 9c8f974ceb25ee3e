import FieldMenu.Document.Basic
import FieldMenu.Document.Report
import FieldMenu.Scan.Array

/-!
Reading never fails: an entry without what it needs is left out, and a setting that is missing or not
understood takes its default.
-/

namespace FieldMenu

open Scan

def nonEmptyString? (text : List Char) (key : String) : Option String :=
  (string? text key).filter fun value => !value.isEmpty

/-- A member that is a word out of a list; one that is not understood counts as absent. -/
def setting? {α : Type} (parse? : String → Option α) (text : List Char) (key : String) :
    Noted (Option α) :=
  match string? text key with
  | none => pure none
  | some word =>
      match parse? word with
      | some choice => pure (some choice)
      | none => { value := none, notices := [.unknownSetting key word] }

def icon? (text : List Char) (key : String) : Option Icon :=
  (string? text key).map Icon.parse

namespace Rule

def operatorNotices (field : String) : Operator → List Notice
  | .unrecognized word => [.unknownOperator word field]
  | _ => []

def read (text : List Char) : Noted (Option Rule) :=
  match nonEmptyString? text "field" with
  | none => .drop .ruleWithoutField
  | some field =>
      let operator := ((string? text "operator").map Operator.parse).getD .equals
      { value := some { field, operator, value := string? text "value" }
        notices := operatorNotices field operator }

end Rule

namespace ConditionGroup

def read (text : List Char) : Noted (Option ConditionGroup) := do
  let logic ← setting? Logic.parse? (withoutArray text "rules") "logic"
  let rules ← Noted.filterMap Rule.read (objectArray text "rules")
  if rules.isEmpty then .drop .conditionGroupWithoutRules
  else pure (some { logic := logic.getD .all, rules })

def readAll (text : List Char) : Noted (List ConditionGroup) :=
  Noted.filterMap read (objectArray text "conditions")

end ConditionGroup

namespace AdditionalAction

def read (text : List Char) : Noted (Option AdditionalAction) :=
  match nonEmptyString? text "field", nonEmptyString? text "action" with
  | some field, some word =>
      match ActionKind.parse? word with
      | some action =>
          pure (some { field, action, value := (string? text "value").getD defaultEnableValue })
      | none => .drop .actionOfUnknownKind
  | _, _ => .drop .actionWithoutFieldOrKind

def readAll (text : List Char) : Noted (List AdditionalAction) :=
  Noted.filterMap read (objectArray text "additionalActions")

end AdditionalAction

namespace Item

def ownText (text : List Char) : List Char :=
  withoutArrays text ["additionalActions", "conditions", "values"]

def readDetails (text : List Char) (fieldName menuLabel : String) : Noted Item := do
  let own := ownText text
  let operation ← setting? Operation.parse? own "operationType"
  let mode ← setting? ItemMode.parse? own "mode"
  let valueSource ← setting? ValueSource.parse? own "valueSource"
  let valueSortOrder ← setting? SortOrder.parse? own "valueSortOrder"
  let selectionIndicator ← setting? Indicator.parse? own "selectionIndicator"
  let additionalActions ← AdditionalAction.readAll text
  let conditions ← ConditionGroup.readAll text
  pure
    { fieldName
      menuLabel
      toggledMenuLabel := nonEmptyString? own "toggledMenuLabel"
      enableValue := (string? own "enableValue").getD defaultEnableValue
      operation := operation.getD .toggle
      enabled := flag own "enabled" true
      mode := mode.getD .simple
      valueSource := valueSource.getD .config
      values := stringArray text "values"
      icon := icon? own "icon"
      requireConfirmation := flag own "requireConfirmation" false
      valueSortOrder
      selectionIndicator
      additionalActions
      conditions }

def read (text : List Char) : Noted (Option Item) :=
  match nonEmptyString? (ownText text) "fieldName", nonEmptyString? (ownText text) "menuLabel" with
  | some fieldName, some menuLabel => some <$> readDetails text fieldName menuLabel
  | _, _ => .drop .itemWithoutFieldOrLabel

end Item

namespace Group

def readDetails (settings : Settings) (text : List Char) (name : String) : Noted Group := do
  let own := withoutArray text "items"
  let items ← Noted.filterMap Item.read (objectArray text "items")
  let iconCascade ← setting? IconCascade.parse? own "iconCascade"
  let valueSortOrder ← setting? SortOrder.parse? own "valueSortOrder"
  let selectionIndicator ← setting? Indicator.parse? own "selectionIndicator"
  let conditions ← ConditionGroup.readAll own
  pure
    { name
      enabled := flag own "enabled" true
      icon := (icon? own "icon").getD settings.defaultIcon
      iconCascade := iconCascade.getD settings.defaultIconCascade
      valueSortOrder
      selectionIndicator
      items
      conditions }

def read (settings : Settings) (text : List Char) : Noted (Option Group) :=
  match nonEmptyString? (withoutArray text "items") "groupName" with
  | some name => some <$> readDetails settings text name
  | none => .drop .groupWithoutName

end Group

namespace InjectedEntry

def read (text : List Char) (enabledKey labelKey iconKey : String) (default : InjectedEntry) :
    InjectedEntry :=
  { enabled := flag text enabledKey default.enabled
    label := (string? text labelKey).getD default.label
    icon := (icon? text iconKey).getD default.icon }

end InjectedEntry

namespace Settings

def read (text : List Char) : Noted Settings := do
  let default : Settings := {}
  let cascade ← setting? IconCascade.parse? text "defaultIconCascade"
  let indicator ← setting? Indicator.parse? text "selectionIndicator"
  let clearIndicator ← setting? Indicator.parse? text "selectiveClearIndicator"
  let order ← setting? SortOrder.parse? text "valueSortOrder"
  pure
    { defaultIcon := (icon? text "defaultIcon").getD default.defaultIcon
      defaultIconCascade := cascade.getD default.defaultIconCascade
      confirmBulkChanges := flag text "confirmBulkChanges" false
      confirmBulkThreshold :=
        (integer text "confirmBulkThreshold" default.confirmBulkThreshold).toNat
      clearAllFields :=
        InjectedEntry.read text "injectClearAllFields" "clearAllFieldsLabel" "clearAllFieldsIcon"
          default.clearAllFields
      selectiveClear :=
        InjectedEntry.read text "injectSelectiveClear" "selectiveClearLabel" "selectiveClearIcon"
          default.selectiveClear
      selectionIndicator := indicator.getD default.selectionIndicator
      selectiveClearIndicator := clearIndicator
      valueSortOrder := order.getD default.valueSortOrder }

end Settings

namespace Document

/-- The document that a text describes, with nothing put in its place when it is empty. -/
def readEntries (text : List Char) : Noted Document := do
  let settings ← Settings.read (withoutArrays text ["groups", "ungroupedItems"])
  let groups ← Noted.filterMap (Group.read settings) (objectArray text "groups")
  let ungroupedItems ←
    Noted.filterMap Item.read (objectArray (withoutArray text "groups") "ungroupedItems")
  pure { settings with groups, ungroupedItems }

structure Build where
  document : Document
  report : BuildReport
  events : List Log.Event

def fallbackEvent (report : BuildReport) : Log.Event :=
  .warning .builtinFallback "No usable groups or items; using the built-in document"
    [("dropped", toString report.droppedTotal)]

def build (text : String) (logDropped : Bool := true) : Build :=
  let noted := readEntries text.toList
  let report := BuildReport.ofNotices noted.notices
  let events := noted.notices.filterMap (Notice.event? logDropped)
  if noted.value.isEmpty then
    { document := builtin
      report := { report with usedBuiltin := true }
      events := events ++ [fallbackEvent report] }
  else { document := noted.value, report, events }

end Document

end FieldMenu
