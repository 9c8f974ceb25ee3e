import FieldMenu.Document.Basic
import FieldMenu.Document.Report
import FieldMenu.Json.Value

namespace FieldMenu

def Operator.toJson : Operator → Json
  | .unrecognized word => .object [("unrecognized", .string word)]
  | operator => .string operator.name

def Rule.toJson (rule : Rule) : Json :=
  .object
    [ ("field", .string rule.field),
      ("operator", rule.operator.toJson),
      ("value", .ofOption .string rule.value) ]

def ConditionGroup.toJson (group : ConditionGroup) : Json :=
  .object
    [ ("logic", .string group.logic.name),
      ("rules", .array (group.rules.map Rule.toJson)) ]

def AdditionalAction.toJson (action : AdditionalAction) : Json :=
  .object
    [ ("field", .string action.field),
      ("action", .string action.action.name),
      ("value", .string action.value) ]

def Icon.toJson (icon : Icon) : Json :=
  .string icon.text

def SortOrder.toJson (order : SortOrder) : Json :=
  .string order.name

def Indicator.toJson (indicator : Indicator) : Json :=
  .string indicator.name

def Item.toJson (item : Item) : Json :=
  .object
    [ ("fieldName", .string item.fieldName),
      ("menuLabel", .string item.menuLabel),
      ("toggledMenuLabel", .ofOption .string item.toggledMenuLabel),
      ("enableValue", .string item.enableValue),
      ("operation", .string item.operation.name),
      ("enabled", .bool item.enabled),
      ("mode", .string item.mode.name),
      ("valueSource", .string item.valueSource.name),
      ("values", .strings item.values),
      ("icon", .ofOption Icon.toJson item.icon),
      ("requireConfirmation", .bool item.requireConfirmation),
      ("valueSortOrder", .ofOption SortOrder.toJson item.valueSortOrder),
      ("selectionIndicator", .ofOption Indicator.toJson item.selectionIndicator),
      ("additionalActions", .array (item.additionalActions.map AdditionalAction.toJson)),
      ("conditions", .array (item.conditions.map ConditionGroup.toJson)) ]

def Group.toJson (group : Group) : Json :=
  .object
    [ ("name", .string group.name),
      ("enabled", .bool group.enabled),
      ("icon", group.icon.toJson),
      ("iconCascade", .string group.iconCascade.name),
      ("valueSortOrder", .ofOption SortOrder.toJson group.valueSortOrder),
      ("selectionIndicator", .ofOption Indicator.toJson group.selectionIndicator),
      ("items", .array (group.items.map Item.toJson)),
      ("conditions", .array (group.conditions.map ConditionGroup.toJson)) ]

def InjectedEntry.toJson (entry : InjectedEntry) : Json :=
  .object
    [ ("enabled", .bool entry.enabled),
      ("label", .string entry.label),
      ("icon", entry.icon.toJson) ]

def Document.toJson (document : Document) : Json :=
  .object
    [ ("defaultIcon", document.defaultIcon.toJson),
      ("defaultIconCascade", .string document.defaultIconCascade.name),
      ("confirmBulkChanges", .bool document.confirmBulkChanges),
      ("confirmBulkThreshold", .nat document.confirmBulkThreshold),
      ("clearAllFields", document.clearAllFields.toJson),
      ("selectiveClear", document.selectiveClear.toJson),
      ("selectionIndicator", document.selectionIndicator.toJson),
      ("selectiveClearIndicator", .ofOption Indicator.toJson document.selectiveClearIndicator),
      ("valueSortOrder", document.valueSortOrder.toJson),
      ("groups", .array (document.groups.map Group.toJson)),
      ("ungroupedItems", .array (document.ungroupedItems.map Item.toJson)) ]

def BuildReport.toJson (report : BuildReport) : Json :=
  .object
    [ ("dropped_groups", .nat report.droppedGroups),
      ("dropped_items", .nat report.droppedItems),
      ("dropped_condition_groups", .nat report.droppedConditionGroups),
      ("dropped_rules", .nat report.droppedRules),
      ("dropped_actions", .nat report.droppedActions),
      ("unrecognized_values", .nat report.unrecognizedValues),
      ("used_builtin", .bool report.usedBuiltin) ]

end FieldMenu
