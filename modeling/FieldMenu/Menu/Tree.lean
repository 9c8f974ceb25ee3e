import FieldMenu.Caption
import FieldMenu.Condition
import FieldMenu.Document.Effective
import FieldMenu.Log.Event
import FieldMenu.Menu.Node
import FieldMenu.Value.Candidate

namespace FieldMenu

namespace Item

def optionNode (item : Item) (indicator : Indicator) (selection : List Record) (value : String) :
    MenuNode :=
  let state := SelectionState.count selection fun record => record.holdsToken item.fieldName value
  { key := value
    caption := state.caption value none indicator
    kind := .action (.option item.fieldName value item.requireConfirmation item.additionalActions) }

def toggleState (item : Item) (selection : List Record) : SelectionState :=
  .count selection fun record => record.holdsValue item.fieldName item.enableValue

def node (item : Item) (group : Option Group) (settings : Settings)
    (selection library : List Record) : MenuNode :=
  let icon := item.effectiveIcon? group
  let indicator := item.effectiveIndicator group settings
  match item.mode with
  | .multiValue =>
      { key := item.menuLabel
        caption := item.menuLabel
        icon
        kind := .multiValue item.fieldName
        children :=
          (item.candidates (item.effectiveSortOrder group settings) library).map
            (item.optionNode indicator selection) }
  | .simple =>
      { key := item.menuLabel
        caption :=
          (item.toggleState selection).caption item.menuLabel item.toggledMenuLabel indicator
        icon
        kind :=
          .action (.toggle item.fieldName item.enableValue item.operation item.requireConfirmation
            item.additionalActions) }

def isVisible (item : Item) (selection : List Record) : Bool :=
  item.enabled && shows item.conditions selection

end Item

namespace Group

def isVisible (group : Group) (selection : List Record) : Bool :=
  group.enabled && shows group.conditions selection

def node (group : Group) (settings : Settings) (selection library : List Record) : MenuNode :=
  { key := group.name
    caption := group.name
    icon := some group.icon
    kind := .group
    children :=
      (group.items.filter fun item => item.isVisible selection).map fun item =>
        item.node (some group) settings selection library }

end Group

def selectionFieldNames (selection : List Record) : List String :=
  SortOrder.alphabetical.sort none <|
    firstSpellings (selection.flatMap fun record => record.customFields.map CustomField.name)

def clearFieldNode (settings : Settings) (selection : List Record) (field : String) : MenuNode :=
  let state := SelectionState.count selection fun record => (record.field? field).isSome
  { key := field
    caption := state.caption field none settings.effectiveClearIndicator
    kind := .action (.clearField field) }

/-- The submenu that clears single fields; it shows even where there are none. -/
def selectiveClearNode (settings : Settings) (selection : List Record) : MenuNode :=
  { key := settings.selectiveClear.label
    caption := settings.selectiveClear.label
    icon := some settings.selectiveClear.icon
    kind := .selectiveClear
    children := (selectionFieldNames selection).map (clearFieldNode settings selection) }

def clearAllNode (settings : Settings) : MenuNode :=
  { key := settings.clearAllFields.label
    caption := settings.clearAllFields.label
    icon := some settings.clearAllFields.icon
    kind := .action .clearAll }

namespace Document

/-- The menu for a selection.  Values gathered from a field come from the whole library. -/
def menu (document : Document) (selection library : List Record) : List MenuNode :=
  let settings := document.toSettings
  ((document.groups.filter fun group => group.isVisible selection).map fun group =>
      group.node settings selection library) ++
    ((document.ungroupedItems.filter fun item => item.isVisible selection).map fun item =>
      item.node none settings selection library) ++
    (if settings.selectiveClear.enabled then [selectiveClearNode settings selection] else []) ++
    (if settings.clearAllFields.enabled then [clearAllNode settings] else [])

end Document

def menuBuiltEvent (selection : List Record) (menu : List MenuNode) : Log.Event :=
  .debug .menuBuilt "Menu tree built"
    [("top_level", toString menu.length), ("selection", toString selection.length)]

end FieldMenu
