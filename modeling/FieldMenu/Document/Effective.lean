import FieldMenu.Document.Basic

/-! The nearest setting wins: the item's own, then its group's, then the document's. -/

namespace FieldMenu

def Group.inheritedIcon? (group : Group) : Option Icon :=
  match group.iconCascade with
  | .inherit => some group.icon
  | .stop => none

namespace Item

def effectiveIcon? (item : Item) (group : Option Group) : Option Icon :=
  item.icon <|> group.bind Group.inheritedIcon?

def effectiveIndicator (item : Item) (group : Option Group) (settings : Settings) : Indicator :=
  (item.selectionIndicator <|> group.bind Group.selectionIndicator).getD
    settings.selectionIndicator

def effectiveSortOrder (item : Item) (group : Option Group) (settings : Settings) : SortOrder :=
  (item.valueSortOrder <|> group.bind Group.valueSortOrder).getD settings.valueSortOrder

end Item

def Settings.effectiveClearIndicator (settings : Settings) : Indicator :=
  settings.selectiveClearIndicator.getD settings.selectionIndicator

end FieldMenu
