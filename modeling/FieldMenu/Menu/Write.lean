import FieldMenu.Document.Write
import FieldMenu.Menu.Node

namespace FieldMenu

def additionalActionsJson (actions : List AdditionalAction) : Json :=
  .array (actions.map AdditionalAction.toJson)

def MenuAction.toJson : MenuAction → Json
  | .toggle field enableValue operation requireConfirmation additionalActions =>
      .object
        [ ("type", .string "toggle"),
          ("field", .string field),
          ("enableValue", .string enableValue),
          ("operation", .string operation.name),
          ("requireConfirmation", .bool requireConfirmation),
          ("additionalActions", additionalActionsJson additionalActions) ]
  | .option field value requireConfirmation additionalActions =>
      .object
        [ ("type", .string "valueOption"),
          ("field", .string field),
          ("value", .string value),
          ("requireConfirmation", .bool requireConfirmation),
          ("additionalActions", additionalActionsJson additionalActions) ]
  | .clearField field => .object [("type", .string "clearField"), ("field", .string field)]
  | .clearAll => .object [("type", .string "clearAll")]

def NodeKind.toJson : NodeKind → Json
  | .group => .object [("type", .string "group")]
  | .multiValue field => .object [("type", .string "multiValue"), ("field", .string field)]
  | .selectiveClear => .object [("type", .string "selectiveClear")]
  | .action does => does.toJson

mutual

/-- An entry with all entries under it.  An icon and children are written where there are any. -/
def MenuNode.toJson : MenuNode → Json
  | { key, caption, icon, kind, children } =>
      .object <|
        [("key", .string key), ("caption", .string caption)] ++
        (match icon with
          | some icon => [("icon", icon.toJson)]
          | none => []) ++
        [("kind", kind.toJson)] ++
        (if children.isEmpty then [] else [("children", .array (menuItemsJson children))])

def menuItemsJson : List MenuNode → List Json
  | [] => []
  | node :: nodes => node.toJson :: menuItemsJson nodes

end

def menuJson (nodes : List MenuNode) : Json :=
  .array (menuItemsJson nodes)

end FieldMenu
