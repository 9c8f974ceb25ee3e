import FieldMenu.Document.Basic
import FieldMenu.Text.Lowercase

namespace FieldMenu

inductive MenuAction where
  | toggle (field enableValue : String) (operation : Operation) (requireConfirmation : Bool)
      (additionalActions : List AdditionalAction)
  | option (field value : String) (requireConfirmation : Bool)
      (additionalActions : List AdditionalAction)
  | clearField (field : String)
  | clearAll
deriving DecidableEq, Repr

inductive NodeKind where
  | group
  | multiValue (field : String)
  | selectiveClear
  | action (action : MenuAction)
deriving DecidableEq, Repr, Inhabited

/-- A menu entry.  The key addresses it; the caption is what shows, and changes with the
selection. -/
structure MenuNode where
  key : String
  caption : String
  icon : Option Icon := none
  kind : NodeKind
  children : List MenuNode := []
deriving Repr, Inhabited

namespace MenuNode

def action? (node : MenuNode) : Option MenuAction :=
  match node.kind with
  | .action does => some does
  | _ => none

def isActionable (node : MenuNode) : Bool :=
  node.action?.isSome

end MenuNode

/-- The entry of that key: one with exactly this key, or else one whose key differs in letter
case. -/
def entryOfKey? (nodes : List MenuNode) (key : String) : Option MenuNode :=
  (nodes.find? fun node => node.key == key) <|>
    nodes.find? fun node => Text.sameIgnoringCase node.key key

/-- The entry at the end of a path of keys, from the top level down.  The first entry that fits each
key is followed, and no other. -/
def findPath? : (nodes : List MenuNode) → (path : List String) → Option MenuNode
  | _, [] => none
  | nodes, [key] => entryOfKey? nodes key
  | nodes, key :: next :: path =>
      (entryOfKey? nodes key).bind fun node => findPath? node.children (next :: path)

end FieldMenu
