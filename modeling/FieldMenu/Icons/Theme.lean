import FieldMenu.Document.Icon
import FieldMenu.Files.Directory
import FieldMenu.Log.Event
import FieldMenu.Menu.Node

namespace FieldMenu

inductive IconError where
  | notFound (spec : String)
  | unsupported (spec : String)
  | load (spec reason : String)
deriving DecidableEq, Repr

def IconError.message : IconError → String
  | .notFound spec => "Icon '" ++ spec ++ "' not found"
  | .unsupported spec => "Icon '" ++ spec ++ "' is not supported"
  | .load spec reason => "Failed to load icon '" ++ spec ++ "': " ++ reason

/-- A path below another; one that begins with a slash stands for itself. -/
def joinPath (base path : String) : String :=
  if path.toList.head? = some '/' then path
  else if base.isEmpty ∨ base.toList.getLast? = some '/' then base ++ path
  else base ++ "/" ++ path

structure Theme where
  directory : Directory
  root : String

namespace Theme

def candidate (theme : Theme) : Icon → Except IconError String
  | .default => .ok (joinPath theme.root "default.png")
  | .delete => .ok (joinPath theme.root "delete.png")
  | .media name => .ok (joinPath (joinPath theme.root "media") (name ++ ".png"))
  | .platform name => .ok (joinPath (joinPath theme.root "platforms") (name ++ ".png"))
  | .playlist name => .ok (joinPath (joinPath theme.root "playlists") (name ++ ".png"))
  | .path file => .ok (joinPath theme.root file)
  | .unrecognized text => .error (.unsupported text)

def image (theme : Theme) (icon : Icon) : Except IconError String := do
  let path ← theme.candidate icon
  if theme.directory.isFile path then pure path else throw (.notFound icon.text)

end Theme

def Icon.unavailableEvent (icon : Icon) (error : IconError) : Log.Event :=
  .debug .iconUnavailable "Icon unavailable; showing none"
    [("spec", icon.text), ("error", error.message)]

def MenuNode.imageText (theme : Option Theme) (node : MenuNode) : String × List Log.Event :=
  match theme, node.icon with
  | some theme, some icon =>
      match theme.image icon with
      | .ok path => ("  [" ++ path ++ "]", [])
      | .error error => ("", [icon.unavailableEvent error])
  | _, _ => ("", [])

structure Outline where
  text : String := ""
  events : List Log.Event := []

def Outline.append (first second : Outline) : Outline :=
  { text := first.text ++ second.text, events := first.events ++ second.events }

mutual

def MenuNode.outline (theme : Option Theme) (depth : Nat) : MenuNode → Outline
  | { key, caption, icon, kind, children } =>
      let (image, events) := MenuNode.imageText theme { key, caption, icon, kind }
      let line := String.ofList (List.replicate (2 * depth) ' ') ++ caption ++ image ++ "\n"
      Outline.append { text := line, events } (outlineAt theme (depth + 1) children)

def outlineAt (theme : Option Theme) (depth : Nat) : List MenuNode → Outline
  | [] => {}
  | node :: nodes => (node.outline theme depth).append (outlineAt theme depth nodes)

end

mutual

def MenuNode.icons : MenuNode → List Icon
  | { icon, children, .. } => icon.toList ++ menuIcons children

def menuIcons : List MenuNode → List Icon
  | [] => []
  | node :: nodes => node.icons ++ menuIcons nodes

end

def menuOutline (theme : Option Theme) (nodes : List MenuNode) : Outline :=
  outlineAt theme 0 nodes

end FieldMenu
