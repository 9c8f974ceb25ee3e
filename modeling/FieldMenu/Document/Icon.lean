import FieldMenu.Scan.Member
import FieldMenu.Text.Lowercase

namespace FieldMenu

inductive Icon where
  | default
  | delete
  | media (name : String)
  | platform (name : String)
  | path (file : String)
  | playlist (name : String)
  | unrecognized (text : String)
deriving DecidableEq, Repr, Inhabited

namespace Icon

def namedKinds : List (String × (String → Icon)) :=
  [("media:", media), ("platform:", platform), ("path:", path), ("playlist:", playlist)]

def ofKind? (text : List Char) (kind : String × (String → Icon)) : Option Icon :=
  (Scan.afterLead? kind.1.toList text).map fun name => kind.2 (String.ofList (Text.trim name))

def parse (spec : String) : Icon :=
  let text := Text.trim spec.toList
  if Text.asciiLowered text = "default".toList then default
  else if Text.asciiLowered text = "delete".toList then delete
  else (namedKinds.findSome? (ofKind? text)).getD (unrecognized (String.ofList text))

def text : Icon → String
  | .default => "default"
  | .delete => "delete"
  | .media name => "media:" ++ name
  | .platform name => "platform:" ++ name
  | .path file => "path:" ++ file
  | .playlist name => "playlist:" ++ name
  | .unrecognized text => text

/-- A kind of icon that new documents should not use. -/
def isDeprecated : Icon → Bool
  | .playlist _ => true
  | _ => false

end Icon

end FieldMenu
