import FieldMenu.Json.Value

namespace FieldMenu.Json

def hexPair (code : Nat) : String :=
  String.ofList [Nat.digitChar (code / 16 % 16), Nat.digitChar (code % 16)]

/-- A character as it stands inside a JSON string: quote, backslash and control characters are
escaped, and nothing else. -/
def escapeChar (c : Char) : String :=
  if c = '"' then "\\\""
  else if c = '\\' then "\\\\"
  else if c = '\n' then "\\n"
  else if c = '\r' then "\\r"
  else if c = '\t' then "\\t"
  else if c = '\x08' then "\\b"
  else if c = '\x0c' then "\\f"
  else if c.toNat < 0x20 then "\\u00" ++ hexPair c.toNat
  else c.toString

def quote (text : String) : String :=
  text.foldl (fun written c => written ++ escapeChar c) "\"" ++ "\""

mutual

def compact : Json → String
  | .null => "null"
  | .bool value => if value then "true" else "false"
  | .int value => toString value
  | .real spelling | .unreadable spelling => spelling
  | .string value => quote value
  | .array items => "[" ++ compactItems items ++ "]"
  | .object members => "\x7b" ++ compactMembers members ++ "\x7d"

def compactItems : List Json → String
  | [] => ""
  | [item] => compact item
  | item :: items => compact item ++ "," ++ compactItems items

def compactMembers : List (String × Json) → String
  | [] => ""
  | [(name, value)] => quote name ++ ":" ++ compact value
  | (name, value) :: members =>
      quote name ++ ":" ++ compact value ++ "," ++ compactMembers members

end

def indent (depth : Nat) : String :=
  String.ofList (List.replicate (2 * depth) ' ')

mutual

/-- The indented text of a value whose first line stands `depth` levels in. -/
def indentedAt (depth : Nat) : Json → String
  | .array [] => "[]"
  | .array (item :: items) =>
      "[\n" ++ indentedItems (depth + 1) (item :: items) ++ "\n" ++ indent depth ++ "]"
  | .object [] => "\x7b\x7d"
  | .object (member :: members) =>
      "\x7b\n" ++ indentedMembers (depth + 1) (member :: members) ++ "\n" ++ indent depth ++ "\x7d"
  | .null => "null"
  | .bool value => if value then "true" else "false"
  | .int value => toString value
  | .real spelling | .unreadable spelling => spelling
  | .string value => quote value

def indentedItems (depth : Nat) : List Json → String
  | [] => ""
  | [item] => indent depth ++ indentedAt depth item
  | item :: items => indent depth ++ indentedAt depth item ++ ",\n" ++ indentedItems depth items

def indentedMembers (depth : Nat) : List (String × Json) → String
  | [] => ""
  | [(name, value)] => indent depth ++ quote name ++ ": " ++ indentedAt depth value
  | (name, value) :: members =>
      indent depth ++ quote name ++ ": " ++ indentedAt depth value ++ ",\n" ++
        indentedMembers depth members

end

def indented (json : Json) : String :=
  indentedAt 0 json

end FieldMenu.Json
