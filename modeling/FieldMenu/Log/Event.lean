import FieldMenu.Json.Write
import FieldMenu.Log.Code
import FieldMenu.Log.Level

namespace FieldMenu.Log

/-- Named details, sorted by name, each name once. -/
abbrev Context := List (String × String)

def Context.insert (name value : String) : Context → Context
  | [] => [(name, value)]
  | (known, kept) :: rest =>
      if name = known then (name, value) :: rest
      else if name < known then (name, value) :: (known, kept) :: rest
      else (known, kept) :: Context.insert name value rest

structure Event where
  level : Level
  code : Code
  message : String
  context : Context := []
deriving DecidableEq, Repr, Inhabited

namespace Event

def make (level : Level) (code : Code) (message : String) (details : List (String × String) := []) :
    Event :=
  { level, code, message
    context := details.foldl (fun context detail => context.insert detail.1 detail.2) [] }

def error (code : Code) (message : String) (details : List (String × String) := []) : Event :=
  make .error code message details

def warning (code : Code) (message : String) (details : List (String × String) := []) : Event :=
  make .warning code message details

def info (code : Code) (message : String) (details : List (String × String) := []) : Event :=
  make .info code message details

def debug (code : Code) (message : String) (details : List (String × String) := []) : Event :=
  make .debug code message details

def details (event : Event) : String :=
  String.join (event.context.map fun detail => " " ++ detail.1 ++ "=" ++ detail.2)

def line (event : Event) : String :=
  "[" ++ event.level.name ++ "] " ++ event.code.text ++ " - " ++ event.message ++ event.details

def plainLine (event : Event) : String :=
  event.code.text ++ " " ++ event.message ++ event.details

def toJson (event : Event) (timestamp : String) : Json :=
  .object <|
    [("category", .string event.code.category), ("code", .string event.code.text)] ++
    (if event.context.isEmpty then []
      else [("context", .object (event.context.map fun detail => (detail.1, .string detail.2)))]) ++
    [("level", .string event.level.name), ("message", .string event.message),
      ("severity", .string event.code.severity.name), ("timestamp", .string timestamp)]

end Event

end FieldMenu.Log
