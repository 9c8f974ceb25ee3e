import FieldMenu.Json.Write
import FieldMenu.Log.Filter

namespace FieldMenu.Log

structure Stamp where
  line : String
  detail : String
deriving DecidableEq, Repr

structure Output where
  filter : Filter
  threshold : Level
  structured : Bool
deriving Repr

namespace Output

def part : String := "qft::log_bridge"

def hanging (text : String) : String :=
  String.ofList (text.toList.flatMap fun c =>
    if c = '\n' then ['\n', ' ', ' ', ' ', ' '] else [c])

def levelColumn (level : Level) : String :=
  level.name ++ String.ofList (List.replicate (5 - level.name.length) ' ')

def text? (output : Output) (stamp : Stamp) (event : Event) : Option String :=
  let body :=
    if output.structured then (event.toJson stamp.detail).compact else event.plainLine
  if event.level.passes output.threshold &&
      output.filter.shows part.toList event.level body then
    some ("[" ++ stamp.line ++ " " ++ levelColumn event.level ++ "] " ++ hanging body ++ "\n")
  else none

end Output

end FieldMenu.Log
