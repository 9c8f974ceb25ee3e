import FieldMenu.Text.Blank
import FieldMenu.Text.Lowercase

namespace FieldMenu.Log

inductive Level where
  | error
  | warning
  | info
  | debug
deriving DecidableEq, Repr, Inhabited

namespace Level

def rank : Level → Nat
  | .error => 0
  | .warning => 1
  | .info => 2
  | .debug => 3

def name : Level → String
  | .error => "ERROR"
  | .warning => "WARN"
  | .info => "INFO"
  | .debug => "DEBUG"

def passes (level threshold : Level) : Bool :=
  level.rank ≤ threshold.rank

def ofName? (text : String) : Option Level :=
  let word := String.ofList (Text.asciiLowered (Text.trim text.toList))
  [("error", error), ("warning", warning), ("warn", warning), ("info", info), ("debug", debug),
    ("trace", debug)].lookup word

def parse? (text : String) : Option Level :=
  [("0", error), ("1", warning), ("2", info), ("3", debug)].lookup (Text.trimmed text)
    |>.orElse fun _ => ofName? text

end Level

end FieldMenu.Log
