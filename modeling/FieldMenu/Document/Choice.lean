import FieldMenu.Text.Blank
import FieldMenu.Text.Lowercase

namespace FieldMenu

def settingWord (text : String) : String :=
  String.ofList (Text.asciiLowered (Text.trim text.toList))

inductive Logic where
  | all
  | any
deriving DecidableEq, Repr, Inhabited

namespace Logic

def name : Logic → String
  | .all => "and"
  | .any => "or"

def parse? (text : String) : Option Logic :=
  [("and", all), ("or", any)].lookup (settingWord text)

end Logic

/-- How a rule compares an attribute; an unrecognized word is kept as it was written. -/
inductive Operator where
  | equals
  | notEquals
  | contains
  | notContains
  | exists
  | notExists
  | isIn
  | notIn
  | unrecognized (word : String)
deriving DecidableEq, Repr, Inhabited

namespace Operator

def name : Operator → String
  | .equals => "equals"
  | .notEquals => "notEquals"
  | .contains => "contains"
  | .notContains => "notContains"
  | .exists => "exists"
  | .notExists => "notExists"
  | .isIn => "in"
  | .notIn => "notIn"
  | .unrecognized word => word

def parse (text : String) : Operator :=
  ([("equals", equals), ("notequals", notEquals), ("contains", contains),
    ("notcontains", notContains), ("exists", Operator.exists), ("notexists", notExists),
    ("in", isIn), ("notin", notIn)].lookup (settingWord text)).getD (unrecognized text)

def takesValue : Operator → Bool
  | .exists | .notExists => false
  | _ => true

end Operator

inductive Operation where
  | toggle
  | set
  | remove
deriving DecidableEq, Repr, Inhabited

namespace Operation

def name : Operation → String
  | .toggle => "toggle"
  | .set => "set"
  | .remove => "remove"

def parse? (text : String) : Option Operation :=
  [("toggle", toggle), ("set", set), ("remove", remove)].lookup (settingWord text)

end Operation

inductive ItemMode where
  | simple
  | multiValue
deriving DecidableEq, Repr, Inhabited

namespace ItemMode

def name : ItemMode → String
  | .simple => "simple"
  | .multiValue => "multiValue"

def parse? (text : String) : Option ItemMode :=
  [("simple", simple), ("multivalue", multiValue)].lookup (settingWord text)

end ItemMode

inductive ValueSource where
  | config
  | field
deriving DecidableEq, Repr, Inhabited

namespace ValueSource

def name : ValueSource → String
  | .config => "config"
  | .field => "field"

def parse? (text : String) : Option ValueSource :=
  [("config", config), ("field", field)].lookup (settingWord text)

end ValueSource

inductive Indicator where
  | symbol
  | count
deriving DecidableEq, Repr, Inhabited

namespace Indicator

def name : Indicator → String
  | .symbol => "symbol"
  | .count => "count"

def parse? (text : String) : Option Indicator :=
  [("symbol", symbol), ("count", count)].lookup (settingWord text)

end Indicator

inductive SortOrder where
  | alphabetical
  | reverseAlphabetical
  | mostCommon
  | leastCommon
  | unsorted
deriving DecidableEq, Repr, Inhabited

namespace SortOrder

def name : SortOrder → String
  | .alphabetical => "alphabetical"
  | .reverseAlphabetical => "reverseAlphabetical"
  | .mostCommon => "mostCommon"
  | .leastCommon => "leastCommon"
  | .unsorted => "none"

def parse? (text : String) : Option SortOrder :=
  [("alphabetical", alphabetical), ("reversealphabetical", reverseAlphabetical),
    ("mostcommon", mostCommon), ("leastcommon", leastCommon), ("none", unsorted)].lookup
      (settingWord text)

end SortOrder

inductive IconCascade where
  | inherit
  | stop
deriving DecidableEq, Repr, Inhabited

namespace IconCascade

def name : IconCascade → String
  | .inherit => "inherit"
  | .stop => "none"

def parse? (text : String) : Option IconCascade :=
  [("inherit", inherit), ("none", stop)].lookup (settingWord text)

end IconCascade

inductive ActionKind where
  | set
  | remove
deriving DecidableEq, Repr, Inhabited

namespace ActionKind

def name : ActionKind → String
  | .set => "set"
  | .remove => "remove"

def parse? (text : String) : Option ActionKind :=
  [("set", set), ("remove", remove)].lookup (settingWord text)

end ActionKind

end FieldMenu
