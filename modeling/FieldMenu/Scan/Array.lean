import FieldMenu.Scan.Scalar

namespace FieldMenu.Scan

open FieldMenu.Text

def arrayParts? (value : List Char) : Option (List Char × List Char) :=
  match trimStart value with
  | '[' :: rest => enclosed? '[' ']' 0 .outside [] rest
  | _ => none

/-- The content of the array bound to `key`; none when it is never closed. -/
def arrayBody? (text : List Char) (key : String) : Option (List Char) :=
  (member? text key).bind fun member => (arrayParts? member.value).map Prod.fst

def objectArray (text : List Char) (key : String) : List (List Char) :=
  ((arrayBody? text key).map objects).getD []

/-- The state of a sweep for strings: the raw content being read stands in `current`, last
character first, and the complete ones in `found`, last string first. -/
structure StringSweep where
  quoting : Quoting := .outside
  current : List Char := []
  found : List (List Char) := []

namespace StringSweep

def step (sweep : StringSweep) (c : Char) : StringSweep :=
  let quoting := sweep.quoting.step c
  match sweep.quoting, quoting with
  | .outside, _ => { sweep with quoting := quoting, current := [] }
  | .inside, .outside => { quoting := quoting, found := sweep.current.reverse :: sweep.found }
  | _, _ => { sweep with quoting := quoting, current := c :: sweep.current }

end StringSweep

/-- Every quoted string of a text, at any depth, in order. -/
def strings (text : List Char) : List String :=
  (text.foldl StringSweep.step {}).found.reverse.map fun raw => String.ofList (unescape raw)

def stringArray (text : List Char) (key : String) : List String :=
  ((arrayBody? text key).map strings).getD []

/-- Text without the comma at its end, and without the white space behind it; text that ends
otherwise is kept whole. -/
def withoutFinalComma (text : List Char) : List Char :=
  match text.reverse.dropWhile isBlank with
  | ',' :: kept => kept.reverse
  | _ => text

def closeGap (before after : List Char) : List Char :=
  match trimStart after with
  | ',' :: following => before ++ trimStart following
  | _ => withoutFinalComma before ++ after

def withoutArray (text : List Char) (key : String) : List Char :=
  match member? text key with
  | none => text
  | some member =>
      match arrayParts? member.value with
      | none => text
      | some parts => closeGap member.before parts.2

def withoutArrays (text : List Char) (keys : List String) : List Char :=
  keys.foldl withoutArray text

end FieldMenu.Scan
