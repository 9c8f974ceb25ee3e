import FieldMenu.Document.Basic
import FieldMenu.Record.Basic
import FieldMenu.Text.Occurrence

/-! An entry shows when one entity of the selection meets all its condition groups. -/

namespace FieldMenu

open Text

namespace Operator

/-- Both values are absent, or both are there and agree. -/
def valuesEqual : Option String → Option String → Bool
  | some actual, some expected => sameIgnoringCase actual expected
  | none, none => true
  | _, _ => false

def valueContains : Option String → Option String → Bool
  | some actual, some expected => occursIn (lowercase expected.toList) (lowercase actual.toList)
  | _, _ => false

def valueInList : Option String → Option String → Bool
  | some actual, some expected =>
      (fieldsOf ',' expected).any fun value => sameIgnoringCase value actual
  | _, _ => false

def valueExists : Option String → Bool
  | some actual => !actual.isEmpty
  | none => false

def valueMissing : Option String → Bool
  | some actual => actual.isEmpty
  | none => true

/-- Compares the actual value of an attribute with the one that a rule expects.  An operator that is
not recognized always passes. -/
def compare (operator : Operator) (actual expected : Option String) : Bool :=
  match operator with
  | .equals => valuesEqual actual expected
  | .notEquals => !valuesEqual actual expected
  | .contains => valueContains actual expected
  | .notContains => !valueContains actual expected
  | .exists => valueExists actual
  | .notExists => valueMissing actual
  | .isIn => valueInList actual expected
  | .notIn => !valueInList actual expected
  | .unrecognized _ => true

end Operator

def Rule.passes (rule : Rule) (record : Record) : Bool :=
  rule.operator.compare (record.attribute? rule.field) rule.value

def ConditionGroup.passes (group : ConditionGroup) (record : Record) : Bool :=
  match group.logic with
  | .all => group.rules.all fun rule => rule.passes record
  | .any => group.rules.any fun rule => rule.passes record

def shows (conditions : List ConditionGroup) (selection : List Record) : Bool :=
  conditions.isEmpty || selection.any fun record => conditions.all fun group => group.passes record

end FieldMenu
