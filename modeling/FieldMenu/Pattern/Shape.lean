import FieldMenu.Pattern.Basic

namespace FieldMenu.Pattern

mutual

def isWeightless : Pattern → Bool
  | .empty | .look _ => true
  | .chars _ => false
  | .group inner | .repeated _ _ inner => isWeightless inner
  | .sequence parts | .choice parts => areWeightless parts

def areWeightless : List Pattern → Bool
  | [] => true
  | part :: parts => isWeightless part && areWeightless parts

end

/-- A pattern repeated.  What takes up no text is taken once at most, and nothing is what is taken
no times. -/
def times (inner : Pattern) (least : Nat) (most : Option Nat) : Pattern :=
  let (least, most) :=
    if isWeightless inner then (min least 1, some (min (most.getD 1) 1)) else (least, most)
  if most = some 0 then .empty
  else if least = 1 ∧ most = some 1 then inner
  else .repeated least most inner

def isEmpty : Pattern → Bool
  | .empty => true
  | _ => false

def inOrder (parts : List Pattern) : Pattern :=
  match parts.filter fun part => !part.isEmpty with
  | [] => .empty
  | [part] => part
  | parts => .sequence parts

end FieldMenu.Pattern
