import FieldMenu.Pattern.Fault
import FieldMenu.Pattern.Tree

namespace FieldMenu.Pattern

def nestLimit : Nat := 250

def enter (depth : Nat) (span : Span) : Except Fault Nat :=
  if depth < nestLimit then .ok (depth + 1)
  else .error { cause := .nestLimitExceeded nestLimit, span }

mutual

def ClassTree.checkNesting (depth : Nat) : ClassTree → Except Fault Unit
  | .bracketed span _ inner => do inner.checkNesting (← enter depth span)
  | .union span items => do ClassTree.checkAll (← enter depth span) items
  | .combined span _ left right => do
      let inside ← enter depth span
      left.checkNesting inside
      right.checkNesting inside
  | .empty _ | .letter _ | .range _ _ _ | .named _ _ _ | .shorthand _ _ _ | .property _ _ _ =>
      .ok ()

def ClassTree.checkAll (depth : Nat) : List ClassTree → Except Fault Unit
  | [] => .ok ()
  | item :: items => do
      item.checkNesting depth
      ClassTree.checkAll depth items

end

mutual

def Tree.checkNesting (depth : Nat) : Tree → Except Fault Unit
  | .bracketed span _ inner => do inner.checkNesting (← enter depth span)
  | .repetition span _ _ inner | .group span _ inner => do
      inner.checkNesting (← enter depth span)
  | .alternation span parts | .concat span parts => do
      Tree.checkAll (← enter depth span) parts
  | .empty _ | .flags _ _ | .atom _ => .ok ()

def Tree.checkAll (depth : Nat) : List Tree → Except Fault Unit
  | [] => .ok ()
  | part :: parts => do
      part.checkNesting depth
      Tree.checkAll depth parts

end

end FieldMenu.Pattern
