import FieldMenu.Document.Choice

namespace FieldMenu

structure SelectionState where
  matching : Nat
  total : Nat
deriving DecidableEq, Repr

namespace SelectionState

def count {α : Type} (selection : List α) (holds : α → Bool) : SelectionState :=
  { matching := selection.countP holds, total := selection.length }

/-- Every entity matches; so it is as well where there is none. -/
def isAll (state : SelectionState) : Bool :=
  state.matching == state.total

def isPartial (state : SelectionState) : Bool :=
  0 < state.matching && state.matching < state.total

/-- The caption of an entry.  The label for the toggled state stands alone where all match; a count
is shown for more than one entity only. -/
def caption (state : SelectionState) (label : String) (toggledLabel : Option String)
    (indicator : Indicator) : String :=
  match toggledLabel, state.isAll with
  | some toggled, true => toggled
  | _, _ =>
      if indicator = .count ∧ 1 < state.total then
        label ++ " (" ++ toString state.matching ++ " of " ++ toString state.total ++ ")"
      else if state.isAll then "✓ " ++ label
      else if state.isPartial && 1 < state.total then "◐ " ++ label
      else label

end SelectionState

end FieldMenu
