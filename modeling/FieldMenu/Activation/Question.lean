import FieldMenu.Menu.Node

namespace FieldMenu

structure Question where
  batchSize : Nat
  forced : Bool
  description : String
deriving DecidableEq, Repr

namespace Question

def message (question : Question) : String :=
  if question.batchSize = 1 then "Are you sure you want to " ++ question.description ++ "?"
  else
    "Are you sure you want to " ++ question.description ++ " for " ++
      toString question.batchSize ++ " entries?"

/-- The user has to be asked: always for some entries, and for the others where the document asks
for it from a certain number of entities on. -/
def isRequired (question : Question) (settings : Settings) : Bool :=
  question.forced ||
    (settings.confirmBulkChanges && settings.confirmBulkThreshold ≤ question.batchSize)

end Question

namespace MenuAction

def description : MenuAction → String
  | .toggle field _ _ _ _ | .option field _ _ _ => "modify '" ++ field ++ "'"
  | .clearField field => "clear '" ++ field ++ "'"
  | .clearAll => "clear ALL custom fields"

def isForced : MenuAction → Bool
  | .toggle _ _ _ requireConfirmation _ | .option _ _ requireConfirmation _ => requireConfirmation
  | .clearField _ => false
  | .clearAll => true

def question (action : MenuAction) (batchSize : Nat) : Question :=
  { batchSize, forced := action.isForced, description := action.description }

end MenuAction

end FieldMenu
