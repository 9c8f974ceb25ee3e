import FieldMenu.Pattern.Mode
import FieldMenu.Pattern.Nesting
import FieldMenu.Pattern.Read
import FieldMenu.Pattern.Space

namespace FieldMenu.Pattern

mutual

def needsWords : Pattern → Bool
  | .empty | .chars _ => false
  | .look (.word _ unicode) => unicode
  | .look _ => false
  | .group inner | .repeated _ _ inner => needsWords inner
  | .sequence parts | .choice parts => anyNeedsWords parts

def anyNeedsWords : List Pattern → Bool
  | [] => false
  | part :: parts => needsWords part || anyNeedsWords parts

end

inductive Refusal where
  | fault (text : List Char) (fault : Fault)
  | tooLarge
  | wordsUnknown
deriving DecidableEq, Repr

def Refusal.message : Refusal → String
  | .fault text found => found.report text
  | .tooLarge => "Compiled regex exceeds size limit of " ++ toString spaceLimit ++ " bytes."
  | .wordsUnknown => "error building NFA"

def meaning (text : List Char) : Except Fault Pattern := do
  let tree ← readTree text
  tree.checkNesting 0
  let (pattern, _) ← tree.resolve {}
  pure pattern

def parse (text : List Char) : Except Refusal Pattern :=
  match meaning text with
  | .error fault => .error (.fault text fault)
  | .ok pattern =>
      if !pattern.fits then .error .tooLarge
      else if pattern.needsWords then .error .wordsUnknown
      else .ok pattern

end FieldMenu.Pattern
