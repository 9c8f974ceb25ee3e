import FieldMenu.Text.CaseTable

/-!
Capital sigma becomes `ς` at the end of a word of more than one letter, and `σ` everywhere else.
-/

namespace FieldMenu.Text

def inRanges (c : Char) : List (Nat × Nat) → Bool
  | [] => false
  | (first, last) :: ranges =>
      if c.toNat < first then false else c.toNat ≤ last || inRanges c ranges

def isCased (c : Char) : Bool :=
  inRanges c casedRanges

def isCaseIgnorable (c : Char) : Bool :=
  inRanges c caseIgnorableRanges

namespace CaseRun

def covers (run : CaseRun) (code : Nat) : Bool :=
  run.first ≤ code && code ≤ run.last && (code - run.first) % run.stride == 0

def apply (run : CaseRun) (code : Nat) : Char :=
  Char.ofNat (code + run.shift).toNat

end CaseRun

def lowerChar (c : Char) : List Char :=
  if c.toNat < 0x80 then [c.toLower]
  else if c = 'İ' then ['i', '\u0307']
  else
    match caseRuns.find? fun run => run.covers c.toNat with
    | some run => [run.apply c.toNat]
    | none => [c]

/-- The next character that is not case-ignorable is a cased one. -/
def casedFollows (text : List Char) : Bool :=
  match text.dropWhile isCaseIgnorable with
  | [] => false
  | c :: _ => isCased c

/-- Lowercases `text`, where `casedBefore` says that the last character before it that is not
case-ignorable was a cased one. -/
def lowercaseAfter (casedBefore : Bool) : List Char → List Char
  | [] => []
  | c :: rest =>
      let mapped :=
        if c = 'Σ' then [if casedBefore && !casedFollows rest then 'ς' else 'σ'] else lowerChar c
      mapped ++ lowercaseAfter (if isCaseIgnorable c then casedBefore else isCased c) rest

def lowercase (text : List Char) : List Char :=
  lowercaseAfter false text

def lowered (text : String) : String :=
  String.ofList (lowercase text.toList)

def sameIgnoringCase (left right : String) : Bool :=
  lowered left == lowered right

theorem sameIgnoringCase_iff {left right : String} :
    sameIgnoringCase left right = true ↔ lowered left = lowered right := by
  simp [sameIgnoringCase]

theorem sameIgnoringCase_eq_false_iff {left right : String} :
    sameIgnoringCase left right = false ↔ lowered left ≠ lowered right := by
  simp [sameIgnoringCase]

@[simp] theorem sameIgnoringCase_self (text : String) : sameIgnoringCase text text = true :=
  sameIgnoringCase_iff.mpr rfl

def asciiLowered (text : List Char) : List Char :=
  text.map Char.toLower

end FieldMenu.Text
