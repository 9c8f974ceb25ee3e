import FieldMenu.Text.Lowercase
import FieldMenu.Text.Split

/-! Values that hold several tokens, with a semicolon between them. -/

namespace FieldMenu.Token

open Text

def separator : Char := ';'

def joiner : String := "; "

def split (value : String) : List String :=
  fieldsOf separator value

def listOf (value : Option String) : List String :=
  (value.map split).getD []

def join (tokens : List String) : String :=
  joinWith joiner tokens

def contains (value : Option String) (token : String) : Bool :=
  (listOf value).any fun known => sameIgnoringCase known token

/-- The value with the token added behind the others; none when the value holds it already. -/
def add? (value : Option String) (token : String) : Option String :=
  if contains value token then none else some (join (listOf value ++ [token]))

theorem add?_eq_none_iff {value : Option String} {token : String} :
    add? value token = none ↔ contains value token = true := by
  simp [add?]

inductive Removal where
  | unchanged
  | replace (value : String)
  | removeField
deriving DecidableEq, Repr

def remove (value : Option String) (token : String) : Removal :=
  if contains value token then
    let kept := (listOf value).filter fun known => !sameIgnoringCase known token
    if kept.isEmpty then .removeField else .replace (join kept)
  else .unchanged

theorem remove_eq_unchanged_iff {value : Option String} {token : String} :
    remove value token = .unchanged ↔ contains value token = false := by
  unfold remove
  cases contains value token with
  | false => simp
  | true =>
      simp only [if_true]
      split <;> simp

end FieldMenu.Token
