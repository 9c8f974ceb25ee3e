import FieldMenu.Text.Blank
import FieldMenu.Scan.Bracket

/-!
Nothing is parsed: the first occurrence of the quoted key that a colon follows is the member's.
-/

namespace FieldMenu.Scan

open FieldMenu.Text

structure Member where
  before : List Char
  value : List Char
deriving DecidableEq, Repr

/-- What follows `lead`, when `text` begins with it in any ASCII letter case. -/
def afterLead? : (lead text : List Char) → Option (List Char)
  | [], text => some text
  | _ :: _, [] => none
  | l :: lead, c :: text => if l.toLower = c.toLower then afterLead? lead text else none

theorem afterLead?_eq_some {lead text rest : List Char} (h : afterLead? lead text = some rest) :
    ∃ taken, text = taken ++ rest ∧ taken.map Char.toLower = lead.map Char.toLower := by
  induction lead generalizing text with
  | nil =>
      cases h
      exact ⟨[], rfl, rfl⟩
  | cons l lead ih =>
      cases text with
      | nil => cases h
      | cons c text =>
          simp only [afterLead?] at h
          split at h
          · rename_i same
            obtain ⟨taken, rfl, letters⟩ := ih h
            exact ⟨c :: taken, rfl, by simp [letters, same]⟩
          · cases h

def afterColon? (text : List Char) : Option (List Char) :=
  match trimStart text with
  | ':' :: value => some value
  | _ => none

theorem afterColon?_suffix {text value : List Char} (h : afterColon? text = some value) :
    value <:+ text := by
  unfold afterColon? at h
  split at h
  · rename_i trimmed
    cases h
    have whole := trimStart_suffix text
    rw [trimmed] at whole
    exact (List.suffix_cons ':' value).trans whole
  · cases h

/-- Looks for a member from the present place on.  `quoted` is the key with its quotes, `skip` the
number of characters left of an occurrence that no colon follows, and `before` what has been passed,
last character first. -/
def memberFrom? (quoted : List Char) :
    (skip : Nat) → (before : List Char) → List Char → Option Member
  | _, _, [] => none
  | skip + 1, before, c :: rest => memberFrom? quoted skip (c :: before) rest
  | 0, before, c :: rest =>
      match afterLead? quoted (c :: rest) with
      | none => memberFrom? quoted 0 (c :: before) rest
      | some tail =>
          match afterColon? tail with
          | some value => some { before := before.reverse, value := value }
          | none => memberFrom? quoted (quoted.length - 1) (c :: before) rest

theorem memberFrom?_eq_some {quoted : List Char} {skip : Nat} {before text : List Char}
    {member : Member} (h : memberFrom? quoted skip before text = some member) :
    ∃ middle, before.reverse ++ text = member.before ++ middle ++ member.value := by
  induction text generalizing skip before with
  | nil => cases skip <;> simp [memberFrom?] at h
  | cons c rest ih =>
      have step {skip : Nat} (later : memberFrom? quoted skip (c :: before) rest = some member) :
          ∃ middle, before.reverse ++ c :: rest = member.before ++ middle ++ member.value := by
        simpa using ih later
      cases skip with
      | succ skip => exact step (by simpa only [memberFrom?] using h)
      | zero =>
          simp only [memberFrom?] at h
          split at h
          · exact step h
          · rename_i tail lead
            split at h
            · rename_i value colon
              cases h
              obtain ⟨taken, text_eq, _⟩ := afterLead?_eq_some lead
              obtain ⟨gap, tail_eq⟩ := afterColon?_suffix colon
              exact ⟨taken ++ gap, by simp [text_eq, ← tail_eq]⟩
            · exact step h

def quotedKey (key : String) : List Char :=
  '"' :: (key.toList ++ ['"'])

def member? (text : List Char) (key : String) : Option Member :=
  memberFrom? (quotedKey key) 0 [] text

/-- What stands behind the colon of the first member of that key, without leading white space. -/
def valueText? (text : List Char) (key : String) : Option (List Char) :=
  (member? text key).map fun member => trimStart member.value

end FieldMenu.Scan
