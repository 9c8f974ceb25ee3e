import FieldMenu.Proofs.Scan.Passage

namespace FieldMenu.Scan

open Text

/-- The text begins with the quoted key, in any letter case, and goes on with `behind`. -/
def SpellsKey (key : String) (text behind : List Char) : Prop :=
  ∃ spelled, text = spelled ++ behind ∧ asciiLowered spelled = asciiLowered (quotedKey key)

/-- The text begins with the quoted key and a colon, and goes on with `value`. -/
def KeyAt (key : String) (text value : List Char) : Prop :=
  ∃ gap, (∀ c ∈ gap, isBlank c = true) ∧ SpellsKey key text (gap ++ ':' :: value)

section

variable {key : String} {text behind value : List Char}

theorem afterLead?_of_sameLetters {lead spelled : List Char}
    (same : asciiLowered spelled = asciiLowered lead) (rest : List Char) :
    afterLead? lead (spelled ++ rest) = some rest := by
  induction lead generalizing spelled with
  | nil =>
      obtain rfl : spelled = [] := List.map_eq_nil_iff.mp same
      rfl
  | cons l lead ih =>
      cases spelled with
      | nil => cases same
      | cons c spelled =>
          obtain ⟨first, others⟩ := List.cons.inj same
          rw [List.cons_append, afterLead?, if_pos first.symm]
          exact ih others

theorem spellsKey_iff :
    SpellsKey key text behind ↔ afterLead? (quotedKey key) text = some behind := by
  constructor
  · rintro ⟨spelled, rfl, same⟩
    exact afterLead?_of_sameLetters same behind
  · intro found
    obtain ⟨spelled, whole, same⟩ := afterLead?_eq_some found
    exact ⟨spelled, whole, same⟩

theorem afterColon?_iff :
    afterColon? behind = some value ↔
      ∃ gap, (∀ c ∈ gap, isBlank c = true) ∧ behind = gap ++ ':' :: value := by
  constructor
  · intro found
    refine ⟨behind.takeWhile isBlank, ?_, ?_⟩
    · exact fun c member => List.all_eq_true.mp List.all_takeWhile c member
    · unfold afterColon? at found
      split at found
      · rename_i trimmed
        cases found
        rw [trimStart] at trimmed
        rw [← trimmed, List.takeWhile_append_dropWhile]
      · cases found
  · rintro ⟨gap, blank, rfl⟩
    simp [afterColon?_gap blank (show isMark ':' = true from rfl)]

theorem keyAt_iff :
    KeyAt key text value ↔
      ∃ behind, afterLead? (quotedKey key) text = some behind ∧
        afterColon? behind = some value := by
  constructor
  · rintro ⟨gap, blank, spells⟩
    exact ⟨_, spellsKey_iff.mp spells, afterColon?_iff.mpr ⟨gap, blank, rfl⟩⟩
  · rintro ⟨behind, fits, colon⟩
    obtain ⟨gap, blank, rfl⟩ := afterColon?_iff.mp colon
    exact ⟨gap, blank, spellsKey_iff.mpr fits⟩

theorem exists_keyAt_of_memberFrom? {skip : Nat} {before : List Char} {member : Member}
    (found : memberFrom? (quotedKey key) skip before text = some member) :
    ∃ late, late <:+ text ∧ KeyAt key late member.value := by
  induction text generalizing skip before with
  | nil => cases skip <;> cases found
  | cons c text ih =>
      have step {skip : Nat}
          (later : memberFrom? (quotedKey key) skip (c :: before) text = some member) :
          ∃ late, late <:+ c :: text ∧ KeyAt key late member.value := by
        obtain ⟨late, within, here⟩ := ih later
        exact ⟨late, within.trans (List.suffix_cons c text), here⟩
      cases skip with
      | succ skip => exact step found
      | zero =>
          simp only [memberFrom?] at found
          split at found
          · exact step found
          · rename_i behind fits
            split at found
            · rename_i value colon
              cases found
              exact ⟨c :: text, List.suffix_refl _, keyAt_iff.mpr ⟨behind, fits, colon⟩⟩
            · exact step found

theorem member?_eq_none_of_no_key
    (absent : ∀ late, late <:+ text → ∀ value, ¬ KeyAt key late value) :
    member? text key = none := by
  rw [Option.eq_none_iff_forall_ne_some]
  intro member found
  obtain ⟨late, within, here⟩ := exists_keyAt_of_memberFrom? found
  exact absent late within member.value here

/-- The key behind the front is the first one with a colon, and no occurrence of the quoted key that
begins in the front reaches into it. -/
structure IsFirstKey (key : String) (front text value : List Char) : Prop where
  here : KeyAt key text value
  first : ∀ late, late <:+ front → late ≠ [] → ∀ other, ¬ KeyAt key (late ++ text) other
  apart : ∀ late, late <:+ front → late ≠ [] → ∀ behind, SpellsKey key (late ++ text) behind →
    (quotedKey key).length ≤ late.length

theorem IsFirstKey.tail {c : Char} {front : List Char}
    (isFirst : IsFirstKey key (c :: front) text value) : IsFirstKey key front text value where
  here := isFirst.here
  first late within := isFirst.first late (within.trans (List.suffix_cons c front))
  apart late within := isFirst.apart late (within.trans (List.suffix_cons c front))

theorem IsFirstKey.memberFrom? {front : List Char} (isFirst : IsFirstKey key front text value)
    {skip : Nat} (within : skip ≤ front.length) (before : List Char) :
    memberFrom? (quotedKey key) skip before (front ++ text) =
      some { before := before.reverse ++ front, value := value } := by
  induction front generalizing skip before with
  | nil =>
      obtain rfl : skip = 0 := Nat.le_zero.mp within
      obtain ⟨behind, fits, colon⟩ := keyAt_iff.mp isFirst.here
      cases text with
      | nil => cases fits
      | cons c text => simp [Scan.memberFrom?, fits, colon]
  | cons c front ih =>
      have goOn (skip : Nat) (short : skip ≤ front.length) :
          Scan.memberFrom? (quotedKey key) skip (c :: before) (front ++ text) =
            some { before := before.reverse ++ c :: front, value := value } := by
        rw [ih isFirst.tail short]
        simp
      cases skip with
      | succ skip => exact goOn skip (Nat.le_of_succ_le_succ within)
      | zero =>
          rw [List.cons_append, Scan.memberFrom?, ← List.cons_append]
          cases fits : afterLead? (quotedKey key) (c :: front ++ text) with
          | none => exact goOn 0 (Nat.zero_le _)
          | some behind =>
              -- There is no colon behind it, and what is skipped ends in the front.
              have noColon : afterColon? behind = none := by
                rw [Option.eq_none_iff_forall_ne_some]
                exact fun other colon => isFirst.first (c :: front) (List.suffix_refl _)
                  (List.cons_ne_nil c front) other (keyAt_iff.mpr ⟨behind, fits, colon⟩)
              have short := isFirst.apart (c :: front) (List.suffix_refl _)
                (List.cons_ne_nil c front) behind (spellsKey_iff.mpr fits)
              rw [List.length_cons] at short
              simp only [noColon]
              exact goOn _ (by omega)

theorem IsFirstKey.member? {front : List Char} (isFirst : IsFirstKey key front text value) :
    member? (front ++ text) key = some { before := front, value := value } :=
  isFirst.memberFrom? (Nat.zero_le _) []

end

end FieldMenu.Scan
