import FieldMenu.Json.Read
import FieldMenu.Text.Blank
import FieldMenu.Text.Lowercase

namespace FieldMenu.Text

theorem isUpper_iff {c : Char} : c.isUpper = true ↔ 65 ≤ c.toNat ∧ c.toNat ≤ 90 := by
  unfold Char.isUpper
  simp [UInt32.le_iff_toNat_le, ← Char.toNat_val]

theorem isLower_iff {c : Char} : c.isLower = true ↔ 97 ≤ c.toNat ∧ c.toNat ≤ 122 := by
  unfold Char.isLower
  simp [UInt32.le_iff_toNat_le, ← Char.toNat_val]

theorem isAlpha_iff {c : Char} :
    c.isAlpha = true ↔ 65 ≤ c.toNat ∧ c.toNat ≤ 90 ∨ 97 ≤ c.toNat ∧ c.toNat ≤ 122 := by
  unfold Char.isAlpha
  rw [Bool.or_eq_true, isUpper_iff, isLower_iff]

theorem toLower_of_not_isUpper {c : Char} (notUpper : c.isUpper = false) : c.toLower = c := by
  unfold Char.toLower
  rw [dif_neg]
  rintro ⟨least, most⟩
  have upper : c.isUpper = true := isUpper_iff.mpr ⟨least, most⟩
  rw [notUpper] at upper
  cases upper

theorem toNat_toLower_of_isUpper {c : Char} (upper : c.isUpper = true) :
    c.toLower.toNat = c.toNat + 32 := by
  obtain ⟨least, most⟩ := isUpper_iff.mp upper
  have shifted : c.toLower.val = c.val + 32 := by
    unfold Char.toLower
    rw [dif_pos ⟨least, most⟩]
    rfl
  rw [← Char.toNat_val, shifted, UInt32.toNat_add, Char.toNat_val]
  exact Nat.mod_eq_of_lt (by simp; omega)

theorem isLower_toLower_of_isUpper {c : Char} (upper : c.isUpper = true) :
    c.toLower.isLower = true := by
  obtain ⟨least, most⟩ := isUpper_iff.mp upper
  rw [isLower_iff, toNat_toLower_of_isUpper upper]
  omega

theorem eq_of_toLower_eq_toLower {c d : Char} (same : c.toLower = d.toLower)
    (noLetter : d.isAlpha = false) : c = d := by
  obtain ⟨notUpper, notLower⟩ : d.isUpper = false ∧ d.isLower = false :=
    Bool.or_eq_false_iff.mp noLetter
  rw [toLower_of_not_isUpper notUpper] at same
  cases upper : c.isUpper with
  | true =>
      have lower := isLower_toLower_of_isUpper upper
      rw [same, notLower] at lower
      cases lower
  | false => rwa [toLower_of_not_isUpper upper] at same

theorem quote_ne_toLower {c : Char} (notQuote : c ≠ '"') : '"' ≠ c.toLower := fun same =>
  notQuote (eq_of_toLower_eq_toLower same.symm rfl)

@[simp] theorem asciiLowered_nil : asciiLowered [] = [] :=
  rfl

@[simp] theorem asciiLowered_cons (c : Char) (text : List Char) :
    asciiLowered (c :: text) = c.toLower :: asciiLowered text :=
  rfl

def isMark (c : Char) : Bool :=
  c == '{' || c == '}' || c == '[' || c == ']' || c == ':' || c == ','

def isNameChar (c : Char) : Bool :=
  !isBlank c && !isMark c && c != '"' && c != '\\'

theorem isNameChar_of_isAlpha {c : Char} (letter : c.isAlpha = true) : isNameChar c = true := by
  have bounds := isAlpha_iff.mp letter
  have blank : isBlank c = false := by
    simp [isBlank]
    omega
  have different {d : Char} (code : d.toNat < 65 ∨ 90 < d.toNat ∧ d.toNat < 97 ∨ 122 < d.toNat) :
      c ≠ d := by
    rintro rfl
    omega
  simp [isNameChar, isMark, blank, different]

theorem isAlpha_eq_false_of_not_isNameChar {c : Char} (other : isNameChar c = false) :
    c.isAlpha = false := by
  cases letter : c.isAlpha with
  | true => simp [isNameChar_of_isAlpha letter] at other
  | false => rfl

theorem toLower_ne_of_isNameChar {c d : Char} (name : isNameChar c = true)
    (other : isNameChar d = false) : c.toLower ≠ d.toLower := by
  intro same
  have : c = d := eq_of_toLower_eq_toLower same (isAlpha_eq_false_of_not_isNameChar other)
  rw [this, other] at name
  cases name

def isName (text : List Char) : Bool :=
  text.all isNameChar

theorem isName_of_sameLetters {name spelling : List Char} (named : isName name = true)
    (same : asciiLowered spelling = asciiLowered name) : isName spelling = true := by
  rw [isName, List.all_eq_true]
  intro c member
  cases charName : isNameChar c with
  | true => rfl
  | false =>
      have lowered : c.toLower ∈ asciiLowered name := by
        rw [← same]
        exact List.mem_map_of_mem member
      obtain ⟨d, dMember, equal⟩ := List.mem_map.mp lowered
      exact absurd equal (toLower_ne_of_isNameChar (List.all_eq_true.mp named d dMember) charName)

def isPlain (text : List Char) : Bool :=
  text.all fun c => c != '"' && c != '\\'

theorem isPlain_cons {c : Char} {text : List Char} :
    isPlain (c :: text) = true ↔ (c ≠ '"' ∧ c ≠ '\\') ∧ isPlain text = true := by
  simp [isPlain]

theorem isPlain_of_isName {name : List Char} (named : isName name = true) :
    isPlain name = true := by
  induction name with
  | nil => rfl
  | cons c name ih =>
      obtain ⟨first, others⟩ : isNameChar c = true ∧ isName name = true := by
        simpa [isName] using named
      exact isPlain_cons.mpr ⟨by simp_all [isNameChar], ih others⟩

theorem isPlain_of_sameLetters {name spelling : List Char} (plain : isPlain name = true)
    (same : asciiLowered spelling = asciiLowered name) : isPlain spelling = true := by
  induction spelling generalizing name with
  | nil => rfl
  | cons c spelling ih =>
      cases name with
      | nil => cases same
      | cons d name =>
          obtain ⟨⟨notQuote, notBackslash⟩, others⟩ := isPlain_cons.mp plain
          obtain ⟨first, later⟩ := List.cons.inj same
          refine isPlain_cons.mpr ⟨⟨?_, ?_⟩, ih others later⟩
          · rintro rfl
            exact notQuote (eq_of_toLower_eq_toLower first.symm rfl)
          · rintro rfl
            exact notBackslash (eq_of_toLower_eq_toLower first.symm rfl)

theorem quote_not_mem_of_isPlain {text : List Char} (plain : isPlain text = true) : '"' ∉ text :=
  fun member => absurd (List.all_eq_true.mp plain '"' member) (by decide)

theorem isSpace_iff {c : Char} :
    Json.isSpace c = true ↔ c = ' ' ∨ c = '\n' ∨ c = '\r' ∨ c = '\t' := by
  simp [Json.isSpace, or_assoc]

theorem isBlank_of_isSpace {c : Char} (space : Json.isSpace c = true) : isBlank c = true := by
  rcases isSpace_iff.mp space with rfl | rfl | rfl | rfl <;> rfl

theorem trimStart_append_of_isBlank {gap : List Char} (blank : ∀ c ∈ gap, isBlank c = true)
    (text : List Char) : trimStart (gap ++ text) = trimStart text := by
  induction gap with
  | nil => rfl
  | cons c gap ih =>
      rw [List.cons_append, trimStart_cons_of_blank _ (blank c (by simp))]
      exact ih fun d member => blank d (by simp [member])

end FieldMenu.Text
