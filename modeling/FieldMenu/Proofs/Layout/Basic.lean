import FieldMenu.Proofs.Scan.Balanced
import FieldMenu.Proofs.Text.Name

namespace FieldMenu.Layout

open Scan Text

structure Space where
  text : List Char := []
  isSpace : ∀ c ∈ text, Json.isSpace c = true := by simp

structure Slot where
  before : Space := {}
  value : List Char
  after : Space := {}

/-- A member of an object: the name as it is written between its quotes, and the value. -/
structure Field extends Slot where
  lead : Space := {}
  name : List Char
  gap : Space := {}

namespace Space

theorem isSpace_nil : ∀ c ∈ ([] : List Char), Json.isSpace c = true := by
  simp

def empty : Space :=
  ⟨[], isSpace_nil⟩

@[simp] theorem text_empty : empty.text = [] :=
  rfl

def append (left right : Space) : Space where
  text := left.text ++ right.text
  isSpace c member := (List.mem_append.mp member).elim (left.isSpace c) (right.isSpace c)

theorem isBlank (space : Space) : ∀ c ∈ space.text, Text.isBlank c = true :=
  fun c member => isBlank_of_isSpace (space.isSpace c member)

theorem isInert (space : Space) : ∀ c ∈ space.text, Scan.isInert c = true := by
  intro c member
  rcases isSpace_iff.mp (space.isSpace c member) with rfl | rfl | rfl | rfl <;> rfl

theorem quote_not_mem (space : Space) : '"' ∉ space.text :=
  fun member => absurd (space.isSpace '"' member) (by decide)

theorem trimStart_append (space : Space) (text : List Char) :
    trimStart (space.text ++ text) = trimStart text :=
  trimStart_append_of_isBlank space.isBlank text

end Space

def Slot.text (slot : Slot) : List Char :=
  slot.before.text ++ slot.value ++ slot.after.text

namespace Field

def text (field : Field) : List Char :=
  field.lead.text ++ '"' :: field.name ++ '"' :: field.gap.text ++ ':' :: field.toSlot.text

def core (field : Field) : List Char × List Char :=
  (field.name, field.value)

end Field

def separated (pieces : List (List Char)) : List Char :=
  List.intercalate [','] pieces

def arrayText (blank : Space) (slots : List Slot) : List Char :=
  '[' :: (blank.text ++ separated (slots.map Slot.text)) ++ [']']

def objectText (blank : Space) (fields : List Field) : List Char :=
  '{' :: (blank.text ++ separated (fields.map Field.text)) ++ ['}']

@[simp] theorem separated_nil : separated [] = [] :=
  rfl

@[simp] theorem separated_singleton (piece : List Char) : separated [piece] = piece := by
  simp [separated, List.intercalate]

@[simp] theorem separated_cons_cons (first second : List Char) (pieces : List (List Char)) :
    separated (first :: second :: pieces) = first ++ ',' :: separated (second :: pieces) := by
  simp [separated, List.intercalate]

theorem separated_append_cons (before after : List (List Char)) (piece : List Char) :
    separated (before ++ piece :: after) =
      before.flatMap (fun other => other ++ [',']) ++ piece ++
        after.flatMap (fun other => ',' :: other) := by
  have behind (piece : List Char) (after : List (List Char)) :
      separated (piece :: after) = piece ++ after.flatMap (fun other => ',' :: other) := by
    induction after generalizing piece with
    | nil => simp
    | cons next after ih => simp [ih]
  induction before with
  | nil => simpa using behind piece after
  | cons first before ih =>
      cases before with
      | nil => simpa using behind piece after
      | cons second before =>
          simp only [List.cons_append, separated_cons_cons] at ih ⊢
          rw [ih]
          simp

theorem balanced_separated {pieces : List (List Char)}
    (balanced : ∀ piece ∈ pieces, Balanced piece) : Balanced (separated pieces) := by
  induction pieces with
  | nil => exact .nil
  | cons first pieces ih =>
      have others := ih fun piece member => balanced piece (by simp [member])
      cases pieces with
      | nil => simpa using balanced first (by simp)
      | cons second pieces =>
          rw [separated_cons_cons]
          exact (balanced first (by simp)).append ((Balanced.inert (c := ',') rfl).append others)

theorem Slot.balanced {slot : Slot} (value : Balanced slot.value) : Balanced slot.text :=
  ((Balanced.of_inert slot.before.isInert).append value).append
    (.of_inert slot.after.isInert)

theorem Field.balanced {field : Field}
    (name : Quoting.staysInside .inside field.name = true) (value : Balanced field.value) :
    Balanced field.text := by
  have lead := Balanced.of_inert field.lead.isInert
  have gap := Balanced.of_inert field.gap.isInert
  have colon : Balanced [':'] := .inert rfl
  simpa [Field.text] using
    lead.append ((Balanced.string name).append (gap.append (colon.append (Slot.balanced value))))

theorem balanced_items {blank : Space} {slots : List Slot}
    (values : ∀ slot ∈ slots, Balanced slot.value) :
    Balanced (blank.text ++ separated (slots.map Slot.text)) := by
  refine (Balanced.of_inert blank.isInert).append (balanced_separated ?_)
  intro piece member
  obtain ⟨slot, slotMember, rfl⟩ := List.mem_map.mp member
  exact Slot.balanced (values slot slotMember)

theorem balanced_fields {blank : Space} {fields : List Field}
    (names : ∀ field ∈ fields, Quoting.staysInside .inside field.name = true)
    (values : ∀ field ∈ fields, Balanced field.value) :
    Balanced (blank.text ++ separated (fields.map Field.text)) := by
  refine (Balanced.of_inert blank.isInert).append (balanced_separated ?_)
  intro piece member
  obtain ⟨field, fieldMember, rfl⟩ := List.mem_map.mp member
  exact Field.balanced (names field fieldMember) (values field fieldMember)

end FieldMenu.Layout
