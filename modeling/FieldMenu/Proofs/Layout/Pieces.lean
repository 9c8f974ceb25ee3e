import FieldMenu.Proofs.Layout.Basic
import FieldMenu.Proofs.Scan.Passage

namespace FieldMenu.Layout

open Scan Text

/-- A property of all text without quotes, and of two texts together when it is one of both. -/
structure Composes (P : List Char → Prop) : Prop where
  of_no_quote : ∀ {text : List Char}, '"' ∉ text → P text
  append : ∀ {left right : List Char}, P left → P right → P (left ++ right)

/-- The value has the property together with the mark that ends it, which is not a colon. -/
def Ended (P : List Char → Prop) (value : List Char) : Prop :=
  ∀ (after : Space) (mark : Char), isMark mark = true → mark ≠ ':' →
    P (value ++ after.text ++ [mark])

namespace Composes

variable {P : List Char → Prop}

section

variable (composes : Composes P)

include composes

theorem space (space : Space) : P space.text :=
  composes.of_no_quote space.quote_not_mem

theorem mark {mark : Char} (marked : isMark mark = true) : P [mark] :=
  composes.of_no_quote (not_mem_gap Space.empty.isBlank marked)

theorem flatMap {α : Type} {pieces : List α} {text : α → List Char}
    (each : ∀ piece ∈ pieces, P (text piece)) : P (pieces.flatMap text) := by
  induction pieces with
  | nil => exact composes.of_no_quote List.not_mem_nil
  | cons piece pieces ih =>
      rw [List.flatMap_cons]
      exact composes.append (each piece List.mem_cons_self)
        (ih fun other member => each other (List.mem_cons_of_mem piece member))

theorem ended {value : List Char} (whole : P value) : Ended P value := by
  intro after mark marked _
  rw [List.append_assoc]
  exact composes.append whole (composes.of_no_quote (not_mem_gap after.isBlank marked))

theorem slot {slot : Slot} (value : Ended P slot.value) {mark : Char} (marked : isMark mark = true)
    (noColon : mark ≠ ':') : P (slot.text ++ [mark]) := by
  have rest := value slot.after mark marked noColon
  simpa [Slot.text] using composes.append (composes.space slot.before) rest

theorem field {field : Field} (name : P ('"' :: field.name ++ '"' :: (field.gap.text ++ [':'])))
    (value : Ended P field.value) {mark : Char} (marked : isMark mark = true)
    (noColon : mark ≠ ':') : P (field.text ++ [mark]) := by
  have behind := composes.append name (composes.slot value marked noColon)
  simpa [Field.text] using composes.append (composes.space field.lead) behind

theorem separated {pieces : List (List Char)}
    (each : ∀ piece ∈ pieces, ∀ mark, isMark mark = true → mark ≠ ':' → P (piece ++ [mark]))
    {mark : Char} (marked : isMark mark = true) (noColon : mark ≠ ':') :
    P (separated pieces ++ [mark]) := by
  induction pieces with
  | nil => exact composes.mark marked
  | cons first pieces ih =>
      have others := ih fun piece member => each piece (List.mem_cons_of_mem first member)
      cases pieces with
      | nil =>
          rw [separated_singleton]
          exact each first List.mem_cons_self mark marked noColon
      | cons second pieces =>
          have comma := each first List.mem_cons_self ',' rfl (by decide)
          simpa using composes.append comma others

theorem array {blank : Space} {slots : List Slot} (each : ∀ slot ∈ slots, Ended P slot.value) :
    P (arrayText blank slots) := by
  have inner : P (Layout.separated (slots.map Slot.text) ++ [']']) := by
    refine composes.separated ?_ rfl (by decide)
    intro piece member mark marked noColon
    obtain ⟨slot, slotMember, rfl⟩ := List.mem_map.mp member
    exact composes.slot (each slot slotMember) marked noColon
  have bracket : P ['['] := composes.mark rfl
  simpa [arrayText] using composes.append bracket (composes.append (composes.space blank) inner)

theorem object {blank : Space} {fields : List Field}
    (names : ∀ field ∈ fields, P ('"' :: field.name ++ '"' :: (field.gap.text ++ [':'])))
    (each : ∀ field ∈ fields, Ended P field.value) : P (objectText blank fields) := by
  have inner : P (Layout.separated (fields.map Field.text) ++ ['}']) := by
    refine composes.separated ?_ rfl (by decide)
    intro piece member mark marked noColon
    obtain ⟨field, there, rfl⟩ := List.mem_map.mp member
    exact composes.field (names field there) (each field there) marked noColon
  have brace : P ['{'] := composes.mark rfl
  simpa [objectText] using composes.append brace (composes.append (composes.space blank) inner)

end

end Composes

end FieldMenu.Layout
