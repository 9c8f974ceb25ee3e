import FieldMenu.Proofs.Layout.Search

namespace FieldMenu.Layout

open Scan Text

theorem arrayParts?_slot {slot : Slot} {inner : List Char}
    (value : slot.value = '[' :: inner ++ [']']) (balanced : Balanced inner)
    (rest : List Char) :
    arrayParts? (slot.text ++ rest) = some (inner, slot.after.text ++ rest) := by
  have trimmed : trimStart (slot.text ++ rest) =
      '[' :: (inner ++ ']' :: (slot.after.text ++ rest)) := by
    rw [Slot.text, value]
    simp only [List.append_assoc, List.cons_append, List.nil_append]
    rw [slot.before.trimStart_append]
    exact trimStart_cons_of_not_blank _ rfl
  rw [arrayParts?, trimmed]
  simp only [balanced.enclosed?_append (show closerOf? '[' = some ']' from rfl)]
  simp [enclosed?]

namespace Finds

variable {key : String} {front inner : List Char} {field : Field}

theorem valueText? (finds : Finds key front field) (rest : List Char) :
    valueText? (front ++ (field.text ++ rest)) key =
      some (trimStart (field.value ++ (field.after.text ++ rest))) := by
  rw [Scan.valueText?, finds, Option.map_some]
  simp only [Slot.text, List.append_assoc]
  rw [field.before.trimStart_append]

theorem arrayBody? (finds : Finds key front field) (value : field.value = '[' :: inner ++ [']'])
    (balanced : Balanced inner) (rest : List Char) :
    arrayBody? (front ++ (field.text ++ rest)) key = some inner := by
  rw [Scan.arrayBody?, finds]
  simp [arrayParts?_slot value balanced]

theorem withoutArray (finds : Finds key front field) (value : field.value = '[' :: inner ++ [']'])
    (balanced : Balanced inner) (rest : List Char) :
    withoutArray (front ++ (field.text ++ rest)) key =
      closeGap (front ++ field.lead.text) (field.after.text ++ rest) := by
  rw [Scan.withoutArray, finds]
  simp only [arrayParts?_slot value balanced]

end Finds

section

variable {key : String} {lead blank : Space} {before after : List Field} {field : Field}
  {inner : List Char}

/-- The comma behind the array goes, and the white space before its name stays. -/
theorem closeGap_next (before : List Char) (lead space : Space) (next : Field) (rest : List Char) :
    closeGap (before ++ lead.text) (space.text ++ ',' :: (next.text ++ rest)) =
      before ++ ({ next with lead }.text ++ rest) := by
  rw [closeGap, space.trimStart_append, trimStart_cons_of_not_blank _ rfl]
  simp only [Field.text, List.append_assoc, List.cons_append, next.lead.trimStart_append]
  rw [trimStart_cons_of_not_blank _ rfl]

theorem dropWhile_reverse_space {c : Char} (notBlank : isBlank c = false) (text : List Char)
    (space : Space) :
    (text ++ c :: space.text).reverse.dropWhile isBlank = c :: text.reverse := by
  have blank : ∀ c ∈ space.text.reverse, isBlank c = true := fun c member =>
    space.isBlank c (List.mem_reverse.mp member)
  have stripped := trimStart_append_of_isBlank blank (c :: text.reverse)
  rw [trimStart_cons_of_not_blank _ notBlank] at stripped
  simpa [trimStart] using stripped

theorem withoutFinalComma_append (text : List Char) (space : Space) :
    withoutFinalComma (text ++ ',' :: space.text) = text := by
  rw [withoutFinalComma, dropWhile_reverse_space rfl]
  simp

theorem withoutFinalComma_opening (text : List Char) (space : Space) :
    withoutFinalComma (text ++ '{' :: space.text) = text ++ '{' :: space.text := by
  rw [withoutFinalComma, dropWhile_reverse_space rfl]
  simp

theorem withoutArray_objectText (trail : Space) (after : List Field)
    (finds : Finds key (opening lead blank before) field)
    (value : field.value = '[' :: inner ++ [']']) (balanced : Balanced inner) :
    ∃ (blank' : Space) (fields : List Field),
      withoutArray (lead.text ++ objectText blank (before ++ field :: after) ++ trail.text) key =
          lead.text ++ objectText blank' fields ++ trail.text ∧
        fields.map Field.core = (before ++ after).map Field.core := by
  rw [objectText_append_cons, finds.withoutArray value balanced]
  cases after with
  | cons next after =>
      refine ⟨blank, before ++ { next with lead := field.lead } :: after, ?_, by simp [Field.core]⟩
      rw [List.flatMap_cons, List.cons_append, List.cons_append, List.append_assoc,
        closeGap_next, objectText_append_cons]
  | nil =>
      -- The array is the last member: the comma before it goes, if there is one.
      have closing (text : List Char) : closeGap text (field.after.text ++ '}' :: trail.text) =
          withoutFinalComma text ++ (field.after.text ++ '}' :: trail.text) := by
        rw [closeGap, field.after.trimStart_append, trimStart_cons_of_not_blank _ rfl]
        simp
      rw [List.flatMap_nil, List.nil_append, closing]
      rcases List.eq_nil_or_concat before with rfl | ⟨init, last, rfl⟩
      · refine ⟨(blank.append field.lead).append field.after, [], ?_, rfl⟩
        have brace := withoutFinalComma_opening lead.text (blank.append field.lead)
        simp only [Space.append] at brace
        simp [opening, brace, objectText, Space.append]
      · let extended : Field := { last with after := last.after.append field.after }
        have extendedText : extended.text = last.text ++ field.after.text := by
          simp [extended, Field.text, Slot.text, Space.append]
        refine ⟨blank, init ++ [extended], ?_, by simp [extended, Field.core]⟩
        have comma := withoutFinalComma_append (opening lead blank init ++ last.text) field.lead
        have ending := opening_append_cons lead blank init [] last field.lead.text
        rw [List.flatMap_nil, List.nil_append, ← List.append_assoc] at ending
        rw [List.concat_eq_append, ending, comma, objectText_append_cons, extendedText]
        simp

end

end FieldMenu.Layout
