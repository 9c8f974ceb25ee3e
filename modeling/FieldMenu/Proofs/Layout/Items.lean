import FieldMenu.Proofs.Layout.Basic

namespace FieldMenu.Layout

open Scan Text

theorem objectStep_inert (found : List (List Char)) {c : Char} (inert : isInert c = true) :
    ObjectSweep.step { found := found } c = { found := found } := by
  have different : c ≠ '{' ∧ c ≠ '}' ∧ c ≠ '"' := by
    simp_all [isInert]
  simp [ObjectSweep.step, ObjectSweep.keep, Quoting.step, different]

theorem foldl_objectStep_object {inner : List Char} (found : List (List Char))
    (balanced : Balanced inner) :
    ('{' :: inner ++ ['}']).foldl ObjectSweep.step { found := found } =
      { found := ('{' :: inner ++ ['}']) :: found } := by
  let opened : ObjectSweep := { depth := 1, current := ['{'], found := found }
  have step : ObjectSweep.step { found := found } '{' = opened := rfl
  rw [List.cons_append, List.foldl_cons, step, List.foldl_append,
    balanced.foldl_objectStep opened rfl (by simp [opened])]
  simp [ObjectSweep.step, ObjectSweep.close, opened]

theorem stringStep_inert (found : List (List Char)) {c : Char} (inert : isInert c = true) :
    StringSweep.step { found := found } c = { found := found } := by
  have notQuote : c ≠ '"' := by
    simp_all [isInert]
  simp [StringSweep.step, Quoting.step, notQuote]

theorem foldl_stringStep_string {content : List Char} (found : List (List Char))
    (stays : Quoting.staysInside .inside content = true) :
    ('"' :: content ++ ['"']).foldl StringSweep.step { found := found } =
      { found := content :: found } := by
  let opened : StringSweep := { quoting := .inside, found := found }
  have step : StringSweep.step { found := found } '"' = opened := rfl
  rw [List.cons_append, List.foldl_cons, step, foldl_stringStep_of_staysInside opened stays]
  simp [opened]

section

variable {σ : Type} (step : σ → Char → σ) (sweep : List (List Char) → σ)
  (take : List Char → List Char)

theorem foldl_inert (inert : ∀ found c, isInert c = true → step (sweep found) c = sweep found)
    {text : List Char} (allInert : ∀ c ∈ text, isInert c = true) (found : List (List Char)) :
    text.foldl step (sweep found) = sweep found := by
  induction text with
  | nil => rfl
  | cons c text ih =>
      rw [List.foldl_cons, inert found c (allInert c (by simp))]
      exact ih fun d member => allInert d (by simp [member])

/-- A sweep that goes over white space and commas, and takes something from each value, takes it
from every item of an array. -/
theorem foldl_items (inert : ∀ found c, isInert c = true → step (sweep found) c = sweep found)
    (blank : Space) (slots : List Slot)
    (values : ∀ slot ∈ slots, ∀ found,
      slot.value.foldl step (sweep found) = sweep (take slot.value :: found)) :
    (blank.text ++ separated (slots.map Slot.text)).foldl step (sweep []) =
      sweep (slots.map fun slot => take slot.value).reverse := by
  -- What was found before the items stays behind what they give.
  have items (found : List (List Char)) :
      (separated (slots.map Slot.text)).foldl step (sweep found) =
        sweep ((slots.map fun slot => take slot.value).reverse ++ found) := by
    induction slots generalizing found with
    | nil => rfl
    | cons first slots ih =>
        have firstStep :
            first.text.foldl step (sweep found) = sweep (take first.value :: found) := by
          rw [Slot.text, List.foldl_append, List.foldl_append,
            foldl_inert step sweep inert first.before.isInert, values first (by simp),
            foldl_inert step sweep inert first.after.isInert]
        have others := ih (fun slot member => values slot (by simp [member]))
          (take first.value :: found)
        cases slots with
        | nil => simpa using firstStep
        | cons second slots =>
            have comma := inert (take first.value :: found) ',' rfl
            simp only [List.map_cons, separated_cons_cons, List.foldl_append, List.foldl_cons,
              firstStep, comma] at others ⊢
            rw [others]
            simp
  rw [List.foldl_append, foldl_inert step sweep inert blank.isInert, items, List.append_nil]

end

theorem objects_items {blank : Space} {slots : List Slot}
    (values : ∀ slot ∈ slots, ∃ inner, slot.value = '{' :: inner ++ ['}'] ∧ Balanced inner) :
    objects (blank.text ++ separated (slots.map Slot.text)) = slots.map Slot.value := by
  have taken (slot : Slot) (member : slot ∈ slots) (found : List (List Char)) :
      slot.value.foldl ObjectSweep.step { found := found } = { found := slot.value :: found } := by
    obtain ⟨inner, value, balanced⟩ := values slot member
    rw [value]
    exact foldl_objectStep_object found balanced
  rw [objects, foldl_items ObjectSweep.step (fun found => { found := found }) id
    (fun found _ => objectStep_inert found) blank slots taken]
  simp

theorem strings_items {blank : Space} {slots : List Slot} {contents : List (List Char)}
    (values : slots.map Slot.value = contents.map fun content => '"' :: content ++ ['"'])
    (stays : ∀ content ∈ contents, Quoting.staysInside .inside content = true) :
    strings (blank.text ++ separated (slots.map Slot.text)) =
      contents.map fun content => String.ofList (unescape content) := by
  have inQuotes (slot : Slot) (member : slot ∈ slots) :
      ∃ content ∈ contents, slot.value = '"' :: content ++ ['"'] := by
    have written : slot.value ∈ contents.map fun content => '"' :: content ++ ['"'] := by
      rw [← values]
      exact List.mem_map_of_mem member
    obtain ⟨content, inContents, equal⟩ := List.mem_map.mp written
    exact ⟨content, inContents, equal.symm⟩
  have taken (slot : Slot) (member : slot ∈ slots) (found : List (List Char)) :
      slot.value.foldl StringSweep.step { found := found } =
        { found := slot.value.tail.dropLast :: found } := by
    obtain ⟨content, inContents, value⟩ := inQuotes slot member
    rw [value, foldl_stringStep_string found (stays content inContents)]
    simp
  have unquoted : (slots.map fun slot => slot.value.tail.dropLast) = contents := by
    have := congrArg (List.map fun value : List Char => value.tail.dropLast) values
    simpa [Function.comp_def] using this
  rw [strings, foldl_items StringSweep.step (fun found => { found := found })
    (fun value => value.tail.dropLast) (fun found _ => stringStep_inert found) blank slots taken,
    unquoted]
  simp

end FieldMenu.Layout
