import FieldMenu.Proofs.Layout.Pieces

namespace FieldMenu.Layout

open Scan Text

/-- Value text that a search for the key passes over, up to the mark behind it. -/
def Quiet (key : String) (value : List Char) : Prop :=
  ∀ (after : Space) (mark : Char), isMark mark = true → mark ≠ ':' →
    Passes key (value ++ after.text ++ [mark])

structure Field.Quiet (key : String) (field : Field) : Prop where
  nameText : isName field.name = true
  other : asciiLowered field.name ≠ asciiLowered key.toList
  value : Layout.Quiet key field.value

section

variable {key : String}

theorem composes_passes : Composes (Passes key) where
  of_no_quote := passes_of_no_quote
  append := Passes.append

theorem passes_space (space : Space) : Passes key space.text :=
  composes_passes.space space

theorem quiet_string {content : List Char} (named : isName key.toList = true)
    (stays : Quoting.staysInside .inside content = true) :
    Quiet key ('"' :: content ++ ['"']) := by
  intro after mark marked noColon
  simpa using passes_value named after.isBlank marked noColon stays

theorem Quiet.of_passes {value : List Char} (passes : Passes key value) : Quiet key value :=
  composes_passes.ended passes

theorem Field.Quiet.passes_name {field : Field} (named : isName key.toList = true)
    (quiet : field.Quiet key) :
    Passes key ('"' :: field.name ++ '"' :: (field.gap.text ++ [':'])) := by
  simpa using passes_key named quiet.nameText quiet.other field.gap.isBlank

theorem passes_array {blank : Space} {slots : List Slot}
    (quiet : ∀ slot ∈ slots, Quiet key slot.value) : Passes key (arrayText blank slots) :=
  composes_passes.array quiet

theorem passes_object {blank : Space} {fields : List Field} (named : isName key.toList = true)
    (quiet : ∀ field ∈ fields, field.Quiet key) : Passes key (objectText blank fields) :=
  composes_passes.object (fun field there => (quiet field there).passes_name named)
    fun field there => (quiet field there).value

def opening (lead blank : Space) (fields : List Field) : List Char :=
  lead.text ++ '{' :: blank.text ++ fields.flatMap fun field => field.text ++ [',']

theorem opening_append_cons (lead blank : Space) (before after : List Field) (field : Field)
    (rest : List Char) :
    opening lead blank (before ++ field :: after) ++ rest =
      opening lead blank before ++
        (field.text ++ ',' :: (after.flatMap (fun other => other.text ++ [',']) ++ rest)) := by
  simp [opening]

theorem objectText_append_cons (lead blank trail : Space) (before after : List Field)
    (field : Field) :
    lead.text ++ objectText blank (before ++ field :: after) ++ trail.text =
      opening lead blank before ++
        (field.text ++ (after.flatMap (fun other => ',' :: other.text) ++ '}' :: trail.text)) := by
  rw [objectText, List.map_append, List.map_cons, separated_append_cons]
  simp [opening, List.flatMap_map]

theorem Composes.opening {P : List Char → Prop} (composes : Composes P) {lead blank : Space}
    {fields : List Field}
    (names : ∀ field ∈ fields, P ('"' :: field.name ++ '"' :: (field.gap.text ++ [':'])))
    (each : ∀ field ∈ fields, Ended P field.value) : P (opening lead blank fields) := by
  have fields : P (fields.flatMap fun field => field.text ++ [',']) :=
    composes.flatMap fun field there =>
      composes.field (names field there) (each field there) rfl (by decide)
  have brace : P ['{'] := composes.mark rfl
  simpa [Layout.opening] using composes.append (composes.space lead)
    (composes.append brace (composes.append (composes.space blank) fields))

theorem passes_opening {lead blank : Space} {fields : List Field}
    (named : isName key.toList = true) (quiet : ∀ field ∈ fields, field.Quiet key) :
    Passes key (opening lead blank fields) :=
  composes_passes.opening (fun field there => (quiet field there).passes_name named)
    fun field there => (quiet field there).value

/-- A search for the key ends at the member behind the front, whatever follows. -/
def Finds (key : String) (front : List Char) (field : Field) : Prop :=
  ∀ rest, member? (front ++ (field.text ++ rest)) key =
    some { before := front ++ field.lead.text, value := field.toSlot.text ++ rest }

theorem finds_of_past {front : List Char} {field : Field} (plain : isPlain key.toList = true)
    (same : asciiLowered field.name = asciiLowered key.toList)
    (past : ∀ rest, memberFrom? (quotedKey key) 0 [] (front ++ (field.lead.text ++ '"' :: rest)) =
      memberFrom? (quotedKey key) 0 front.reverse (field.lead.text ++ '"' :: rest)) :
    Finds key front field := by
  intro rest
  have past := past (field.name ++ '"' :: field.gap.text ++ ':' :: (field.toSlot.text ++ rest))
  have passes : Passes key field.lead.text := passes_space field.lead
  have lead := passes front.reverse
    ('"' :: field.name ++ '"' :: field.gap.text ++ ':' :: (field.toSlot.text ++ rest))
  have found := memberFrom?_found plain same field.gap.isBlank
    (field.lead.text.reverse ++ front.reverse) (field.toSlot.text ++ rest)
  rw [member?, Field.text]
  simp only [List.append_assoc, List.cons_append, List.reverse_append, List.reverse_reverse]
    at past lead found ⊢
  rw [past, lead, found]

theorem finds_opening {lead blank : Space} {before : List Field} {field : Field}
    (named : isName key.toList = true) (quiet : ∀ other ∈ before, other.Quiet key)
    (same : asciiLowered field.name = asciiLowered key.toList) :
    Finds key (opening lead blank before) field := by
  refine finds_of_past (isPlain_of_isName named) same fun rest => ?_
  simpa using passes_opening named quiet [] (field.lead.text ++ '"' :: rest)

end

end FieldMenu.Layout
