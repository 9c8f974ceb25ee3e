import FieldMenu.Proofs.Layout.Reading
import FieldMenu.Proofs.Layout.WellFormed
import FieldMenu.Proofs.Scan.Between

namespace FieldMenu.Layout

open Scan Text

/-- The name of another member, without escapes. -/
def IsOther (key : String) (name : List Char) : Prop :=
  isPlain name = true ∧ asciiLowered name ≠ asciiLowered key.toList

section

variable {key : String} {front : List Char} {field : Field}

theorem spreads_passesApart (plain : isPlain key.toList = true) :
    Spreads (PassesApart key) (IsOther key) where
  of_no_quote := PassesApart.of_no_quote
  append := PassesApart.append
  string stays := by
    intro after mark marked noColon
    simpa using PassesApart.string plain after.isBlank marked noColon stays
  name other gap := PassesApart.name plain other.1 other.2 gap.isBlank

theorem spreads_keepsApart (noMark : ∀ c ∈ key.toList, isMark c = false) :
    Spreads (KeepsApart key) (IsOther key) where
  of_no_quote := KeepsApart.of_no_quote
  append := KeepsApart.append
  string stays := by
    intro after mark marked _
    simpa using KeepsApart.quoted noMark after.isBlank marked stays
  name other gap := KeepsApart.quoted noMark gap.isBlank rfl (staysInside_of_isPlain other.1)

theorem Front.not_between (noMark : ∀ c ∈ key.toList, isMark c = false)
    (ahead : Front (IsOther key) front) (space : Space) :
    ¬ StandsBetween key (front ++ (space.text ++ ['"'])) := by
  intro stands
  have keeps := (ahead.spread (spreads_keepsApart noMark)).append
    (KeepsApart.of_no_quote space.quote_not_mem)
  rw [← List.append_assoc] at stands
  obtain ⟨_ | ⟨c, within⟩, gap, back, whole, inside, _⟩ := keeps.behind ['"'] stands
  · cases inside
  · simp at whole

theorem Front.finds (ahead : Front (IsOther key) front) (plain : isPlain field.name = true)
    (same : asciiLowered field.name = asciiLowered key.toList)
    (apart : ¬ StandsBetween key (front ++ (field.lead.text ++ ['"']))) :
    Finds key front field := by
  have plainKey : isPlain key.toList = true := isPlain_of_sameLetters plain same.symm
  have passes := ahead.spread (spreads_passesApart plainKey)
  refine finds_of_past plainKey same fun rest => ?_
  have past := passes.passes [] field.lead.text rest apart
  rwa [List.append_nil] at past

theorem Finds.string? (finds : Finds key front field) {value : String}
    (written : (Json.string value).Written field.value) (rest : List Char) :
    string? (front ++ (field.text ++ rest)) key = some value := by
  have found := finds.valueText? rest
  rw [written.trimStart_append] at found
  exact string?_written written found

theorem Finds.stringArray (finds : Finds key front field) {values : List String}
    (written : (Json.strings values).Written field.value) (rest : List Char) :
    stringArray (front ++ (field.text ++ rest)) key = values := by
  obtain ⟨blank, pairs, equal, value, each⟩ := written.exists_slots
  have body := finds.arrayBody? value
    (balanced_pairs fun pair member => (each pair member).balanced) rest
  rw [Scan.stringArray, body, Option.map_some, Option.getD_some]
  exact strings_written equal each

end

/-- The member is read back as it was written, with its escapes undone, whatever the strings in
front of it hold, unless the key stands between two of them.  It never does if it has no mark in
it. -/
theorem escaped_member_read (key : String) {front : List Char} (field : Field) (rest : List Char)
    (ahead : Front (IsOther key) front) (plain : isPlain field.name = true)
    (same : asciiLowered field.name = asciiLowered key.toList) :
    ((∀ c ∈ key.toList, isMark c = false) →
      ¬ StandsBetween key (front ++ (field.lead.text ++ ['"']))) ∧
    (¬ StandsBetween key (front ++ (field.lead.text ++ ['"'])) →
      (∀ value, (Json.string value).Written field.value →
        string? (front ++ (field.text ++ rest)) key = some value) ∧
      ∀ values, (Json.strings values).Written field.value →
        stringArray (front ++ (field.text ++ rest)) key = values) := by
  refine ⟨fun noMark => ahead.not_between noMark field.lead, fun apart => ?_⟩
  have finds := ahead.finds plain same apart
  exact ⟨fun value written => finds.string? written rest,
    fun values written => finds.stringArray written rest⟩

/-- An escaped key and a colon, inside a string of an array in front, are not taken for the
member. -/
theorem escaped_member_read_lookalike :
    let number : Slot := { before := .empty, value := ['1'], after := .empty }
    let lookalike : Slot :=
      { before := .empty, value := '"' :: escape "\"k\":".toList ++ ['"'], after := .empty }
    let nested : Slot :=
      { before := .empty, value := arrayText .empty [number], after := .empty }
    let first : Field :=
      { before := .empty, value := arrayText .empty [lookalike, nested], after := .empty
        lead := .empty, name := ['a'], gap := .empty }
    let field : Field :=
      { before := .empty, value := '"' :: escape "q\"\\".toList ++ ['"'], after := .empty
        lead := .empty, name := ['K'], gap := .empty }
    let front := opening .empty .empty [first]
    Front (IsOther "k") front ∧ ¬ StandsBetween "k" (front ++ (field.lead.text ++ ['"'])) ∧
      string? (front ++ (field.text ++ ['\x7d'])) "k" = some "q\"\\" := by
  intro number lookalike nested first field front
  have lookalikeFormed : WellFormed (IsOther "k") lookalike.value :=
    .string (staysInside_escape "\"k\":".toList)
  have nestedFormed : WellFormed (IsOther "k") nested.value :=
    .array .empty (List.forall_mem_singleton.mpr (.word (.inr ⟨.int 1, rfl⟩)))
  have ahead : Front (IsOther "k") front := by
    refine .here .empty .empty (List.forall_mem_singleton.mpr ⟨rfl, by decide⟩) ?_
    refine List.forall_mem_singleton.mpr (.array .empty ?_)
    exact List.forall_mem_cons.mpr ⟨lookalikeFormed, List.forall_mem_singleton.mpr nestedFormed⟩
  obtain ⟨never, reads⟩ := escaped_member_read "k" field ['\x7d'] ahead rfl (by decide)
  have noMark : ∀ c ∈ "k".toList, isMark c = false := List.forall_mem_singleton.mpr rfl
  have apart := never noMark
  exact ⟨ahead, apart, (reads apart).1 "q\"\\" (.string "q\"\\")⟩

/-- The quotes around a comma between two strings look like the key `,`.  The search passes over the
opening quote of the key itself, or it stops where the second string begins with a colon. -/
theorem comma_key_missed :
    let member (text : String) : Option Json := (Json.read? text).bind fun json => json.get? ","
    let text := "\x7b\"a\":\"b\",\",\":\"s\"\x7d"
    let array := "\x7b\"a\":\"b\",\",\":[\"s\"]\x7d"
    let imitation := "\x7b\"a\":[\"b\",\": c\"],\",\":\"s\"\x7d"
    ((member text).bind Json.asString? = some "s" ∧ string? text.toList "," = none) ∧
      (((member array).bind Json.asArray?).map (List.map Json.asString?) = some [some "s"] ∧
        stringArray array.toList "," = []) ∧
      ((member imitation).bind Json.asString? = some "s" ∧
        string? imitation.toList "," = none) := by
  decide +kernel

end FieldMenu.Layout
