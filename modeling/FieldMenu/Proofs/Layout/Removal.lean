import FieldMenu.Proofs.Layout.Lookup
import FieldMenu.Proofs.Scan.First

namespace FieldMenu.Layout

open Scan Text

/-- An object whose first member of the key, at any depth, is the given one, an array.  No name in
it has an escape. -/
structure FirstArray (key : String) (before : List Field) (field : Field) (after : List Field) :
    Prop where
  otherNames : ∀ other ∈ before, IsOther key other.name
  otherValues : ∀ other ∈ before, WellFormed (IsOther key) other.value
  plain : isPlain field.name = true
  same : asciiLowered field.name = asciiLowered key.toList
  isArray : ∃ (blank : Space) (slots : List Slot), field.value = arrayText blank slots ∧
    ∀ slot ∈ slots, WellFormed (fun name => isPlain name = true) slot.value
  namesBehind : ∀ other ∈ after, isPlain other.name = true
  valuesBehind : ∀ other ∈ after, WellFormed (fun name => isPlain name = true) other.value

namespace FirstArray

variable {key : String} {before after : List Field} {field : Field}

theorem front (first : FirstArray key before field after) (lead blank : Space) :
    Front (IsOther key) (opening lead blank before) :=
  .here lead blank first.otherNames first.otherValues

theorem wellFormed (first : FirstArray key before field after) {fields : List Field}
    (laid : fields.map Field.core = (before ++ after).map Field.core) (blank : Space) :
    WellFormed (fun name => isPlain name = true) (objectText blank fields) := by
  have others : ∀ other ∈ before ++ after, isPlain other.name = true ∧
      WellFormed (fun name => isPlain name = true) other.value := by
    intro other there
    rcases List.mem_append.mp there with inFront | behind
    · exact ⟨(first.otherNames other inFront).1,
        (first.otherValues other inFront).mono fun _ isOther => isOther.1⟩
    · exact ⟨first.namesBehind other behind, first.valuesBehind other behind⟩
  have each : ∀ field ∈ fields, isPlain field.name = true ∧
      WellFormed (fun name => isPlain name = true) field.value := by
    intro field there
    have core : field.core ∈ (before ++ after).map Field.core := by
      rw [← laid]
      exact List.mem_map_of_mem there
    obtain ⟨other, otherThere, equal⟩ := List.mem_map.mp core
    obtain ⟨name, value⟩ := Prod.mk.inj equal
    rw [← name, ← value]
    exact others other otherThere
  exact .object blank (fun field there => (each field there).1)
    fun field there => (each field there).2

theorem withoutArray (first : FirstArray key before field after) (lead blank trail : Space)
    (apart : ¬ StandsBetween key (opening lead blank before ++ (field.lead.text ++ ['"']))) :
    ∃ (blank' : Space) (fields : List Field),
      withoutArray (lead.text ++ objectText blank (before ++ field :: after) ++ trail.text) key =
          lead.text ++ objectText blank' fields ++ trail.text ∧
        fields.map Field.core = (before ++ after).map Field.core ∧
        WellFormed (fun name => isPlain name = true) (objectText blank' fields) := by
  have finds := (first.front lead blank).finds first.plain first.same apart
  obtain ⟨space, slots, value, each⟩ := first.isArray
  have balanced : Balanced (space.text ++ separated (slots.map Slot.text)) :=
    balanced_items fun slot there => (each slot there).balanced fun _ => staysInside_of_isPlain
  obtain ⟨blank', fields, left, laid⟩ := withoutArray_objectText trail after finds value balanced
  exact ⟨blank', fields, left, laid, first.wellFormed laid blank'⟩

end FirstArray

/-- The value is no array, or one that is never closed. -/
def NoClosedArray (value : List Char) : Prop :=
  ∀ rest, trimStart value = '[' :: rest → matchingBracket? ('[' :: rest) 0 = none

theorem arrayParts?_of_noClosedArray {value : List Char} (unclosed : NoClosedArray value) :
    arrayParts? value = none := by
  unfold arrayParts?
  split
  · rename_i rest trimmed
    exact Option.map_eq_none_iff.mp (unclosed rest trimmed)
  · rfl

/-- Of an object, exactly the first array of that name is deleted.  Text without a key of that name
and a colon, or the first such key of which is bound to no closed array, stays as it is.  The first
holds unless the key stands between two strings in front of the member, as one with a mark in it
may; the last one unless another occurrence of the quoted key reaches into the first with a
colon. -/
theorem array_deleted (key : String) :
    (∀ (lead blank trail : Space) (before after : List Field) (field : Field),
      FirstArray key before field after →
        ((∀ c ∈ key.toList, isMark c = false) →
          ¬ StandsBetween key (opening lead blank before ++ (field.lead.text ++ ['"']))) ∧
        (¬ StandsBetween key (opening lead blank before ++ (field.lead.text ++ ['"'])) →
          ∃ (blank' : Space) (fields : List Field),
            withoutArray (lead.text ++ objectText blank (before ++ field :: after) ++ trail.text)
                key = lead.text ++ objectText blank' fields ++ trail.text ∧
              fields.map Field.core = (before ++ after).map Field.core ∧
              WellFormed (fun name => isPlain name = true) (objectText blank' fields))) ∧
    (∀ text, (∀ late, late <:+ text → ∀ value, ¬ KeyAt key late value) →
      withoutArray text key = text) ∧
    ∀ front text value, IsFirstKey key front text value → NoClosedArray value →
      withoutArray (front ++ text) key = front ++ text := by
  refine ⟨?_, ?_, ?_⟩
  · intro lead blank trail before after field first
    exact ⟨fun noMark => (first.front lead blank).not_between noMark field.lead,
      first.withoutArray lead blank trail⟩
  · intro text absent
    rw [withoutArray, member?_eq_none_of_no_key absent]
  · intro front text value isFirst unclosed
    rw [withoutArray, isFirst.member?]
    simp only [arrayParts?_of_noClosedArray unclosed]

/-- An array between two members goes with the comma behind it; a member that is no array stays. -/
theorem array_deleted_between :
    let number : Slot := { before := .empty, value := ['1'], after := .empty }
    let first : Field := { number with lead := .empty, name := ['a'], gap := .empty }
    let field : Field :=
      { before := .empty, value := arrayText .empty [number], after := .empty
        lead := .empty, name := ['K'], gap := .empty }
    let last : Field := { number with lead := .empty, name := ['b'], gap := .empty }
    let text := objectText .empty ([first] ++ field :: [last])
    FirstArray "k" [first] field [last] ∧
      (∃ (blank : Space) (fields : List Field),
        withoutArray text "k" = objectText blank fields ∧
          fields.map Field.core = [(['a'], ['1']), (['b'], ['1'])]) ∧
      withoutArray "\"k\":1".toList "k" = "\"k\":1".toList := by
  intro number first field last text
  have numberFormed (named : List Char → Prop) : WellFormed named number.value :=
    .word (.inr ⟨.int 1, rfl⟩)
  have isFirst : FirstArray "k" [first] field [last] :=
    { otherNames := List.forall_mem_singleton.mpr ⟨rfl, by decide⟩
      otherValues := List.forall_mem_singleton.mpr (numberFormed _)
      plain := rfl
      same := by decide
      isArray := ⟨.empty, [number], rfl, List.forall_mem_singleton.mpr (numberFormed _)⟩
      namesBehind := List.forall_mem_singleton.mpr rfl
      valuesBehind := List.forall_mem_singleton.mpr (numberFormed _) }
  have isKey : IsFirstKey "k" [] "\"k\":1".toList ['1'] :=
    { here := ⟨[], by simp, "\"k\"".toList, rfl, by decide⟩
      first := fun late within nonempty => absurd (List.suffix_nil.mp within) nonempty
      apart := fun late within nonempty => absurd (List.suffix_nil.mp within) nonempty }
  have noArray : NoClosedArray ['1'] := by
    rintro rest ⟨⟩
  have noMark : ∀ c ∈ "k".toList, isMark c = false := List.forall_mem_singleton.mpr rfl
  obtain ⟨deletes, -, keeps⟩ := array_deleted "k"
  obtain ⟨never, deleted⟩ := deletes .empty .empty .empty [first] [last] field isFirst
  obtain ⟨blank, fields, left, laid, -⟩ := deleted (never noMark)
  refine ⟨isFirst, ⟨blank, fields, ?_, laid⟩, keeps [] "\"k\":1".toList ['1'] isKey noArray⟩
  simpa [text] using left

/-- What looks like the key `,` between two strings keeps the array from being found.  It keeps a
member that is no array from being found too, and then an array further on is deleted. -/
theorem comma_array_kept :
    let items (text : String) : Option (List (Option Int)) :=
      (((Json.read? text).bind fun json => json.get? ",").bind Json.asArray?).map
        (List.map Json.asInt?)
    let text := "\x7b\"a\":\"b\",\",\":[1]\x7d"
    let repeated := "\x7b\"a\":\"b\",\",\":null,\"c\":[1],\",\":[2]\x7d"
    (items text = some [some 1] ∧ withoutArray text.toList "," = text.toList) ∧
      withoutArray repeated.toList "," = "\x7b\"a\":\"b\",\",\":null,\"c\":[1]\x7d".toList := by
  decide +kernel

end FieldMenu.Layout
