import FieldMenu.Proofs.Layout.Array
import FieldMenu.Proofs.Layout.Items

namespace FieldMenu.Layout

open Scan Text

def escape (text : List Char) : List Char :=
  text.flatMap fun c => if c = '"' ∨ c = '\\' then ['\\', c] else [c]

@[simp] theorem escape_nil : escape [] = [] :=
  rfl

theorem escape_cons (c : Char) (text : List Char) :
    escape (c :: text) = (if c = '"' ∨ c = '\\' then ['\\', c] else [c]) ++ escape text :=
  rfl

theorem unescape_cons_of_ne {c : Char} (noEscape : c ≠ '\\') (text : List Char) :
    unescape (c :: text) = c :: unescape text := by
  cases text <;> simp [unescape, noEscape]

theorem unescape_escape (text : List Char) : unescape (escape text) = text := by
  induction text with
  | nil => rfl
  | cons c text ih =>
      rw [escape_cons]
      by_cases quote : c = '"'
      · simp [quote, unescape, ih]
      · by_cases backslash : c = '\\'
        · simp [backslash, unescape, ih]
        · simp [quote, backslash, unescape_cons_of_ne backslash, ih]

theorem staysInside_escape (text : List Char) :
    Quoting.staysInside .inside (escape text) = true := by
  induction text with
  | nil => rfl
  | cons c text ih =>
      rw [escape_cons]
      by_cases quote : c = '"'
      · simpa [quote, Quoting.staysInside, Quoting.step] using ih
      · by_cases backslash : c = '\\'
        · simpa [backslash, Quoting.staysInside, Quoting.step] using ih
        · simpa [quote, backslash, Quoting.staysInside, Quoting.step] using ih

theorem escape_of_isName {name : List Char} (named : isName name = true) : escape name = name := by
  induction name with
  | nil => rfl
  | cons c name ih =>
      obtain ⟨first, others⟩ : isNameChar c = true ∧ isName name = true := by
        simpa [isName] using named
      have plain : c ≠ '"' ∧ c ≠ '\\' := by
        simp_all [isNameChar]
      simp [escape_cons, plain, ih others]

theorem staysInside_of_sameLetters {quoting : Quoting} {left right : List Char}
    (same : asciiLowered left = asciiLowered right) (stays : quoting.staysInside right = true) :
    quoting.staysInside left = true := by
  induction right generalizing quoting left with
  | nil =>
      have empty : left = [] := by simpa [asciiLowered] using same
      rwa [empty]
  | cons d right ih =>
      cases left with
      | nil => simp [asciiLowered] at same
      | cons c left =>
          rw [asciiLowered_cons, asciiLowered_cons, List.cons.injEq] at same
          obtain ⟨first, others⟩ := same
          have step : quoting.step c = quoting.step d := by
            have quote : c = '"' ↔ d = '"' := by
              constructor <;> rintro rfl
              · exact eq_of_toLower_eq_toLower first.symm rfl
              · exact eq_of_toLower_eq_toLower first rfl
            have backslash : c = '\\' ↔ d = '\\' := by
              constructor <;> rintro rfl
              · exact eq_of_toLower_eq_toLower first.symm rfl
              · exact eq_of_toLower_eq_toLower first rfl
            cases quoting <;> simp [Quoting.step, quote, backslash]
          have notOutside := Quoting.ne_outside_of_staysInside stays
          rw [Quoting.staysInside_cons notOutside] at stays ⊢
          rw [step]
          exact ih others stays

theorem toList_toString_int (value : Int) :
    (toString value).toList =
      if 0 ≤ value then Nat.toDigits 10 value.toNat else '-' :: Nat.toDigits 10 (-value).toNat := by
  cases value with
  | ofNat n => exact Nat.toList_repr
  | negSucc n =>
      rw [show (toString (Int.negSucc n)).toList = ("-" ++ (n + 1).repr).toList from rfl]
      simp

theorem isDigit_iff {c : Char} : c.isDigit = true ↔ 48 ≤ c.toNat ∧ c.toNat ≤ 57 := by
  simp [Char.isDigit, UInt32.le_iff_toNat_le, ← Char.toNat_val]

theorem isBlank_of_isDigit {c : Char} (digit : c.isDigit = true) : isBlank c = false := by
  have bounds := isDigit_iff.mp digit
  simp [isBlank]
  omega

theorem isDigit_of_mem_toDigits {n : Nat} {c : Char} (member : c ∈ Nat.toDigits 10 n) :
    c.isDigit = true :=
  Nat.isDigit_of_mem_toDigits (by decide) (by decide) member

theorem exists_toDigits_eq_cons (n : Nat) :
    ∃ c tail, Nat.toDigits 10 n = c :: tail ∧ c.isDigit = true := by
  cases digits : Nat.toDigits 10 n with
  | nil => exact absurd digits Nat.toDigits_ne_nil
  | cons c tail =>
      have member : c ∈ Nat.toDigits 10 n := by
        rw [digits]
        exact List.mem_cons_self
      exact ⟨c, tail, rfl, isDigit_of_mem_toDigits member⟩

theorem exists_head_toString_int (value : Int) :
    ∃ c tail, (toString value).toList = c :: tail ∧ (c = '-' ∨ c.isDigit = true) := by
  rw [toList_toString_int]
  split
  · obtain ⟨c, tail, digits, digit⟩ := exists_toDigits_eq_cons value.toNat
    exact ⟨c, tail, digits, Or.inr digit⟩
  · exact ⟨'-', _, rfl, Or.inl rfl⟩

theorem isInert_of_isDigit {c : Char} (digit : c.isDigit = true) : isInert c = true := by
  have bounds := isDigit_iff.mp digit
  have different {d : Char} (code : d.toNat < 48 ∨ 57 < d.toNat) : c ≠ d := by
    rintro rfl
    omega
  simp [isInert, different]

theorem isInert_toString_int (value : Int) : ∀ c ∈ (toString value).toList, isInert c = true := by
  have digits (n : Nat) : ∀ c ∈ Nat.toDigits 10 n, isInert c = true := fun c member =>
    isInert_of_isDigit (isDigit_of_mem_toDigits member)
  rw [toList_toString_int]
  split
  · exact digits _
  · simpa [isInert] using digits (-value).toNat

theorem isInert_toString_bool (value : Bool) : ∀ c ∈ (toString value).toList, isInert c = true := by
  cases value <;> exact List.all_eq_true.mp rfl

theorem quote_not_mem_of_isInert {text : List Char} (inert : ∀ c ∈ text, isInert c = true) :
    '"' ∉ text :=
  fun member => absurd (inert '"' member) (by decide)

structure Entry where
  name : String
  value : Json
  nameText : List Char
  valueText : List Char

namespace Entry

def member (entry : Entry) : String × Json :=
  (entry.name, entry.value)

def texts (entry : Entry) : List Char × List Char :=
  (entry.nameText, entry.valueText)

end Entry

theorem exists_entry {fields : List Field} {entries : List Entry}
    (laid : fields.map Field.core = entries.map Entry.texts) {field : Field}
    (member : field ∈ fields) :
    ∃ entry ∈ entries, entry.nameText = field.name ∧ entry.valueText = field.value := by
  have inEntries : field.core ∈ entries.map Entry.texts := by
    rw [← laid]
    exact List.mem_map_of_mem member
  simpa [Entry.texts, Field.core] using inEntries

theorem balanced_entries {blank : Space} {fields : List Field} {entries : List Entry}
    (laid : fields.map Field.core = entries.map Entry.texts)
    (spelled : ∀ entry ∈ entries,
      asciiLowered entry.nameText = asciiLowered (escape entry.name.toList))
    (values : ∀ entry ∈ entries, Balanced entry.valueText) :
    Balanced (blank.text ++ separated (fields.map Field.text)) := by
  refine balanced_fields ?_ ?_
  · intro field member
    obtain ⟨entry, entryMember, name, _⟩ := exists_entry laid member
    rw [← name]
    exact staysInside_of_sameLetters (spelled entry entryMember) (staysInside_escape _)
  · intro field member
    obtain ⟨entry, entryMember, _, value⟩ := exists_entry laid member
    rw [← value]
    exact values entry entryMember

theorem balanced_pairs {α : Type} {blank : Space} {pairs : List (α × Slot)}
    (values : ∀ pair ∈ pairs, Balanced pair.2.value) :
    Balanced (blank.text ++ separated ((pairs.map Prod.snd).map Slot.text)) := by
  refine balanced_items fun slot member => ?_
  obtain ⟨pair, pairMember, rfl⟩ := List.mem_map.mp member
  exact values pair pairMember

end FieldMenu.Layout

namespace FieldMenu.Json

open Scan Text Layout

inductive Written : Json → List Char → Prop
  | null : Written .null "null".toList
  | bool (value : Bool) : Written (.bool value) (toString value).toList
  | int (value : Int) : Written (.int value) (toString value).toList
  | string (value : String) : Written (.string value) ('"' :: escape value.toList ++ ['"'])
  | array (blank : Space) (items : List (Json × Slot))
      (written : ∀ item ∈ items, Written item.1 item.2.value) :
      Written (.array (items.map Prod.fst)) (arrayText blank (items.map Prod.snd))
  | object {members : List (String × Json)} (blank : Space) (fields : List Field)
      (entries : List Entry) (order : (entries.map Entry.member).Perm members)
      (spelled : ∀ entry ∈ entries,
        asciiLowered entry.nameText = asciiLowered (escape entry.name.toList))
      (written : ∀ entry ∈ entries, Written entry.value entry.valueText)
      (laid : fields.map Field.core = entries.map Entry.texts) :
      Written (.object members) (objectText blank fields)

/-- Every member at any depth has one of these names. -/
inductive NamedBy (names : List String) : Json → Prop
  | null : NamedBy names .null
  | bool (value : Bool) : NamedBy names (.bool value)
  | int (value : Int) : NamedBy names (.int value)
  | string (value : String) : NamedBy names (.string value)
  | array {items : List Json} (each : ∀ item ∈ items, NamedBy names item) :
      NamedBy names (.array items)
  | object {members : List (String × Json)} (known : ∀ member ∈ members, member.1 ∈ names)
      (each : ∀ member ∈ members, NamedBy names member.2) : NamedBy names (.object members)

theorem NamedBy.mono {names more : List String} (within : ∀ name ∈ names, name ∈ more) {json : Json}
    (named : json.NamedBy names) : json.NamedBy more := by
  induction named with
  | null => exact .null
  | bool value => exact .bool value
  | int value => exact .int value
  | string value => exact .string value
  | array each ih => exact .array ih
  | object known each ih =>
      exact .object (fun member there => within _ (known member there)) ih

/-- A key that is none of the names, all of which hold nothing but characters of names. -/
structure Apart (key : String) (names : List String) : Prop where
  keyNamed : isName key.toList = true
  named : ∀ name ∈ names, isName name.toList = true
  other : ∀ name ∈ names, asciiLowered name.toList ≠ asciiLowered key.toList

theorem quiet_field {key name : String} {field : Field} (plain : isName name.toList = true)
    (other : asciiLowered name.toList ≠ asciiLowered key.toList)
    (spelled : asciiLowered field.name = asciiLowered (escape name.toList))
    (value : Quiet key field.value) : field.Quiet key := by
  rw [escape_of_isName plain] at spelled
  exact ⟨isName_of_sameLetters plain spelled, by rwa [spelled], value⟩

namespace Written

theorem balanced {json : Json} {text : List Char} (written : Written json text) :
    Balanced text := by
  induction written with
  | null => exact .of_inert (List.all_eq_true.mp rfl)
  | bool value => exact .of_inert (isInert_toString_bool value)
  | int value => exact .of_inert (isInert_toString_int value)
  | string value => exact .string (staysInside_escape value.toList)
  | array blank items written ih =>
      exact .bracketed (show closerOf? '[' = some ']' from rfl) (balanced_pairs ih)
  | object blank fields entries order spelled written laid ih =>
      exact .bracketed (show closerOf? '{' = some '}' from rfl) (balanced_entries laid spelled ih)

theorem quiet {names : List String} {key : String} {json : Json} {text : List Char}
    (written : Written json text) (named : json.NamedBy names) (apart : Apart key names) :
    Quiet key text := by
  induction written with
  | null => exact .of_passes (passes_of_no_quote (by decide))
  | bool value =>
      exact .of_passes (passes_of_no_quote (quote_not_mem_of_isInert (isInert_toString_bool value)))
  | int value =>
      exact .of_passes (passes_of_no_quote (quote_not_mem_of_isInert (isInert_toString_int value)))
  | string value => exact quiet_string apart.keyNamed (staysInside_escape value.toList)
  | array blank items written ih =>
      cases named with
      | array each =>
          refine .of_passes (passes_array ?_)
          intro slot member
          obtain ⟨item, itemMember, rfl⟩ := List.mem_map.mp member
          exact ih item itemMember (each item.1 (List.mem_map_of_mem itemMember))
  | object blank fields entries order spelled written laid ih =>
      cases named with
      | object known each =>
          -- The name of the member is none that the key could be taken for, nor is any inside it.
          refine .of_passes (passes_object apart.keyNamed ?_)
          intro field member
          obtain ⟨entry, entryMember, name, value⟩ := exists_entry laid member
          have inMembers := order.mem_iff.mp (List.mem_map_of_mem entryMember)
          have inNames : entry.name ∈ names := known _ inMembers
          refine quiet_field (apart.named _ inNames) (apart.other _ inNames) ?_ ?_
          · rw [← name]
            exact spelled entry entryMember
          · rw [← value]
            exact ih entry entryMember (each _ inMembers)

end Written

end FieldMenu.Json
