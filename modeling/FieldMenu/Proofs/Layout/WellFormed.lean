import FieldMenu.Proofs.Layout.Written

/-! JSON text by its grammar, but that a string may hold anything its closing quote ends. -/

namespace FieldMenu

open Scan Text Layout

namespace Json

def isNumberChar (c : Char) : Bool :=
  c.isDigit || c == '-' || c == '+' || c == '.' || c == 'e' || c == 'E'

def IsNumeral (spelled : List Char) : Prop :=
  ∀ c ∈ spelled, isNumberChar c = true

theorem readDigits?_eq_some {text digits rest : List Char}
    (read : readDigits? text = some (digits, rest)) : text = digits ++ rest ∧ IsNumeral digits := by
  rw [readDigits?] at read
  split at read
  · cases read
  · cases read
    refine ⟨List.takeWhile_append_dropWhile.symm, fun c member => ?_⟩
    have digit : c.isDigit = true := List.all_eq_true.mp List.all_takeWhile c member
    simp [isNumberChar, digit]

theorem readWhole?_eq_some {text digits rest : List Char}
    (read : readWhole? text = some (digits, rest)) : text = digits ++ rest ∧ IsNumeral digits := by
  unfold readWhole? at read
  split at read
  · cases read
    exact ⟨rfl, by simp [IsNumeral, isNumberChar]⟩
  · exact readDigits?_eq_some read

theorem readFraction?_eq_some {text fraction rest : List Char}
    (read : readFraction? text = some (fraction, rest)) :
    text = fraction ++ rest ∧ IsNumeral fraction := by
  unfold readFraction? at read
  split at read
  · obtain ⟨⟨digits, behind⟩, reads, same⟩ := Option.map_eq_some_iff.mp read
    cases same
    obtain ⟨rfl, spelled⟩ := readDigits?_eq_some reads
    exact ⟨rfl, List.forall_mem_cons.mpr ⟨rfl, spelled⟩⟩
  · cases read
    exact ⟨rfl, by simp [IsNumeral]⟩

theorem readExponent?_eq_some {text exponent rest : List Char}
    (read : readExponent? text = some (exponent, rest)) :
    text = exponent ++ rest ∧ IsNumeral exponent := by
  unfold readExponent? at read
  split at read
  · rename_i e rest
    split at read
    · rename_i letter
      have marked : isNumberChar e = true := by
        obtain rfl | rfl := letter <;> rfl
      split at read
      · rename_i sign tail
        split at read
        · rename_i signed
          have signMarked : isNumberChar sign = true := by
            obtain rfl | rfl := signed <;> rfl
          obtain ⟨⟨digits, behind⟩, reads, same⟩ := Option.map_eq_some_iff.mp read
          cases same
          obtain ⟨rfl, spelled⟩ := readDigits?_eq_some reads
          exact ⟨rfl, List.forall_mem_cons.mpr ⟨marked, List.forall_mem_cons.mpr
            ⟨signMarked, spelled⟩⟩⟩
        · obtain ⟨⟨digits, behind⟩, reads, same⟩ := Option.map_eq_some_iff.mp read
          cases same
          obtain ⟨whole, spelled⟩ := readDigits?_eq_some reads
          exact ⟨by rw [whole, List.cons_append], List.forall_mem_cons.mpr ⟨marked, spelled⟩⟩
      · cases read
    · cases read
      exact ⟨rfl, by simp [IsNumeral]⟩
  · cases read
    exact ⟨rfl, by simp [IsNumeral]⟩

theorem readNumber?_eq_some {text rest : List Char} {number : Json}
    (read : readNumber? text = some (number, rest)) :
    ∃ spelled, text = spelled ++ rest ∧ IsNumeral spelled := by
  have sign (text : List Char) : ∃ sign, IsNumeral sign ∧
      text = sign ++ if text.head? = some '-' then text.tail else text := by
    split
    · rename_i negative
      obtain ⟨tail, rfl⟩ := List.head?_eq_some_iff.mp negative
      exact ⟨['-'], by simp [IsNumeral, isNumberChar], rfl⟩
    · exact ⟨[], by simp [IsNumeral], rfl⟩
  simp only [readNumber?, Option.bind_eq_bind, Option.bind_eq_some_iff] at read
  obtain ⟨⟨whole, behind⟩, reads, ⟨fraction, later⟩, readsFraction, ⟨exponent, last⟩, readsExponent,
    same⟩ := read
  obtain ⟨digits, numeral⟩ := readWhole?_eq_some reads
  obtain ⟨rfl, fractionNumeral⟩ := readFraction?_eq_some readsFraction
  obtain ⟨rfl, exponentNumeral⟩ := readExponent?_eq_some readsExponent
  obtain ⟨sign, signNumeral, spelled⟩ := sign text
  have last : last = rest := by
    split at same
    · exact congrArg Prod.snd (Option.some.inj same)
    · exact congrArg Prod.snd (Option.some.inj same)
  refine ⟨sign ++ (whole ++ (fraction ++ exponent)), ?_, ?_⟩
  · rw [spelled, digits, last]
    simp
  · simp only [IsNumeral, List.forall_mem_append] at *
    exact ⟨signNumeral, numeral, fractionNumeral, exponentNumeral⟩

/-- A value that is neither a string nor in brackets. -/
def IsWord (text : List Char) : Prop :=
  text ∈ ["null".toList, "true".toList, "false".toList] ∨
    ∃ number, readNumber? text = some (number, [])

theorem isInert_of_isWord {text : List Char} (word : IsWord text) :
    ∀ c ∈ text, isInert c = true := by
  rcases word with constant | ⟨number, read⟩
  · simp only [List.mem_cons, List.not_mem_nil, or_false] at constant
    rcases constant with rfl | rfl | rfl <;> exact List.all_eq_true.mp rfl
  · obtain ⟨spelled, rfl, numeral⟩ := readNumber?_eq_some read
    rw [List.append_nil]
    intro c member
    have marked := numeral c member
    simp only [isNumberChar, Bool.or_eq_true, beq_iff_eq] at marked
    rcases marked with ((((digit | rfl) | rfl) | rfl) | rfl) | rfl
    · exact isInert_of_isDigit digit
    all_goals rfl

end Json

namespace Layout

/-- Text of a JSON value the members of which, at any depth, have names of this class. -/
inductive WellFormed (named : List Char → Prop) : List Char → Prop
  | word {text : List Char} (word : Json.IsWord text) : WellFormed named text
  | string {content : List Char} (stays : Quoting.staysInside .inside content = true) :
      WellFormed named ('"' :: content ++ ['"'])
  | array (blank : Space) {slots : List Slot} (each : ∀ slot ∈ slots, WellFormed named slot.value) :
      WellFormed named (arrayText blank slots)
  | object (blank : Space) {fields : List Field} (names : ∀ field ∈ fields, named field.name)
      (each : ∀ field ∈ fields, WellFormed named field.value) :
      WellFormed named (objectText blank fields)

namespace WellFormed

variable {named other : List Char → Prop} {text : List Char}

theorem mono (within : ∀ name, named name → other name) (formed : WellFormed named text) :
    WellFormed other text := by
  induction formed with
  | word word => exact .word word
  | string stays => exact .string stays
  | array blank each ih => exact .array blank ih
  | object blank names each ih =>
      exact .object blank (fun field there => within _ (names field there)) ih

theorem balanced (closed : ∀ name, named name → Quoting.staysInside .inside name = true)
    (formed : WellFormed named text) : Balanced text := by
  induction formed with
  | word word => exact .of_inert (Json.isInert_of_isWord word)
  | string stays => exact .string stays
  | array blank each ih =>
      exact .bracketed (show closerOf? '[' = some ']' from rfl) (balanced_items ih)
  | object blank names each ih =>
      have stays := fun field there => closed _ (names field there)
      exact .bracketed (show closerOf? '{' = some '}' from rfl) (balanced_fields stays ih)

end WellFormed

/-- A composing property that strings and names have with what ends them. -/
structure Spreads (P : List Char → Prop) (named : List Char → Prop) : Prop extends Composes P where
  string : ∀ {content : List Char}, Quoting.staysInside .inside content = true →
    Ended P ('"' :: content ++ ['"'])
  name : ∀ {name : List Char}, named name → ∀ gap : Space,
    P ('"' :: name ++ '"' :: (gap.text ++ [':']))

theorem WellFormed.ended {P named : List Char → Prop} (spreads : Spreads P named)
    {text : List Char} (formed : WellFormed named text) : Ended P text := by
  have composes := spreads.toComposes
  induction formed with
  | word word =>
      exact composes.ended (composes.of_no_quote
        (quote_not_mem_of_isInert (Json.isInert_of_isWord word)))
  | string stays => exact spreads.string stays
  | array blank each ih => exact composes.ended (composes.array ih)
  | object blank names each ih =>
      exact composes.ended
        (composes.object (fun field there => spreads.name (names field there) field.gap) ih)

/-- The front of JSON text up to a member, at any depth: the members and items in front of it are
whole, and the objects, members and arrays around it are open. -/
inductive Front (named : List Char → Prop) : List Char → Prop
  | here (lead blank : Space) {before : List Field} (names : ∀ field ∈ before, named field.name)
      (each : ∀ field ∈ before, WellFormed named field.value) :
      Front named (opening lead blank before)
  | member (lead blank : Space) {before : List Field} (names : ∀ field ∈ before, named field.name)
      (each : ∀ field ∈ before, WellFormed named field.value) (space : Space) {name : List Char}
      (around : named name) (gap : Space) {inner : List Char} (within : Front named inner) :
      Front named (opening lead blank before ++
        (space.text ++ '"' :: name ++ '"' :: (gap.text ++ [':']) ++ inner))
  | item (lead blank : Space) {slots : List Slot}
      (each : ∀ slot ∈ slots, WellFormed named slot.value) {inner : List Char}
      (within : Front named inner) :
      Front named
        (lead.text ++ '[' :: blank.text ++ slots.flatMap (fun slot => slot.text ++ [',']) ++ inner)

theorem Front.spread {P named : List Char → Prop} (spreads : Spreads P named) {front : List Char}
    (ahead : Front named front) : P front := by
  have composes := spreads.toComposes
  have opening (lead blank : Space) {before : List Field}
      (names : ∀ field ∈ before, named field.name)
      (each : ∀ field ∈ before, WellFormed named field.value) : P (opening lead blank before) :=
    composes.opening (fun field there => spreads.name (names field there) field.gap)
      fun field there => (each field there).ended spreads
  induction ahead with
  | here lead blank names each => exact opening lead blank names each
  | @member lead blank before names each space name around gap inner within ih =>
      refine composes.append (opening lead blank names each) (composes.append ?_ ih)
      simpa using composes.append (composes.space space) (spreads.name around gap)
  | @item lead blank slots each inner within ih =>
      have items : P (slots.flatMap fun slot => slot.text ++ [',']) :=
        composes.flatMap fun slot there =>
          composes.slot ((each slot there).ended spreads) rfl (by decide)
      have bracket : P ['['] := composes.mark rfl
      refine composes.append ?_ ih
      simpa using composes.append (composes.space lead)
        (composes.append bracket (composes.append (composes.space blank) items))

end Layout

end FieldMenu
