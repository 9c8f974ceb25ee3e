import FieldMenu.Json.Write
import FieldMenu.Proofs.Layout.Written

namespace FieldMenu.Json

open Layout

theorem skipSpace_append {lead : List Char} (spaces : ∀ c ∈ lead, isSpace c = true)
    (text : List Char) : skipSpace (lead ++ text) = skipSpace text :=
  List.dropWhile_append_of_pos spaces

theorem skipSpace_cons {c : Char} (other : isSpace c = false) (text : List Char) :
    skipSpace (c :: text) = c :: text :=
  List.dropWhile_cons_of_neg (by simp [other])

theorem isSpace_indent (depth : Nat) : ∀ c ∈ (indent depth).toList, isSpace c = true := by
  intro c member
  rw [indent, String.toList_ofList] at member
  rw [List.eq_of_mem_replicate member]
  rfl

/-! Strings. -/

theorem hexValue?_digitChar : ∀ digit < 16, hexValue? (Nat.digitChar digit) = some digit := by
  decide

theorem toList_quote (text : String) :
    (quote text).toList =
      '"' :: (text.toList.flatMap fun c => (escapeChar c).toList) ++ ['"'] := by
  have written (start : String) (content : List Char) :
      (content.foldl (fun written c => written ++ escapeChar c) start).toList =
        start.toList ++ content.flatMap fun c => (escapeChar c).toList := by
    induction content generalizing start with
    | nil => simp
    | cons c content ih => simp [ih]
  rw [quote, String.foldl_eq_foldl_toList, String.toList_append, written]
  rfl

theorem escapeChar_cases (c : Char) :
    (∃ letter, (escapeChar c).toList = ['\\', letter] ∧ simpleEscape? letter = some c) ∨
    (c.toNat < 0x20 ∧ (escapeChar c).toList =
      ['\\', 'u', '0', '0', Nat.digitChar (c.toNat / 16 % 16), Nat.digitChar (c.toNat % 16)]) ∨
    (c ≠ '"' ∧ c ≠ '\\' ∧ 0x20 ≤ c.toNat ∧ (escapeChar c).toList = [c]) := by
  by_cases named : c ∈ ['"', '\\', '\n', '\r', '\t', '\x08', '\x0c']
  · simp only [List.mem_cons, List.not_mem_nil, or_false] at named
    rcases named with rfl | rfl | rfl | rfl | rfl | rfl | rfl <;> exact .inl ⟨_, rfl, rfl⟩
  · simp only [List.mem_cons, List.not_mem_nil, or_false, not_or] at named
    obtain ⟨notQuote, notBackslash, others⟩ := named
    by_cases control : c.toNat < 0x20
    · exact .inr (.inl ⟨control, by simp [escapeChar, notQuote, notBackslash, others, control,
        hexPair]⟩)
    · exact .inr (.inr ⟨notQuote, notBackslash, Nat.le_of_not_lt control,
        by simp [escapeChar, notQuote, notBackslash, others, control]⟩)

theorem readEscapedUnit?_code {c : Char} (control : c.toNat < 0x20) (rest : List Char) :
    readEscapedUnit? ('0' :: '0' :: Nat.digitChar (c.toNat / 16 % 16) ::
      Nat.digitChar (c.toNat % 16) :: rest) = some (some c, rest) := by
  have high := hexValue?_digitChar (c.toNat / 16 % 16) (by omega)
  have low := hexValue?_digitChar (c.toNat % 16) (by omega)
  have zero : hexValue? '0' = some 0 := rfl
  have unit : ((0 * 16 + 0) * 16 + c.toNat / 16 % 16) * 16 + c.toNat % 16 = c.toNat := by
    omega
  have noPair : ¬ (0xD800 ≤ c.toNat ∧ c.toNat ≤ 0xDFFF) := by
    omega
  simp only [readEscapedUnit?, readUnit?, zero, high, low, Option.bind_eq_bind, Option.bind_some,
    unit, noPair, if_false, Char.ofNat_toNat]

theorem readStringBody?_escapeChar (fuel : Nat) (read : List Char) (c : Char) (rest : List Char) :
    readStringBody? (fuel + 1) (some read) ((escapeChar c).toList ++ rest) =
      readStringBody? fuel (some (c :: read)) rest := by
  obtain ⟨letter, spelled, means⟩ | ⟨control, spelled⟩ |
    ⟨notQuote, notBackslash, printable, spelled⟩ := escapeChar_cases c
  · have other : letter ≠ 'u' := by
      rintro rfl
      cases means
    rw [spelled]
    simp [readStringBody?, means]
  · rw [spelled]
    simp [readStringBody?, readEscapedUnit?_code control]
  · rw [spelled]
    simp [readStringBody?, notQuote, notBackslash, Nat.not_lt.mpr printable]

theorem readStringBody?_written (content read rest : List Char) (fuel : Nat)
    (enough : content.length < fuel) :
    readStringBody? fuel (some read)
        ((content.flatMap fun c => (escapeChar c).toList) ++ '"' :: rest) =
      some (some (String.ofList (read.reverse ++ content)), rest) := by
  induction content generalizing read fuel with
  | nil =>
      obtain ⟨fuel, rfl⟩ := Nat.exists_eq_succ_of_ne_zero (Nat.ne_of_gt enough)
      simp [readStringBody?]
  | cons c content ih =>
      obtain ⟨fuel, rfl⟩ := Nat.exists_eq_succ_of_ne_zero (Nat.ne_zero_of_lt enough)
      have left : content.length < fuel := Nat.lt_of_succ_lt_succ enough
      rw [List.flatMap_cons, List.append_assoc, readStringBody?_escapeChar,
        ih (c :: read) fuel left]
      simp

theorem length_lt_of_quote (text : String) :
    text.toList.length + 1 < (quote text).toList.length := by
  have longer (content : List Char) :
      content.length ≤ (content.flatMap fun c => (escapeChar c).toList).length := by
    induction content with
    | nil => exact Nat.le_refl 0
    | cons c content ih =>
        have atLeastOne : 0 < (escapeChar c).toList.length := by
          obtain ⟨letter, spelled, _⟩ | ⟨_, spelled⟩ | ⟨_, _, _, spelled⟩ := escapeChar_cases c
          all_goals
            rw [spelled]
            exact Nat.succ_pos _
        rw [List.flatMap_cons, List.length_append, List.length_cons]
        omega
  have content := longer text.toList
  rw [toList_quote, List.length_append, List.length_cons, List.length_singleton]
  omega

/-! Numbers. -/

/-- The text behind a number does not go on with it. -/
def EndsNumber (rest : List Char) : Prop :=
  ∀ c ∈ rest.head?, c.isDigit = false ∧ c ≠ '.' ∧ c ≠ 'e' ∧ c ≠ 'E'

theorem head?_toDigits_ne_zero {n : Nat} (positive : 0 < n) :
    (Nat.toDigits 10 n).head? ≠ some '0' := by
  induction n using Nat.strongRecOn with
  | ind n ih =>
      rw [Nat.toDigits_eq_if (by decide)]
      split
      · rename_i digit
        intro same
        have code := congrArg Char.toNat (Option.some_inj.mp same)
        rw [Nat.toNat_digitChar_of_lt_ten digit] at code
        simp at code
        omega
      · have front := ih (n / 10) (by omega) (by omega)
        obtain ⟨c, tail, spelled, _⟩ := exists_toDigits_eq_cons (n / 10)
        rw [spelled] at front ⊢
        exact front

theorem readDigits?_written {digits rest : List Char} (nonempty : digits ≠ [])
    (allDigits : ∀ c ∈ digits, c.isDigit = true) (ends : EndsNumber rest) :
    readDigits? (digits ++ rest) = some (digits, rest) := by
  have stops : rest.takeWhile Char.isDigit = [] ∧ rest.dropWhile Char.isDigit = rest := by
    cases rest with
    | nil => exact ⟨rfl, rfl⟩
    | cons c rest =>
        have noDigit := (ends c rfl).1
        exact ⟨List.takeWhile_cons_of_neg (by simp [noDigit]),
          List.dropWhile_cons_of_neg (by simp [noDigit])⟩
  rw [readDigits?, List.takeWhile_append_of_pos allDigits, List.dropWhile_append_of_pos allDigits,
    stops.1, stops.2, List.append_nil]
  simp [nonempty]

theorem readWhole?_toDigits (n : Nat) {rest : List Char} (ends : EndsNumber rest) :
    readWhole? (Nat.toDigits 10 n ++ rest) = some (Nat.toDigits 10 n, rest) := by
  obtain rfl | positive := Nat.eq_zero_or_pos n
  · rfl
  · have digits := readDigits?_written Nat.toDigits_ne_nil
      (fun c member => isDigit_of_mem_toDigits (n := n) member) ends
    have notZero := head?_toDigits_ne_zero positive
    obtain ⟨c, tail, spelled, _⟩ := exists_toDigits_eq_cons n
    rw [spelled] at digits notZero ⊢
    have other : c ≠ '0' := fun same => notZero (congrArg some same)
    rw [← digits, List.cons_append, readWhole?]
    intro _ same
    exact other (List.cons.inj same).1

theorem readFraction?_of_ends {rest : List Char} (ends : EndsNumber rest) :
    readFraction? rest = some ([], rest) := by
  rw [readFraction?]
  rintro tail rfl
  exact absurd rfl (ends '.' rfl).2.1

theorem readExponent?_of_ends {rest : List Char} (ends : EndsNumber rest) :
    readExponent? rest = some ([], rest) := by
  cases rest with
  | nil => rfl
  | cons c rest =>
      obtain ⟨_, _, small, capital⟩ := ends c rfl
      simp [readExponent?, small, capital]

theorem magnitude_toDigits (n : Nat) :
    (Nat.toDigits 10 n).foldl (fun (total : Int) c => 10 * total + (c.toNat - '0'.toNat)) 0 =
      n := by
  have folded (digits : List Char) (allDigits : ∀ c ∈ digits, c.isDigit = true) (total : Nat) :
      digits.foldl (fun (total : Int) c => 10 * total + (c.toNat - '0'.toNat)) total =
        (Nat.ofDigitChars 10 digits total : Nat) := by
    induction digits generalizing total with
    | nil => rfl
    | cons c digits ih =>
        have bounds := isDigit_iff.mp (allDigits c List.mem_cons_self)
        have step : 10 * (total : Int) + (c.toNat - '0'.toNat) =
            (10 * total + (c.toNat - '0'.toNat) : Nat) := by
          simp
          omega
        rw [List.foldl_cons, step, ih fun d member => allDigits d (List.mem_cons_of_mem c member)]
        rfl
  have whole := folded (Nat.toDigits 10 n) (fun c member => isDigit_of_mem_toDigits member) 0
  rwa [Nat.ofDigitChars_toDigits (by decide) (by decide)] at whole

theorem readNumber?_written (value : Int) {rest : List Char} (ends : EndsNumber rest) :
    readNumber? ((toString value).toList ++ rest) = some (.int value, rest) := by
  rw [toList_toString_int]
  split
  · rename_i nonnegative
    have whole := readWhole?_toDigits value.toNat ends
    obtain ⟨c, tail, spelled, digit⟩ := exists_toDigits_eq_cons value.toNat
    have noSign : (Nat.toDigits 10 value.toNat ++ rest).head? ≠ some '-' := by
      rw [spelled]
      rintro ⟨⟩
      cases digit
    simp only [readNumber?, noSign, if_false, whole, Option.bind_eq_bind, Option.bind_some,
      readFraction?_of_ends ends, readExponent?_of_ends ends, magnitude_toDigits, List.isEmpty_nil, false_and, not_false_eq_true, and_self, if_true,
      Int.toNat_of_nonneg nonnegative]
  · rename_i negative
    have whole := readWhole?_toDigits (-value).toNat ends
    have notZero : (((-value).toNat : Nat) : Int) ≠ 0 := by
      omega
    have back : -(((-value).toNat : Nat) : Int) = value := by
      omega
    simp only [readNumber?, List.cons_append, List.head?_cons, if_true, List.tail_cons,
      whole, Option.bind_eq_bind, Option.bind_some, readFraction?_of_ends ends,
      readExponent?_of_ends ends, magnitude_toDigits, List.isEmpty_nil, notZero, and_false, not_false_eq_true, and_self, back]

/-! Values. -/

/-- A value without real numbers, and without text that denotes nothing. -/
inductive Plain : Json → Prop
  | null : Plain .null
  | bool (value : Bool) : Plain (.bool value)
  | int (value : Int) : Plain (.int value)
  | string (value : String) : Plain (.string value)
  | array {items : List Json} (each : ∀ item ∈ items, Plain item) : Plain (.array items)
  | object {members : List (String × Json)} (each : ∀ member ∈ members, Plain member.2) :
      Plain (.object members)

theorem endsNumber_of_mark {trail : List Char} (spaces : ∀ c ∈ trail, isSpace c = true)
    {mark : Char} (marked : Text.isMark mark = true) (rest : List Char) :
    EndsNumber (trail ++ mark :: rest) := by
  intro c first
  cases trail with
  | nil =>
      cases first
      simp only [Text.isMark, Bool.or_eq_true, beq_iff_eq] at marked
      rcases marked with ((((rfl | rfl) | rfl) | rfl) | rfl) | rfl <;> decide
  | cons d trail =>
      cases first
      rcases Text.isSpace_iff.mp (spaces c List.mem_cons_self) with rfl | rfl | rfl | rfl <;> decide

theorem readValue?_append {lead : List Char} (spaces : ∀ c ∈ lead, isSpace c = true) (fuel : Nat)
    (text : List Char) : readValue? fuel (lead ++ text) = readValue? fuel text := by
  cases fuel with
  | zero => simp only [readValue?]
  | succ fuel => simp only [readValue?, skipSpace_append spaces]

/-- The text of a value begins with neither white space nor a closing bracket, and the reader takes
the value from it, whatever stands behind. -/
structure Rereads (json : Json) : Prop where
  head : ∀ depth, ∃ c tail, (indentedAt depth json).toList = c :: tail ∧ isSpace c = false ∧
    c ≠ ']'
  value : ∀ (depth fuel : Nat) (rest : List Char), EndsNumber rest →
    (indentedAt depth json).toList.length ≤ fuel + 1 →
    readValue? (fuel + 1) ((indentedAt depth json).toList ++ rest) = some (json, rest)

theorem afterWord?_eq_none {word : String} {c first : Char} {tail : List Char}
    (spelled : word.toList = first :: tail) (different : first ≠ c) (text : List Char) :
    afterWord? word (c :: text) = none := by
  simp [afterWord?, spelled, different]

theorem afterWord?_append (word : String) (rest : List Char) :
    afterWord? word (word.toList ++ rest) = some rest := by
  have starts : word.toList.isPrefixOf (word.toList ++ rest) = true :=
    List.isPrefixOf_iff_prefix.mpr (List.prefix_append word.toList rest)
  rw [afterWord?, if_pos starts, List.drop_left' String.length_toList]

theorem readValue?_word {c : Char} (noSpace : isSpace c = false)
    (other : c ≠ '"' ∧ c ≠ '[' ∧ c ≠ '\x7b') (fuel : Nat) (tail : List Char) :
    readValue? (fuel + 1) (c :: tail) =
      match afterWord? "null" (c :: tail), afterWord? "true" (c :: tail),
        afterWord? "false" (c :: tail) with
      | some rest, _, _ => some (.null, rest)
      | _, some rest, _ => some (.bool true, rest)
      | _, _, some rest => some (.bool false, rest)
      | none, none, none => readNumber? (c :: tail) := by
  obtain ⟨noQuote, noArray, noObject⟩ := other
  simp only [readValue?, skipSpace_cons noSpace]
  split
  · exact absurd (List.cons.inj ‹_›).1 noQuote
  · exact absurd (List.cons.inj ‹_›).1 noArray
  · exact absurd (List.cons.inj ‹_›).1 noObject
  · rfl

namespace Rereads

theorem of_spelled {json : Json} {c : Char} {tail : List Char}
    (written : ∀ depth, (indentedAt depth json).toList = c :: tail) (noSpace : isSpace c = false)
    (noBracket : c ≠ ']')
    (reads : ∀ fuel rest, EndsNumber rest →
      readValue? (fuel + 1) (c :: (tail ++ rest)) = some (json, rest)) : Rereads json where
  head depth := ⟨c, tail, written depth, noSpace, noBracket⟩
  value depth fuel rest ends _ := by
    rw [written depth, List.cons_append]
    exact reads fuel rest ends

theorem null : Rereads .null := by
  have written (depth : Nat) : (indentedAt depth .null).toList = ['n', 'u', 'l', 'l'] := by
    rw [indentedAt]
    rfl
  refine of_spelled written rfl (by decide) fun fuel rest _ => ?_
  have word : afterWord? "null" ('n' :: (['u', 'l', 'l'] ++ rest)) = some rest :=
    afterWord?_append "null" rest
  rw [readValue?_word rfl (by decide), word]

theorem bool (value : Bool) : Rereads (.bool value) := by
  have noNull {c : Char} (other : 'n' ≠ c) (text : List Char) :
      afterWord? "null" (c :: text) = none :=
    afterWord?_eq_none (show "null".toList = 'n' :: ['u', 'l', 'l'] from rfl) other text
  cases value with
  | true =>
      have written (depth : Nat) :
          (indentedAt depth (.bool true)).toList = ['t', 'r', 'u', 'e'] := by
        rw [indentedAt]
        rfl
      refine of_spelled written rfl (by decide) fun fuel rest _ => ?_
      have word : afterWord? "true" ('t' :: (['r', 'u', 'e'] ++ rest)) = some rest :=
        afterWord?_append "true" rest
      rw [readValue?_word rfl (by decide), noNull (by decide), word]
  | false =>
      have written (depth : Nat) :
          (indentedAt depth (.bool false)).toList = ['f', 'a', 'l', 's', 'e'] := by
        rw [indentedAt]
        rfl
      refine of_spelled written rfl (by decide) fun fuel rest _ => ?_
      have noTrue := afterWord?_eq_none (show "true".toList = 't' :: ['r', 'u', 'e'] from rfl)
        (show 't' ≠ 'f' by decide) (['a', 'l', 's', 'e'] ++ rest)
      have word : afterWord? "false" ('f' :: (['a', 'l', 's', 'e'] ++ rest)) = some rest :=
        afterWord?_append "false" rest
      rw [readValue?_word rfl (by decide), noNull (by decide), noTrue, word]

theorem int (value : Int) : Rereads (.int value) := by
  obtain ⟨c, tail, spelled, first⟩ := exists_head_toString_int value
  have bounds : 45 ≤ c.toNat ∧ c.toNat ≤ 57 := by
    obtain rfl | digit := first
    · decide
    · have digits := isDigit_iff.mp digit
      omega
  have different {d : Char} (code : d.toNat < 45 ∨ 57 < d.toNat) : c ≠ d := by
    rintro rfl
    omega
  have noSpace : isSpace c = false := by
    simp [isSpace, different]
  have written (depth : Nat) : (indentedAt depth (.int value)).toList = c :: tail := by
    rw [← spelled, indentedAt]
  refine of_spelled written noSpace (different (by decide)) fun fuel rest ends => ?_
  have number := readNumber?_written value ends
  have noWord (word : String) {d : Char} {letters : List Char}
      (spelled : word.toList = d :: letters) (letter : 57 < d.toNat) :
      afterWord? word (c :: (tail ++ rest)) = none :=
    afterWord?_eq_none spelled (different (.inr letter)).symm _
  rw [readValue?_word noSpace
      ⟨different (by decide), different (by decide), different (by decide)⟩,
    noWord "null" rfl (by decide), noWord "true" rfl (by decide),
    noWord "false" rfl (by decide), ← List.cons_append, ← spelled, number]

theorem string (value : String) : Rereads (.string value) := by
  have written (depth : Nat) : indentedAt depth (.string value) = quote value := by
    rw [indentedAt]
  refine ⟨fun depth => ?_, fun depth fuel rest ends enough => ?_⟩
  · rw [written, toList_quote]
    exact ⟨'"', _, rfl, rfl, by decide⟩
  · have longer := length_lt_of_quote value
    have content := readStringBody?_written value.toList [] rest (fuel + 1)
      (by rw [written] at enough; omega)
    rw [written, toList_quote]
    simp only [readValue?, List.cons_append, List.append_assoc, List.nil_append,
      skipSpace_cons (show isSpace '"' = false from rfl), content]
    simp [ofReading]

end Rereads

def moreLines (depth : Nat) (pieces : List (List Char)) : List Char :=
  pieces.flatMap fun piece => ',' :: '\n' :: (indent depth).toList ++ piece

theorem moreLines_cons (depth : Nat) (piece : List Char) (pieces : List (List Char)) :
    moreLines depth (piece :: pieces) =
      ',' :: ('\n' :: (indent depth).toList) ++ (piece ++ moreLines depth pieces) := by
  simp [moreLines]

def itemText (depth : Nat) (item : Json) : List Char :=
  (indentedAt depth item).toList

def memberText (depth : Nat) (member : String × Json) : List Char :=
  (quote member.1).toList ++ ':' :: ' ' :: itemText depth member.2

theorem toList_indentedItems (depth : Nat) (item : Json) (items : List Json) :
    (indentedItems depth (item :: items)).toList =
      (indent depth).toList ++ (itemText depth item ++
        moreLines depth (items.map (itemText depth))) := by
  induction items generalizing item with
  | nil => simp [indentedItems, moreLines, itemText]
  | cons next items ih => simp [indentedItems, ih next, moreLines_cons, itemText]

theorem toList_indentedMembers (depth : Nat) (member : String × Json)
    (members : List (String × Json)) :
    (indentedMembers depth (member :: members)).toList =
      (indent depth).toList ++ (memberText depth member ++
        moreLines depth (members.map (memberText depth))) := by
  obtain ⟨name, value⟩ := member
  induction members generalizing name value with
  | nil => simp [indentedMembers, moreLines, memberText, itemText]
  | cons next members ih =>
      simp [indentedMembers, ih next.1 next.2, moreLines_cons, memberText, itemText]

theorem isSpace_newLine (depth : Nat) : ∀ c ∈ '\n' :: (indent depth).toList, isSpace c = true := by
  intro c member
  rcases List.mem_cons.mp member with rfl | inIndent
  · rfl
  · exact isSpace_indent depth c inIndent

theorem endsNumber_moreLines (depth : Nat) (pieces : List (List Char)) {lead rest : List Char}
    (ends : EndsNumber (lead ++ rest)) : EndsNumber (moreLines depth pieces ++ (lead ++ rest)) := by
  cases pieces with
  | nil => exact ends
  | cons piece pieces =>
      rw [moreLines_cons]
      exact endsNumber_of_mark Space.isSpace_nil rfl _

theorem Rereads.length_pos {json : Json} (rereads : Rereads json) (depth : Nat) :
    0 < (itemText depth json).length := by
  obtain ⟨c, tail, spelled, _⟩ := rereads.head depth
  rw [itemText, spelled]
  exact Nat.succ_pos _

theorem readName?_written (name : String) (rest : List Char) (fuel : Nat)
    (enough : (quote name).toList.length ≤ fuel) :
    readName? fuel ((quote name).toList ++ ':' :: rest) = some (some name, rest) := by
  have longer := length_lt_of_quote name
  have content := readStringBody?_written name.toList [] (':' :: rest) fuel (by omega)
  rw [toList_quote]
  simp only [readName?, List.cons_append, List.append_assoc, List.nil_append, content,
    Option.bind_eq_bind, Option.bind_some, skipSpace_cons (show isSpace ':' = false from rfl)]
  simp

theorem skipSpace_quote (name : String) (rest : List Char) :
    skipSpace ((quote name).toList ++ rest) = (quote name).toList ++ rest := by
  rw [toList_quote, List.cons_append, List.cons_append]
  exact skipSpace_cons rfl _

section

variable {lead trail : List Char} (spaces : ∀ c ∈ lead, isSpace c = true)
  (spacesBehind : ∀ c ∈ trail, isSpace c = true)

include spaces

theorem readValue?_item {item : Json} (rereads : Rereads item) (depth : Nat) {behind : List Char}
    (ends : EndsNumber behind) {fuel : Nat} (enough : (itemText depth item).length ≤ fuel) :
    readValue? fuel (lead ++ (itemText depth item ++ behind)) = some (item, behind) := by
  have positive := rereads.length_pos depth
  obtain ⟨fuel, rfl⟩ : ∃ more, fuel = more + 1 := ⟨fuel - 1, by omega⟩
  rw [readValue?_append spaces]
  exact rereads.value depth fuel behind ends enough

theorem readName?_member {member : String × Json} (rereads : Rereads member.2) (depth : Nat)
    {behind : List Char} (ends : EndsNumber behind) (fuel : Nat)
    (enough : (memberText depth member).length ≤ fuel) :
    readName? (fuel + 1) (skipSpace (lead ++ (memberText depth member ++ behind))) =
        some (some member.1, ' ' :: (itemText depth member.2 ++ behind)) ∧
      readValue? fuel (' ' :: (itemText depth member.2 ++ behind)) = some (member.2, behind) := by
  simp only [memberText, List.length_append, List.length_cons] at enough
  have name := readName?_written member.1 (' ' :: itemText depth member.2 ++ behind) (fuel + 1)
    (by omega)
  have blank : ∀ c ∈ [' '], isSpace c = true := List.forall_mem_singleton.mpr rfl
  refine ⟨?_, readValue?_item blank rereads depth ends (by omega)⟩
  simp only [memberText, List.append_assoc, List.cons_append] at name ⊢
  rw [skipSpace_append spaces, skipSpace_quote, name]

include spacesBehind

/-- The reader takes every item, the brackets around them being read already and still to come. -/
theorem readItems?_written {item : Json} {items : List Json} (first : Rereads item)
    (others : ∀ other ∈ items, Rereads other) (depth : Nat) (read : List Json)
    (rest : List Char) (fuel : Nat)
    (enough : (itemText depth item ++ moreLines depth (items.map (itemText depth))).length < fuel) :
    readItems? fuel read (lead ++ (itemText depth item ++
        (moreLines depth (items.map (itemText depth)) ++ (trail ++ ']' :: rest)))) =
      some (.array (read.reverse ++ item :: items), rest) := by
  have closes : EndsNumber (trail ++ ']' :: rest) := endsNumber_of_mark spacesBehind rfl rest
  induction items generalizing item read lead fuel with
  | nil =>
      obtain ⟨fuel, rfl⟩ := Nat.exists_eq_succ_of_ne_zero (Nat.ne_zero_of_lt enough)
      rw [List.length_append] at enough
      rw [readItems?,
        readValue?_item spaces first depth (endsNumber_moreLines depth _ closes) (by omega)]
      simp [moreLines, skipSpace_append spacesBehind,
        skipSpace_cons (show isSpace ']' = false from rfl)]
  | cons next items ih =>
      obtain ⟨fuel, rfl⟩ := Nat.exists_eq_succ_of_ne_zero (Nat.ne_zero_of_lt enough)
      rw [List.map_cons, moreLines_cons] at enough
      simp only [List.length_append, List.length_cons] at enough
      have behind := ih (isSpace_newLine depth) (others next List.mem_cons_self)
        (fun other member => others other (List.mem_cons_of_mem next member)) (item :: read)
        fuel (by rw [List.length_append]; omega)
      rw [readItems?,
        readValue?_item spaces first depth (endsNumber_moreLines depth _ closes) (by omega),
        List.map_cons, moreLines_cons]
      simp only [List.cons_append, List.append_assoc,
        skipSpace_cons (show isSpace ',' = false from rfl)] at behind ⊢
      rw [behind]
      simp

theorem readMembers?_written {member : String × Json} {members : List (String × Json)}
    (first : Rereads member.2) (others : ∀ other ∈ members, Rereads other.2) (depth : Nat)
    (read : List (String × Json)) (rest : List Char) (fuel : Nat)
    (enough :
      (memberText depth member ++ moreLines depth (members.map (memberText depth))).length < fuel) :
    readMembers? fuel (some read) (lead ++ (memberText depth member ++
        (moreLines depth (members.map (memberText depth)) ++ (trail ++ '\x7d' :: rest)))) =
      some (some (read.reverse ++ member :: members), rest) := by
  have closes : EndsNumber (trail ++ '\x7d' :: rest) := endsNumber_of_mark spacesBehind rfl rest
  induction members generalizing member read lead fuel with
  | nil =>
      obtain ⟨fuel, rfl⟩ := Nat.exists_eq_succ_of_ne_zero (Nat.ne_zero_of_lt enough)
      rw [List.length_append] at enough
      obtain ⟨name, value⟩ := readName?_member spaces first depth
        (endsNumber_moreLines depth [] closes) fuel (by omega)
      rw [List.map_nil, readMembers?, name]
      simp only [value]
      simp [moreLines, skipSpace_append spacesBehind,
        skipSpace_cons (show isSpace '\x7d' = false from rfl)]
  | cons next members ih =>
      obtain ⟨fuel, rfl⟩ := Nat.exists_eq_succ_of_ne_zero (Nat.ne_zero_of_lt enough)
      rw [List.map_cons, moreLines_cons] at enough
      simp only [List.length_append, List.length_cons] at enough
      have behind := ih (isSpace_newLine depth) (others next List.mem_cons_self)
        (fun other there => others other (List.mem_cons_of_mem next there)) (member :: read)
        fuel (by rw [List.length_append]; omega)
      obtain ⟨name, value⟩ := readName?_member spaces first depth
        (endsNumber_moreLines depth ((next :: members).map (memberText depth)) closes) fuel
        (by omega)
      rw [readMembers?, name]
      simp only [value]
      simp only [List.map_cons, moreLines_cons, List.cons_append, List.append_assoc,
        skipSpace_cons (show isSpace ',' = false from rfl)] at behind ⊢
      simp only [Option.bind_some, Option.map_some, behind]
      simp

end

theorem readValue?_array {spaces tail : List Char} (allSpace : ∀ c ∈ spaces, isSpace c = true)
    {c : Char} (noSpace : isSpace c = false) (noBracket : c ≠ ']') (fuel : Nat) :
    readValue? (fuel + 1) ('[' :: (spaces ++ c :: tail)) = readItems? fuel [] (c :: tail) := by
  simp only [readValue?, skipSpace_cons (show isSpace '[' = false from rfl),
    skipSpace_append allSpace, skipSpace_cons noSpace]
  split
  · exact absurd (List.cons.inj ‹_›).1 noBracket
  · rfl

theorem readValue?_object {spaces tail rest : List Char}
    (allSpace : ∀ c ∈ spaces, isSpace c = true) {c : Char} (noSpace : isSpace c = false)
    (noBrace : c ≠ '\x7d') (fuel : Nat) {members : List (String × Json)}
    (content : readMembers? fuel (some []) (c :: tail) = some (some members, rest)) :
    readValue? (fuel + 1) ('\x7b' :: (spaces ++ c :: tail)) = some (.object members, rest) := by
  simp only [readValue?, skipSpace_cons (show isSpace '\x7b' = false from rfl),
    skipSpace_append allSpace, skipSpace_cons noSpace]
  split
  · exact absurd (List.cons.inj ‹_›).1 noBrace
  · rw [content]
    rfl

namespace Rereads

theorem array {items : List Json} (each : ∀ item ∈ items, Rereads item) :
    Rereads (.array items) := by
  cases items with
  | nil =>
      have written (depth : Nat) : (indentedAt depth (.array [])).toList = ['[', ']'] := by
        rw [indentedAt]
        rfl
      refine of_spelled written rfl (by decide) fun fuel rest _ => ?_
      simp [readValue?, skipSpace_cons (show isSpace '[' = false from rfl),
        skipSpace_cons (show isSpace ']' = false from rfl)]
  | cons item items =>
      have written (depth : Nat) : (indentedAt depth (.array (item :: items))).toList =
          '[' :: ('\n' :: (indent (depth + 1)).toList) ++ (itemText (depth + 1) item ++
            (moreLines (depth + 1) (items.map (itemText (depth + 1))) ++
              ('\n' :: (indent depth).toList ++ [']']))) := by
        simp [indentedAt, toList_indentedItems]
      refine ⟨fun depth => ⟨'[', _, written depth, rfl, by decide⟩,
        fun depth fuel rest _ enough => ?_⟩
      obtain ⟨c, tail, spelled, noSpace, noBracket⟩ :=
        (each item List.mem_cons_self).head (depth + 1)
      rw [written] at enough ⊢
      simp only [List.length_append, List.length_cons] at enough
      have content := readItems?_written Space.isSpace_nil (isSpace_newLine depth)
        (each item List.mem_cons_self)
        (fun other member => each other (List.mem_cons_of_mem item member)) (depth + 1) [] rest
        fuel (by rw [List.length_append]; omega)
      simp only [List.append_assoc, List.cons_append, List.nil_append, itemText, spelled]
        at content ⊢
      exact (readValue?_array (isSpace_newLine (depth + 1)) noSpace noBracket fuel).trans content

theorem object {members : List (String × Json)} (each : ∀ member ∈ members, Rereads member.2) :
    Rereads (.object members) := by
  cases members with
  | nil =>
      have written (depth : Nat) :
          (indentedAt depth (.object [])).toList = ['\x7b', '\x7d'] := by
        rw [indentedAt]
        rfl
      refine of_spelled written rfl (by decide) fun fuel rest _ => ?_
      simp [readValue?, skipSpace_cons (show isSpace '\x7b' = false from rfl),
        skipSpace_cons (show isSpace '\x7d' = false from rfl)]
  | cons member members =>
      have written (depth : Nat) : (indentedAt depth (.object (member :: members))).toList =
          '\x7b' :: ('\n' :: (indent (depth + 1)).toList) ++ (memberText (depth + 1) member ++
            (moreLines (depth + 1) (members.map (memberText (depth + 1))) ++
              ('\n' :: (indent depth).toList ++ ['\x7d']))) := by
        simp [indentedAt, toList_indentedMembers]
      refine ⟨fun depth => ⟨'\x7b', _, written depth, rfl, by decide⟩,
        fun depth fuel rest _ enough => ?_⟩
      rw [written] at enough ⊢
      simp only [List.length_append, List.length_cons] at enough
      have content := readMembers?_written Space.isSpace_nil (isSpace_newLine depth)
        (each member List.mem_cons_self)
        (fun other there => each other (List.mem_cons_of_mem member there)) (depth + 1) [] rest
        fuel (by rw [List.length_append]; omega)
      obtain ⟨tail, spelled⟩ : ∃ tail, (quote member.1).toList = '"' :: tail :=
        ⟨_, toList_quote member.1⟩
      simp only [List.append_assoc, List.cons_append, List.nil_append, memberText, spelled]
        at content ⊢
      exact readValue?_object (isSpace_newLine (depth + 1)) rfl (by decide) fuel content

end Rereads

theorem Plain.rereads {json : Json} (plain : Plain json) : Rereads json := by
  induction plain with
  | null => exact .null
  | bool value => exact .bool value
  | int value => exact .int value
  | string value => exact .string value
  | array each ih => exact .array ih
  | object each ih => exact .object ih

theorem read?_indented {json : Json} (plain : Plain json) : read? json.indented = some json := by
  have value := plain.rereads.value 0 (2 * json.indented.toList.length + 1) []
    (by rintro c ⟨⟩) (by rw [indented]; omega)
  rw [List.append_nil] at value
  simp only [read?, indented] at value ⊢
  rw [value]
  rfl

end FieldMenu.Json
