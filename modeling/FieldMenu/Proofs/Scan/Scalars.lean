import FieldMenu.Proofs.Scan.Balanced
import FieldMenu.Proofs.Scan.Occurrence
import Mathlib.Data.List.TakeWhile

namespace FieldMenu.Scan

open Text

namespace Offset

theorem quoteFrom?_of_high {high : List UInt8} (each : ∀ b ∈ high, 128 ≤ b.toNat) (place : Nat)
    (rest : List UInt8) :
    quoteFrom? false place (high ++ rest) = quoteFrom? false (place + high.length) rest := by
  induction high generalizing place with
  | nil => rfl
  | cons b high ih =>
      obtain ⟨first, others⟩ := List.forall_mem_cons.mp each
      have noQuote := ne_toUInt8_of_high first '"' rfl
      have noBackslash := ne_toUInt8_of_high first '\\' rfl
      rw [List.cons_append, quoteFrom?, if_neg noQuote, decide_eq_false noBackslash, ih others,
        List.length_cons, Nat.add_right_comm, Nat.add_assoc]

/-- A character outside ASCII does not close a string, and no backslash stands in front of the next
one. -/
theorem quoteFrom?_of_not_isAscii {c : Char} (other : isAscii c = false) (escaped : Bool)
    (place : Nat) (rest : List UInt8) :
    quoteFrom? escaped place (String.utf8EncodeChar c ++ rest) =
      quoteFrom? false (place + c.utf8Size) rest := by
  have each := le_of_mem_utf8EncodeChar other
  rw [← String.length_utf8EncodeChar]
  cases escaped with
  | false => exact quoteFrom?_of_high each place rest
  | true =>
      obtain ⟨b, high, coded⟩ := List.exists_cons_of_ne_nil (utf8EncodeChar_ne_nil c)
      rw [coded] at each ⊢
      rw [List.cons_append, quoteFrom?, quoteFrom?_of_high (List.forall_mem_cons.mp each).2,
        List.length_cons, Nat.add_right_comm, Nat.add_assoc]

theorem quoteFrom?_bytes (escaped : Bool) (start : Nat) (read text : List Char) :
    quoteFrom? escaped (start + byteLength read) (bytes text) =
      (quoted? escaped read text).map fun parts => start + byteLength parts.1 := by
  induction text generalizing escaped read with
  | nil => cases escaped <;> rfl
  | cons c text ih =>
      have past (escaped : Bool) :
          quoteFrom? escaped (start + byteLength read + c.utf8Size) (bytes text) =
            (quoted? escaped (c :: read) text).map fun parts => start + byteLength parts.1 := by
        rw [← ih, byteLength_cons, Nat.add_assoc, Nat.add_comm c.utf8Size]
      rw [bytes_cons]
      cases ascii : isAscii c with
      | false =>
          rw [quoteFrom?_of_not_isAscii ascii, past]
          cases escaped with
          | true => rfl
          | false =>
              have noQuote := ne_of_not_isAscii ascii '"' rfl
              have noBackslash := ne_of_not_isAscii ascii '\\' rfl
              rw [quoted?, if_neg noQuote, decide_eq_false noBackslash]
      | true =>
          have quote : c.toUInt8 = '"'.toUInt8 ↔ c = '"' := toUInt8_inj ascii rfl
          have backslash : c.toUInt8 = '\\'.toUInt8 ↔ c = '\\' := toUInt8_inj ascii rfl
          rw [utf8Size_of_isAscii ascii] at past
          rw [utf8EncodeChar_of_isAscii ascii, List.singleton_append]
          cases escaped with
          | true => exact past false
          | false =>
              simp only [quoteFrom?, quoted?, quote, backslash, past]
              split
              · simp
              · rfl

theorem closingQuote?_append (front rest : List Char) :
    closingQuote? (bytes (front ++ rest)) (byteLength front) =
      (quoted? false [] rest).map fun parts => byteLength front + byteLength parts.1 := by
  have behind : (bytes (front ++ rest)).drop (byteLength front) = bytes rest := by
    rw [bytes_append, ← length_bytes, List.drop_left]
  rw [closingQuote?, if_pos (by simp), behind]
  exact quoteFrom?_bytes false (byteLength front) [] rest

theorem string?_cases (text : List Char) (key : String) :
    (∃ content, Scan.valueText? text key = some ('"' :: content) ∧
        Scan.string? text key =
          (quoted? false [] content).map fun parts => String.ofList (unescape parts.1)) ∨
      (∀ content, Scan.valueText? text key ≠ some ('"' :: content)) ∧
        Scan.string? text key = none := by
  unfold Scan.string?
  split
  · rename_i content there
    exact .inl ⟨content, there, rfl⟩
  · rename_i noString
    exact .inr ⟨noString, rfl⟩

theorem string?_eq_ok (text : List Char) (key : String) :
    string? text key = .ok (Scan.string? text key) := by
  rw [string?, valueText?_eq_ok, Fault.ok_bind]
  rcases string?_cases text key with ⟨content, there, read⟩ | ⟨noString, missing⟩
  · have closing := closingQuote?_append [] content
    rw [List.nil_append, byteLength_nil] at closing
    rw [there, read]
    simp only [closing]
    cases closed : quoted? false [] content with
    | none => rfl
    | some parts =>
        have cut : slice content 0 (0 + byteLength parts.1) = .ok parts.1 := by
          refine slice_eq_ok_iff.mpr ⟨[], '"' :: parts.2, quoted?_eq_some closed, rfl, ?_⟩
          rw [Nat.zero_add, List.nil_append]
        simp only [Option.map_some, cut, Fault.ok_bind]
  · rw [missing]
    split
    · exact absurd ‹_› (noString _)
    · rfl

theorem isPrefixOf_take_asciiLowered {lead : List Char} (lowered : asciiLowered lead = lead)
    {count : Nat} (short : lead.length ≤ count) (value : List Char) :
    lead.isPrefixOf (asciiLowered (value.take count)) = (afterLead? lead value).isSome := by
  have whole : asciiLowered (value.take count) = (asciiLowered value).take count := List.map_take
  rw [Bool.eq_iff_iff, List.isPrefixOf_iff_prefix, whole, List.prefix_take_iff,
    ← prefix_asciiLowered_iff, lowered]
  exact and_iff_left short

theorem flag_eq_ok (text : List Char) (key : String) (default : Bool) :
    flag text key default = .ok (Scan.flag text key default) := by
  rw [flag, valueText?_eq_ok, Fault.ok_bind, Scan.flag]
  cases Scan.valueText? text key with
  | none => rfl
  | some value =>
      have yes : asciiLowered "true".toList = "true".toList ∧ "true".toList.length ≤ 5 := by decide
      have no : asciiLowered "false".toList = "false".toList ∧ "false".toList.length ≤ 5 := by decide
      simp only [isPrefixOf_take_asciiLowered yes.1 yes.2, isPrefixOf_take_asciiLowered no.1 no.2]

theorem digitsEnd_of_pos {place : Nat} (positive : 0 < place) (text : List Char) :
    digitsEnd place text = place + byteLength (text.takeWhile Char.isDigit) := by
  induction text generalizing place with
  | nil => rfl
  | cons c text ih =>
      have noSign : (place == 0 && c == '-') = false := by
        rw [beq_false_of_ne (Nat.ne_of_gt positive), Bool.false_and]
      rw [digitsEnd, noSign, Bool.or_false]
      cases digit : c.isDigit with
      | false => simp [digit]
      | true =>
          rw [if_pos rfl, ih (Nat.add_pos_left positive _), List.takeWhile_cons_of_pos digit,
            byteLength_cons, Nat.add_assoc]

theorem exists_digits (text : List Char) : ∃ digits behind, text = digits ++ behind ∧
    digitsEnd 0 text = byteLength digits ∧ leadingInteger? digits = leadingInteger? text := by
  cases text with
  | nil => exact ⟨[], [], rfl, rfl, rfl⟩
  | cons c text =>
      by_cases taken : (c.isDigit || c == '-') = true
      · refine ⟨c :: text.takeWhile Char.isDigit, text.dropWhile Char.isDigit, ?_, ?_, ?_⟩
        · rw [List.cons_append, List.takeWhile_append_dropWhile]
        · have first : (c.isDigit || (0 == 0 && c == '-')) = true := taken
          rw [digitsEnd, if_pos first, Nat.zero_add, digitsEnd_of_pos c.utf8Size_pos,
            byteLength_cons]
        · by_cases sign : c = '-'
          · simp only [leadingInteger?, List.head?_cons, sign, if_true, List.tail_cons,
              List.takeWhile_idem]
          · have digit : c.isDigit = true := by simpa [sign] using taken
            simp only [leadingInteger?, List.head?_cons, Option.some.injEq, sign, if_false,
              List.takeWhile_cons_of_pos digit, List.takeWhile_idem]
      · rw [Bool.or_eq_true, not_or] at taken
        obtain ⟨noDigit, noSign⟩ := taken
        have sign : c ≠ '-' := fun same => noSign (beq_iff_eq.mpr same)
        refine ⟨[], c :: text, rfl, ?_, ?_⟩
        · simp [digitsEnd, noDigit, sign]
        · simp [leadingInteger?, sign, noDigit]

theorem integer_eq_ok (text : List Char) (key : String) (default : Int) :
    integer text key default = .ok (Scan.integer text key default) := by
  rw [integer, valueText?_eq_ok, Fault.ok_bind, Scan.integer]
  cases Scan.valueText? text key with
  | none => rfl
  | some value =>
      obtain ⟨digits, behind, rfl, ends, same⟩ := exists_digits value
      have cut : slice (digits ++ behind) 0 (byteLength digits) = .ok digits :=
        slice_append [] digits behind
      simp only [ends, cut, Fault.ok_bind, same, Option.bind_some]

end Offset

end FieldMenu.Scan
