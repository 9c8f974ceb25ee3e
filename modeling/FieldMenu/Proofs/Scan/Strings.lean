import FieldMenu.Proofs.Scan.Scalars

namespace FieldMenu.Scan

open Text

/-- The raw contents of the strings of a text, in order. -/
inductive Quotes : List Char → List (List Char) → Prop
  | nil {text : List Char} (noQuote : '"' ∉ text) : Quotes text []
  | unclosed {front rest : List Char} (noQuote : '"' ∉ front)
      (never : quoted? false [] rest = none) : Quotes (front ++ '"' :: rest) []
  | cons {front rest raw behind : List Char} {raws : List (List Char)} (noQuote : '"' ∉ front)
      (closed : quoted? false [] rest = some (raw, behind)) (later : Quotes behind raws) :
      Quotes (front ++ '"' :: rest) (raw :: raws)

theorem exists_quotes (text : List Char) : ∃ raws, Quotes text raws := by
  by_cases quote : '"' ∈ text
  · obtain ⟨front, rest, rfl, noQuote⟩ := List.eq_append_cons_of_mem quote
    cases closed : quoted? false [] rest with
    | none => exact ⟨[], .unclosed noQuote closed⟩
    | some parts =>
        have shorter : parts.2.length < (front ++ '"' :: rest).length := by
          have inRest := congrArg List.length (quoted?_eq_some closed)
          simp at inRest ⊢
          omega
        obtain ⟨raws, quotes⟩ := exists_quotes parts.2
        exact ⟨_, .cons noQuote closed quotes⟩
  · exact ⟨[], .nil quote⟩
termination_by text.length

theorem foldl_stringStep_of_no_quote {text : List Char} (noQuote : '"' ∉ text)
    (found : List (List Char)) :
    text.foldl StringSweep.step { found := found } = { found := found } := by
  induction text with
  | nil => rfl
  | cons c text ih =>
      rw [List.mem_cons, not_or] at noQuote
      have kept : StringSweep.step { found := found } c = { found := found } := by
        simp [StringSweep.step, Quoting.step, Ne.symm noQuote.1]
      rw [List.foldl_cons, kept, ih noQuote.2]

theorem found_foldl_stringStep (escaped : Bool) (read : List Char) (found : List (List Char))
    (text : List Char) :
    (text.foldl StringSweep.step
        { quoting := if escaped then .escaped else .inside, current := read, found := found }).found =
      match quoted? escaped read text with
      | some (raw, rest) => (rest.foldl StringSweep.step { found := raw :: found }).found
      | none => found := by
  induction text generalizing escaped read with
  | nil => cases escaped <;> rfl
  | cons c text ih =>
      rw [List.foldl_cons]
      cases escaped with
      | true => exact ih false (c :: read)
      | false =>
          by_cases quote : c = '"'
          · subst quote
            simp [StringSweep.step, Quoting.step, quoted?]
          · have kept : StringSweep.step { quoting := .inside, current := read, found := found } c =
                { quoting := if decide (c = '\\') then .escaped else .inside, current := c :: read,
                  found := found } := by
              by_cases backslash : c = '\\'
              · simp [StringSweep.step, Quoting.step, backslash]
              · simp [StringSweep.step, Quoting.step, backslash, quote]
            have follows := ih (decide (c = '\\')) (c :: read)
            rw [← kept] at follows
            simp only [quoted?, quote, if_false]
            exact follows

theorem found_foldl_quote {front : List Char} (noQuote : '"' ∉ front) (before : List (List Char))
    (rest : List Char) :
    ((front ++ '"' :: rest).foldl StringSweep.step { found := before }).found =
      match quoted? false [] rest with
      | some (raw, behind) => (behind.foldl StringSweep.step { found := raw :: before }).found
      | none => before := by
  rw [List.foldl_append, foldl_stringStep_of_no_quote noQuote]
  exact found_foldl_stringStep false [] before rest

namespace Quotes

variable {text : List Char} {raws : List (List Char)}

theorem found_foldl (quotes : Quotes text raws) (before : List (List Char)) :
    (text.foldl StringSweep.step { found := before }).found = raws.reverse ++ before := by
  induction quotes generalizing before with
  | nil noQuote =>
      rw [foldl_stringStep_of_no_quote noQuote]
      rfl
  | unclosed noQuote never =>
      rw [found_foldl_quote noQuote]
      simp [never]
  | cons noQuote closed later ih =>
      rw [found_foldl_quote noQuote]
      simp [closed, ih]

theorem strings_eq (quotes : Quotes text raws) :
    strings text = raws.map fun raw => String.ofList (unescape raw) := by
  rw [strings, quotes.found_foldl, List.append_nil, List.reverse_reverse]

theorem infix_of_mem (quotes : Quotes text raws) : ∀ raw ∈ raws, raw <:+: text := by
  induction quotes with
  | nil noQuote => simp
  | unclosed noQuote never => simp
  | @cons front rest raw behind raws noQuote closed later ih =>
      have whole : rest = raw ++ '"' :: behind := quoted?_eq_some closed
      refine List.forall_mem_cons.mpr ⟨⟨front ++ ['"'], '"' :: behind, by simp [whole]⟩, ?_⟩
      intro other there
      exact (ih other there).trans ⟨front ++ '"' :: raw ++ ['"'], [], by simp [whole]⟩

end Quotes

namespace Offset

theorem find?_quote_of_not_mem {text : List Char} (noQuote : '"' ∉ text) :
    find? ['"'.toUInt8] (bytes text) = none := by
  have past := find?_append_of_not_mem [] (toUInt8_not_mem_bytes rfl noQuote) []
  rwa [List.append_nil] at past

theorem find?_quote {front : List Char} (noQuote : '"' ∉ front) (rest : List Char) :
    find? ['"'.toUInt8] (bytes (front ++ '"' :: rest)) = some (byteLength front) := by
  have past := find?_append_of_not_mem [] (toUInt8_not_mem_bytes rfl noQuote)
    (bytes ('"' :: rest))
  have here : find? ['"'.toUInt8] (bytes ('"' :: rest)) = some 0 := rfl
  rw [bytes_append, past, here, Option.map_some, Nat.zero_add, length_bytes]

theorem stringsFrom_quote (front : List Char) {passed : List Char} (noQuote : '"' ∉ passed)
    (rest : List Char) :
    stringsFrom (front ++ (passed ++ '"' :: rest)) (byteLength front) =
      match quoted? false [] rest with
      | none => .ok []
      | some (raw, _) => (do
          let others ← stringsFrom (front ++ (passed ++ '"' :: rest))
            (byteLength (front ++ (passed ++ '"' :: (raw ++ ['"']))))
          .ok (String.ofList (unescape raw) :: others)) := by
  have size : '"'.utf8Size = 1 := rfl
  have whole : front ++ (passed ++ '"' :: rest) = (front ++ (passed ++ ['"'])) ++ rest := by simp
  have opened : byteLength front + byteLength passed + 1 =
      byteLength (front ++ (passed ++ ['"'])) := by
    simp only [byteLength_append, byteLength_cons, byteLength_nil, size, Nat.add_assoc]
  have closing := closingQuote?_append (front ++ (passed ++ ['"'])) rest
  rw [stringsFrom_eq, sliceFrom_append, Fault.ok_bind, find?_quote noQuote]
  simp only [opened, whole, closing]
  cases closed : quoted? false [] rest with
  | none => rfl
  | some parts =>
      have inRest : rest = parts.1 ++ '"' :: parts.2 := quoted?_eq_some closed
      have cut : slice ((front ++ (passed ++ ['"'])) ++ rest)
          (byteLength (front ++ (passed ++ ['"'])))
          (byteLength (front ++ (passed ++ ['"'])) + byteLength parts.1) = .ok parts.1 :=
        slice_eq_ok_iff.mpr ⟨_, '"' :: parts.2, by rw [inRest]; simp, rfl, byteLength_append _ _⟩
      have last : byteLength (front ++ (passed ++ ['"'])) + byteLength parts.1 + 1 =
          byteLength (front ++ (passed ++ '"' :: (parts.1 ++ ['"']))) := by
        simp only [byteLength_append, byteLength_cons, byteLength_nil, size]
        omega
      simp only [Option.map_some, cut, Fault.ok_bind, last]

theorem stringsFrom_eq_ok {text : List Char} {raws : List (List Char)} (quotes : Quotes text raws)
    (front : List Char) : stringsFrom (front ++ text) (byteLength front) =
      .ok (raws.map fun raw => String.ofList (unescape raw)) := by
  induction quotes generalizing front with
  | nil noQuote =>
      rw [stringsFrom_eq, sliceFrom_append, Fault.ok_bind, find?_quote_of_not_mem noQuote]
      rfl
  | unclosed noQuote never =>
      rw [stringsFrom_quote front noQuote, never]
      rfl
  | @cons passed rest raw behind raws noQuote closed later ih =>
      have inRest : rest = raw ++ '"' :: behind := quoted?_eq_some closed
      have others := ih (front ++ (passed ++ '"' :: (raw ++ ['"'])))
      have whole : front ++ (passed ++ '"' :: (raw ++ ['"'])) ++ behind =
          front ++ (passed ++ '"' :: rest) := by simp [inRest]
      rw [whole] at others
      rw [stringsFrom_quote front noQuote, closed]
      simp only [others, Fault.ok_bind, List.map_cons]

theorem strings_eq_ok (text : List Char) : stringsFrom text 0 = .ok (strings text) := by
  obtain ⟨raws, quotes⟩ := exists_quotes text
  rw [quotes.strings_eq]
  exact stringsFrom_eq_ok quotes []

end Offset

end FieldMenu.Scan
