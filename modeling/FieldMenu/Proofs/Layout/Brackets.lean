import FieldMenu.Proofs.Layout.WellFormed
import FieldMenu.Proofs.Scan.Matching

namespace FieldMenu.Layout

open Scan Text

/-- Text of a JSON value.  The names of its members may hold anything that a closing quote ends. -/
def IsValue (text : List Char) : Prop :=
  WellFormed (fun name => Quoting.staysInside .inside name = true) text

section

variable {opener closer : Char} {inner text : List Char}

theorem IsValue.balanced (value : IsValue text) : Balanced text :=
  WellFormed.balanced (fun _ closed => closed) value

/-- A value that begins with a bracket ends with its partner, and what stands between them is
balanced. -/
theorem IsValue.exists_inner (value : IsValue text) (pair : closerOf? opener = some closer)
    (head : text.head? = some opener) : ∃ inner, text = opener :: inner ++ [closer] ∧
      Balanced inner := by
  cases value with
  | word word =>
      have inert := Json.isInert_of_isWord word opener (List.mem_of_head? head)
      obtain ⟨rfl, rfl⟩ | ⟨rfl, rfl⟩ := closerOf?_eq_some pair <;> cases inert
  | string stays =>
      cases head
      cases pair
  | array blank each =>
      cases head
      cases pair
      exact ⟨_, rfl, balanced_items fun slot there => IsValue.balanced (each slot there)⟩
  | object blank names each =>
      cases head
      cases pair
      exact ⟨_, rfl, balanced_fields names fun field there => IsValue.balanced (each field there)⟩

theorem enclosed?_closer (balanced : Balanced inner) (pair : closerOf? opener = some closer)
    (rest : List Char) :
    enclosed? opener closer 0 .outside [] (inner ++ closer :: rest) = some (inner, rest) := by
  have different : closer ≠ opener := by
    obtain ⟨rfl, rfl⟩ | ⟨rfl, rfl⟩ := closerOf?_eq_some pair <;> decide
  rw [balanced.enclosed?_append pair]
  simp [enclosed?, different]

theorem IsValue.matchingBracket? (value : IsValue text) (pair : closerOf? opener = some closer)
    (head : text.head? = some opener) (front behind : List Char) :
    matchingBracket? (front ++ text ++ behind) (byteLength front) =
      some (byteLength front + byteLength text - 1) := by
  obtain ⟨inner, rfl, balanced⟩ := value.exists_inner pair head
  obtain ⟨openerAscii, closerAscii⟩ := closerOf?_isAscii pair
  have whole : front ++ (opener :: inner ++ [closer]) ++ behind =
      front ++ opener :: (inner ++ closer :: behind) := by simp
  have length : byteLength (opener :: inner ++ [closer]) = 1 + byteLength inner + 1 := by
    simp [utf8Size_of_isAscii openerAscii, utf8Size_of_isAscii closerAscii, Nat.add_assoc]
  rw [whole, matchingBracket?_append pair, enclosed?_closer balanced pair, length,
    Option.map_some, ← Nat.add_assoc, ← Nat.add_assoc, Nat.add_sub_cancel]

end

/-- The bracket matched is the end of the JSON array or object that begins there.  In any text it is
the first place at which the closers outside strings balance the openers; there is none where no
opener stands, and none where no place does so. -/
theorem bracket_matched :
    (∀ front value behind : List Char, IsValue value →
      (value.head? = some '[' ∨ value.head? = some '{') →
        matchingBracket? (front ++ value ++ behind) (byteLength front) =
          some (byteLength front + byteLength value - 1)) ∧
    ∀ (text : List Char) (start : Nat),
      (∀ last, matchingBracket? text start = some last ↔
        ∃ opener closer, Offset.closerOf? opener = some closer ∧
          (bytes text)[start]? = some opener ∧
          Balances opener closer (bytes text) start last ∧
          ∀ place < last, ¬ Balances opener closer (bytes text) start place) ∧
      (matchingBracket? text start = none ↔
        (∀ opener, (bytes text)[start]? = some opener → Offset.closerOf? opener = none) ∨
          ∃ opener closer, Offset.closerOf? opener = some closer ∧
            (bytes text)[start]? = some opener ∧
            ∀ place, ¬ Balances opener closer (bytes text) start place) := by
  refine ⟨?_, fun text start =>
    ⟨fun last => matchingBracket?_eq_some_iff, matchingBracket?_eq_none_iff⟩⟩
  intro front value behind isValue head
  rcases head with square | curly
  · exact isValue.matchingBracket? (show closerOf? '[' = some ']' from rfl) square front behind
  · exact isValue.matchingBracket? (show closerOf? '{' = some '}' from rfl) curly front behind

/-- A closer in a string, behind an escaped quote, is not the end of the array around it. -/
theorem bracket_matched_string :
    let content : Slot := { before := .empty, value := "\"\\\"]\"".toList, after := .empty }
    let value := arrayText .empty [content]
    IsValue value ∧ value = "[\"\\\"]\"]".toList ∧
      matchingBracket? ("é]".toList ++ value ++ "]".toList) 3 = some 9 := by
  intro content value
  have isValue : IsValue value :=
    .array .empty (List.forall_mem_singleton.mpr
      (.string (show Quoting.staysInside .inside "\\\"]".toList = true by decide)))
  have matched := bracket_matched.1 "é]".toList value "]".toList isValue (.inl rfl)
  exact ⟨isValue, by decide, matched⟩

end FieldMenu.Layout
