import FieldMenu.Condition
import FieldMenu.Proofs.Text.Sigma

namespace FieldMenu.Operator

open Text

theorem compare_contains_iff {actual expected : String} :
    compare .contains (some actual) (some expected) = true ↔
      lowercase expected.toList <:+: lowercase actual.toList :=
  occursIn_iff

theorem compare_notContains (actual expected : Option String) :
    compare .notContains actual expected = !compare .contains actual expected :=
  rfl

theorem lowercase_infix_of_compare {part : String}
    (always : ∀ front back : String,
      compare .contains (some (front ++ part ++ back)) (some part) = true)
    (front back : List Char) :
    lowercase part.toList <:+: lowercase (front ++ part.toList ++ back) := by
  have found := compare_contains_iff.mp (always (String.ofList front) (String.ofList back))
  rwa [String.toList_append, String.toList_append, String.toList_ofList, String.toList_ofList]
    at found

/-- A text contains a part of itself where the part keeps its sigmas.  The parts that are found in
all texts around them are those that keep their sigmas in all of them, as every part without capital
sigma does. -/
theorem contains_part (part : String) :
    (∀ front back : String, KeepsSigmas front.toList part.toList back.toList →
      compare .contains (some (front ++ part ++ back)) (some part) = true ∧
        compare .notContains (some (front ++ part ++ back)) (some part) = false) ∧
    ((∀ front back : String,
        compare .contains (some (front ++ part ++ back)) (some part) = true) ↔
      ∀ front back, KeepsSigmas front part.toList back) ∧
    ('Σ' ∉ part.toList → ∀ front back, KeepsSigmas front part.toList back) := by
  have found (front back : String) (keeps : KeepsSigmas front.toList part.toList back.toList) :
      compare .contains (some (front ++ part ++ back)) (some part) = true := by
    rw [compare_contains_iff, String.toList_append, String.toList_append]
    exact lowercase_infix keeps
  refine ⟨fun front back keeps => ⟨found front back keeps, ?_⟩, ⟨fun always => ?_, ?_⟩,
    keepsSigmas_of_not_mem⟩
  · rw [compare_notContains, found front back keeps, Bool.not_true]
  · exact keepsSigmas_of_infix (lowercase_infix_of_compare always)
  · exact fun keeps front back => found front back (keeps front.toList back.toList)

/-- A sigma inside the word and one at its end, with words around: both keep their forms. -/
theorem contains_part_word :
    KeepsSigmas "Ο ".toList "ΚΟΣΜΟΣ".toList " ΜΑΣ".toList ∧
      compare .contains (some ("Ο " ++ "ΚΟΣΜΟΣ" ++ " ΜΑΣ")) (some "ΚΟΣΜΟΣ") = true := by
  have keeps : KeepsSigmas "Ο ".toList "ΚΟΣΜΟΣ".toList " ΜΑΣ".toList :=
    keepsSigmas_iff.mpr (by decide +kernel)
  exact ⟨keeps, ((contains_part "ΚΟΣΜΟΣ").1 "Ο " " ΜΑΣ" keeps).1⟩

/-- The sigma that ends the expected value does not end a word in the actual one, which begins with
the expected value all the same. -/
theorem beginning_not_contained :
    "ΚΟΣΜΟΣ" = "" ++ "ΚΟΣ" ++ "ΜΟΣ" ∧
      compare .contains (some "ΚΟΣΜΟΣ") (some "ΚΟΣ") = false ∧
      compare .notContains (some "ΚΟΣΜΟΣ") (some "ΚΟΣ") = true := by
  decide +kernel

end FieldMenu.Operator
