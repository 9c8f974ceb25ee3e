import FieldMenu.Proofs.Document.Names
import FieldMenu.Proofs.Layout.Reading

namespace FieldMenu

open Scan Text Layout

theorem numberOf_toDigits (n : Nat) : numberOf (Nat.toDigits 10 n) = n :=
  Nat.ofDigitChars_toDigits (by decide) (by decide)

theorem takeWhile_toDigits (n : Nat) {rest : List Char}
    (noDigit : rest.takeWhile Char.isDigit = []) :
    (Nat.toDigits 10 n ++ rest).takeWhile Char.isDigit = Nat.toDigits 10 n := by
  rw [List.takeWhile_append_of_pos, noDigit, List.append_nil]
  exact fun c member => isDigit_of_mem_toDigits member

theorem head?_toDigits_ne_minus (n : Nat) (rest : List Char) :
    (Nat.toDigits 10 n ++ rest).head? ≠ some '-' := by
  obtain ⟨c, tail, digits, digit⟩ := exists_toDigits_eq_cons n
  rw [digits, List.cons_append, List.head?_cons, ne_eq, Option.some_inj]
  rintro rfl
  exact absurd digit (by decide)

theorem leadingInteger?_toString (value : Int64) {rest : List Char}
    (noDigit : rest.takeWhile Char.isDigit = []) :
    leadingInteger? ((toString value.toInt).toList ++ rest) = some value.toInt := by
  have lower := value.le_toInt
  have upper := value.toInt_lt
  have notEmpty (n : Nat) : (Nat.toDigits 10 n).isEmpty = false := by
    simp [Nat.toDigits_ne_nil]
  rw [toList_toString_int, leadingInteger?]
  split
  · have number : value.toInt.toNat < 0x8000000000000000 := by omega
    simp only [head?_toDigits_ne_minus, if_false, takeWhile_toDigits _ noDigit, notEmpty,
      numberOf_toDigits, number, if_true, Bool.false_eq_true]
    rw [Int.toNat_of_nonneg ‹_›]
  · have number : (-value.toInt).toNat ≤ 0x8000000000000000 := by omega
    simp only [List.cons_append, List.head?_cons, if_true, List.tail_cons,
      takeWhile_toDigits _ noDigit, notEmpty, numberOf_toDigits, number, Bool.false_eq_true,
      if_false]
    rw [Int.toNat_of_nonneg (by omega), Int.neg_neg]

theorem afterLead?_toString_int (letter : Char) (alpha : letter.isAlpha = true)
    (word : List Char) (value : Int) (rest : List Char) :
    afterLead? (letter :: word) ((toString value).toList ++ rest) = none := by
  obtain ⟨c, tail, digits, first⟩ := exists_head_toString_int value
  have noLetter : c.isAlpha = false := by
    rcases first with rfl | digit
    · rfl
    · have bounds := isDigit_iff.mp digit
      rw [Bool.eq_false_iff]
      intro letter
      have codes := isAlpha_iff.mp letter
      omega
  have different : letter.toLower ≠ c.toLower := by
    intro same
    rw [eq_of_toLower_eq_toLower same noLetter, noLetter] at alpha
    cases alpha
  rw [digits, List.cons_append, afterLead?, if_neg different]

/-- Where `text` is searched for `key`, `scalar` is found, or nothing where there is none.  No digit
stands behind it. -/
def Holds (text : List Char) (key : String) : Option Scalar → Prop
  | none => valueText? text key = none
  | some scalar =>
      ∃ written rest, scalar.toJson.Written written ∧ rest.takeWhile Char.isDigit = [] ∧
        valueText? text key = some (written ++ rest)

section

variable {text : List Char} {key : String} {scalar : Option Scalar}

theorem icon?_of_string? (word : Scan.string? text key = Position.string? scalar) :
    icon? text key = Position.icon? scalar := by
  rw [icon?, word]
  rfl

theorem setting?_of_string? {α : Type} (parse? : String → Option α)
    (word : Scan.string? text key = Position.string? scalar) :
    setting? parse? text key = Position.setting? parse? key scalar := by
  rw [setting?, word]
  rfl

end

namespace Holds

variable {text : List Char} {key : String} {scalar : Option Scalar}

theorem string? (holds : Holds text key scalar) :
    Scan.string? text key = Position.string? scalar := by
  cases scalar with
  | none =>
      rw [Scan.string?, show valueText? text key = none from holds]
      rfl
  | some scalar =>
      obtain ⟨written, rest, writes, _, found⟩ := holds
      cases scalar with
      | null =>
          cases writes
          rw [Scan.string?, found]
          rfl
      | bool value =>
          cases writes
          rw [Scan.string?, found]
          cases value <;> rfl
      | int value =>
          cases writes
          obtain ⟨c, tail, digits, first⟩ := exists_head_toString_int value.toInt
          rw [Scan.string?, found, digits]
          split
          · rename_i quote
            cases quote
            exact absurd first (by decide)
          · rfl
      | string value => exact string?_written writes found

theorem flag (holds : Holds text key scalar) (default : Bool) :
    Scan.flag text key default = Position.flag scalar default := by
  rw [Scan.flag]
  cases scalar with
  | none =>
      rw [show valueText? text key = none from holds]
      rfl
  | some scalar =>
      obtain ⟨written, rest, writes, _, found⟩ := holds
      rw [found]
      cases scalar with
      | null =>
          cases writes
          rfl
      | bool value =>
          cases writes
          cases value <;> rfl
      | int value =>
          cases writes
          have notTrue := afterLead?_toString_int 't' rfl ['r', 'u', 'e'] value.toInt
            rest
          have notFalse := afterLead?_toString_int 'f' rfl ['a', 'l', 's', 'e']
            value.toInt rest
          simp only [String.reduceToList, notTrue, notFalse]
          rfl
      | string value =>
          cases writes
          rfl

theorem integer (holds : Holds text key scalar) (default : Int) :
    Scan.integer text key default = Position.integer scalar default := by
  rw [Scan.integer]
  cases scalar with
  | none =>
      rw [show valueText? text key = none from holds]
      rfl
  | some scalar =>
      obtain ⟨written, rest, writes, noDigit, found⟩ := holds
      rw [found, Option.bind_some]
      cases scalar with
      | null =>
          cases writes
          rfl
      | bool value =>
          cases writes
          cases value <;> rfl
      | int value =>
          cases writes
          rw [leadingInteger?_toString value noDigit]
          rfl
      | string value =>
          cases writes
          rfl

theorem nonEmptyString? (holds : Holds text key scalar) :
    FieldMenu.nonEmptyString? text key = Position.nonEmptyString? scalar := by
  rw [FieldMenu.nonEmptyString?, holds.string?]
  rfl

theorem icon? (holds : Holds text key scalar) :
    FieldMenu.icon? text key = Position.icon? scalar :=
  icon?_of_string? holds.string?

theorem setting? {α : Type} (parse? : String → Option α) (holds : Holds text key scalar) :
    FieldMenu.setting? parse? text key = Position.setting? parse? key scalar :=
  setting?_of_string? parse? holds.string?

end Holds

theorem holds_scalars (arrays : List (String × Option Json))
    (scalars : List (String × Option Scalar)) {inner : List String} {text : List Char}
    (distinct : Distinct ((arrays ++ scalarMembers scalars).map Prod.fst))
    (apart : ∀ name ∈ scalars.map Prod.fst, Json.Apart name inner) (nested : Nested inner arrays)
    (rendering : (Json.object (present (arrays ++ scalarMembers scalars))).Rendering text) :
    ∀ member ∈ scalars, Holds text member.1 member.2 := by
  rintro ⟨key, scalar⟩ member
  have searchable : Searchable key (arrays ++ scalarMembers scalars) inner :=
    ⟨distinct, apart key (List.mem_map_of_mem (f := Prod.fst) member),
      nested.append (nested_scalarMembers inner scalars)⟩
  have inMembers : (key, scalar.map Scalar.toJson) ∈ arrays ++ scalarMembers scalars :=
    List.mem_append_right _ (List.mem_map_of_mem (f := fun member =>
      (member.1, member.2.map Scalar.toJson)) member)
  cases scalar with
  | none => exact valueText?_of_absent searchable inMembers rendering
  | some scalar => exact valueText?_rendering searchable inMembers rendering

theorem holds_own (scalars : List (String × Option Scalar)) {text : List Char}
    (distinct : Distinct (scalars.map Prod.fst))
    (rendering : (Json.object (present (scalarMembers scalars))).Rendering text) :
    ∀ member ∈ scalars, Holds text member.1 member.2 := by
  have names : ([] ++ scalarMembers scalars).map Prod.fst = scalars.map Prod.fst := by
    simp [scalarMembers, Function.comp_def]
  refine holds_scalars [] scalars (by rwa [names]) ?_ (.nil []) rendering
  exact fun name member =>
    { keyNamed := distinct.2 name member, named := by simp, other := by simp }

end FieldMenu
