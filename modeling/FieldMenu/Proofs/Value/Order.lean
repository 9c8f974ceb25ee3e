import FieldMenu.Value.Candidate
import Mathlib.Data.Prod.Lex
import Mathlib.Data.String.Basic

namespace FieldMenu

open Text

namespace SortOrder

/-- What an order looks at before the letters of a value: how often values of its lowercase form
occur, where the order goes by that, and nothing otherwise. -/
def rank (order : SortOrder) (counts : Option CountTable) (form : String) : Int :=
  match order, counts with
  | .mostCommon, some table => -((table.lookup form).getD 0 : Nat)
  | .leastCommon, some table => ((table.lookup form).getD 0 : Nat)
  | _, _ => 0

def formKey (order : SortOrder) (counts : Option CountTable) (form : String) : Int ×ₗ String :=
  toLex (order.rank counts form, form)

/-- The rank of a value, then its lowercase form, then the value itself. -/
def sortKey (order : SortOrder) (counts : Option CountTable) (value : String) :
    (Int ×ₗ String) ×ₗ String :=
  toLex (order.formKey counts (lowered value), value)

/-- In this order, the first key may stand before the second one. -/
def Admits {κ : Type} [LE κ] (order : SortOrder) (first second : κ) : Prop :=
  match order with
  | .unsorted => True
  | .reverseAlphabetical => second ≤ first
  | .alphabetical | .mostCommon | .leastCommon => first ≤ second

/-- In this order, the first value may stand before the second one. -/
def Precedes (order : SortOrder) (counts : Option CountTable) (first second : String) : Prop :=
  order.Admits (order.sortKey counts first) (order.sortKey counts second)

theorem formKey_injective (order : SortOrder) (counts : Option CountTable) :
    Function.Injective (order.formKey counts) :=
  fun _ _ same => congrArg (fun key => (ofLex key).2) same

theorem sortKey_injective (order : SortOrder) (counts : Option CountTable) :
    Function.Injective (order.sortKey counts) :=
  fun _ _ same => congrArg (fun key => (ofLex key).2) same

section

variable {κ : Type} [LinearOrder κ] {order : SortOrder} {first second third : κ}

theorem Admits.trans (before : order.Admits first second) (after : order.Admits second third) :
    order.Admits first third := by
  cases order with
  | unsorted => trivial
  | reverseAlphabetical => exact le_trans after before
  | alphabetical | mostCommon | leastCommon => exact le_trans before after

theorem admits_total (order : SortOrder) (first second : κ) :
    order.Admits first second ∨ order.Admits second first := by
  cases order with
  | unsorted => exact .inl trivial
  | reverseAlphabetical => exact le_total second first
  | alphabetical | mostCommon | leastCommon => exact le_total first second

theorem Admits.antisymm (sorts : order ≠ .unsorted) (before : order.Admits first second)
    (after : order.Admits second first) : first = second := by
  cases order with
  | unsorted => exact absurd rfl sorts
  | reverseAlphabetical => exact le_antisymm after before
  | alphabetical | mostCommon | leastCommon => exact le_antisymm before after

end

section

variable {order : SortOrder} {counts : Option CountTable} {first second : String}

theorem Precedes.antisymm (sorts : order ≠ .unsorted) (before : order.Precedes counts first second)
    (after : order.Precedes counts second first) : first = second :=
  order.sortKey_injective counts (Admits.antisymm sorts before after)

theorem Precedes.formKey (before : order.Precedes counts first second) :
    order.Admits (order.formKey counts (lowered first))
      (order.formKey counts (lowered second)) := by
  cases order with
  | unsorted => trivial
  | reverseAlphabetical | alphabetical | mostCommon | leastCommon =>
      exact Prod.Lex.monotone_fst_ofLex before

end

theorem sortKey_le_iff (order : SortOrder) (counts : Option CountTable) (left right : String) :
    order.sortKey counts left ≤ order.sortKey counts right ↔
      order.rank counts (lowered left) < order.rank counts (lowered right) ∨
        order.rank counts (lowered left) = order.rank counts (lowered right) ∧
          alphabeticalLe left right = true := by
  simp only [sortKey, formKey, Prod.Lex.toLex_le_toLex, Prod.Lex.toLex_lt_toLex, toLex_inj,
    Prod.mk.injEq, alphabeticalLe, Bool.or_eq_true, Bool.and_eq_true, decide_eq_true_iff,
    beq_iff_eq]
  rw [or_assoc, and_assoc, ← and_or_left]

theorem alphabeticalLe_iff_sortKey {order : SortOrder} {counts : Option CountTable}
    (unranked : ∀ form, order.rank counts form = 0) (left right : String) :
    alphabeticalLe left right = true ↔
      order.sortKey counts left ≤ order.sortKey counts right := by
  rw [sortKey_le_iff, unranked, unranked, or_iff_right (lt_irrefl 0), and_iff_right rfl]

section

variable (table : CountTable) (left right : String)

theorem countedLe_iff (mostFirst : Bool) :
    countedLe table mostFirst left right = true ↔
      (if mostFirst then table.count right < table.count left
        else table.count left < table.count right) ∨
      table.count left = table.count right ∧ alphabeticalLe left right = true := by
  cases mostFirst with
  | true =>
      simp only [countedLe, if_true, Bool.or_eq_true, Bool.and_eq_true, beq_iff_eq]
      rw [decide_eq_true_iff]
  | false =>
      simp only [countedLe, Bool.false_eq_true, if_false, Bool.or_eq_true, Bool.and_eq_true,
        beq_iff_eq]
      rw [decide_eq_true_iff]

theorem countedLe_iff_mostCommon :
    countedLe table true left right = true ↔
      mostCommon.sortKey (some table) left ≤ mostCommon.sortKey (some table) right := by
  simp only [countedLe_iff, if_true, sortKey_le_iff, rank, CountTable.count, Int.neg_lt_neg_iff,
    Int.ofNat_lt, Int.neg_inj, Int.natCast_inj]

theorem countedLe_iff_leastCommon :
    countedLe table false left right = true ↔
      leastCommon.sortKey (some table) left ≤ leastCommon.sortKey (some table) right := by
  simp only [countedLe_iff, Bool.false_eq_true, if_false, sortKey_le_iff, rank, CountTable.count,
    Int.ofNat_lt, Int.natCast_inj]

end

/-- Every order but the unsorted one is a sort by its key. -/
theorem exists_sort_eq (order : SortOrder) (counts : Option CountTable)
    (sorts : order ≠ .unsorted) :
    ∃ le : String → String → Bool,
      (∀ left right, le left right = true ↔ order.Precedes counts left right) ∧
        ∀ values, order.sort counts values = values.mergeSort le := by
  cases order with
  | unsorted => exact absurd rfl sorts
  | alphabetical =>
      exact ⟨alphabeticalLe, alphabeticalLe_iff_sortKey fun _ => rfl, fun _ => rfl⟩
  | reverseAlphabetical =>
      exact ⟨fun left right => alphabeticalLe right left,
        fun left right => alphabeticalLe_iff_sortKey (fun _ => rfl) right left, fun _ => rfl⟩
  | mostCommon =>
      cases counts with
      | none => exact ⟨alphabeticalLe, alphabeticalLe_iff_sortKey fun _ => rfl, fun _ => rfl⟩
      | some table =>
          exact ⟨countedLe table true, countedLe_iff_mostCommon table, fun _ => rfl⟩
  | leastCommon =>
      cases counts with
      | none => exact ⟨alphabeticalLe, alphabeticalLe_iff_sortKey fun _ => rfl, fun _ => rfl⟩
      | some table =>
          exact ⟨countedLe table false, countedLe_iff_leastCommon table, fun _ => rfl⟩

theorem perm_sort (order : SortOrder) (counts : Option CountTable) (values : List String) :
    (order.sort counts values).Perm values := by
  by_cases sorts : order = .unsorted
  · subst sorts
    exact .refl values
  · obtain ⟨le, -, sorted⟩ := exists_sort_eq order counts sorts
    rw [sorted]
    exact List.mergeSort_perm values le

theorem pairwise_sort (order : SortOrder) (counts : Option CountTable) (values : List String) :
    (order.sort counts values).Pairwise (order.Precedes counts) := by
  by_cases sorts : order = .unsorted
  · subst sorts
    exact List.pairwise_of_forall fun _ _ => trivial
  · obtain ⟨le, le_iff, sorted⟩ := exists_sort_eq order counts sorts
    have trans (first second third : String) (before : le first second = true)
        (after : le second third = true) : le first third = true := by
      rw [le_iff] at before after ⊢
      exact Admits.trans before after
    have total (first second : String) : (le first second || le second first) = true := by
      rw [Bool.or_eq_true, le_iff, le_iff]
      exact order.admits_total _ _
    rw [sorted]
    exact (List.pairwise_mergeSort trans total values).imp fun before => (le_iff _ _).mp before

/-- There is only one way to arrange values in an order that sorts. -/
theorem eq_sort {order : SortOrder} {counts : Option CountTable} {values arranged : List String}
    (sorts : order ≠ .unsorted) (perm : arranged.Perm values)
    (inOrder : arranged.Pairwise (order.Precedes counts)) : arranged = order.sort counts values :=
  List.Perm.eq_of_pairwise (fun _ _ _ _ => Precedes.antisymm sorts) inOrder
    (order.pairwise_sort counts values) (perm.trans (order.perm_sort counts values).symm)

theorem mem_sort {order : SortOrder} {counts : Option CountTable} {values : List String}
    {value : String} : value ∈ order.sort counts values ↔ value ∈ values :=
  (order.perm_sort counts values).mem_iff

theorem sort_eq_of_perm {order : SortOrder} (sorts : order ≠ .unsorted)
    (counts : Option CountTable) {values others : List String} (perm : values.Perm others) :
    order.sort counts values = order.sort counts others :=
  eq_sort sorts ((order.perm_sort counts values).trans perm) (order.pairwise_sort counts values)

theorem sort_reverseAlphabetical (counts : Option CountTable) (values : List String) :
    reverseAlphabetical.sort counts values = (alphabetical.sort counts values).reverse := by
  have sorts : reverseAlphabetical ≠ .unsorted := nofun
  have perm : (alphabetical.sort counts values).reverse.Perm values :=
    (List.reverse_perm _).trans (perm_sort _ _ _)
  have inOrder : (alphabetical.sort counts values).reverse.Pairwise
      (reverseAlphabetical.Precedes counts) := by
    rw [List.pairwise_reverse]
    exact alphabetical.pairwise_sort counts values
  exact (eq_sort sorts perm inOrder).symm

theorem pairwise_map_lowered_sort (order : SortOrder) (counts : Option CountTable)
    (values : List String) :
    ((order.sort counts values).map lowered).Pairwise fun first second =>
      order.Admits (order.formKey counts first) (order.formKey counts second) :=
  List.pairwise_map.mpr ((order.pairwise_sort counts values).imp Precedes.formKey)

theorem map_lowered_sort_congr {order : SortOrder} (sorts : order ≠ .unsorted)
    {counts otherCounts : Option CountTable} {values others : List String}
    (ranks : ∀ form, order.rank counts form = order.rank otherCounts form)
    (perm : (values.map lowered).Perm (others.map lowered)) :
    (order.sort counts values).map lowered = (order.sort otherCounts others).map lowered := by
  have sameKey : order.formKey counts = order.formKey otherCounts := by
    funext form
    rw [formKey, formKey, ranks]
  have inOrder := order.pairwise_map_lowered_sort counts values
  rw [sameKey] at inOrder
  have forms : ((order.sort counts values).map lowered).Perm
      ((order.sort otherCounts others).map lowered) :=
    ((order.perm_sort counts values).map lowered).trans
      (perm.trans ((order.perm_sort otherCounts others).map lowered).symm)
  refine List.Perm.eq_of_pairwise (fun _ _ _ _ before after => ?_) inOrder
    (order.pairwise_map_lowered_sort otherCounts others) forms
  exact order.formKey_injective otherCounts (Admits.antisymm sorts before after)

/-- Sorting keeps the values.  In every order but the unsorted one, the key and nothing else says
where a value stands. -/
theorem sort_canonical (order : SortOrder) (counts : Option CountTable) (values : List String) :
    (order.sort counts values).Perm values ∧
      (order.sort counts values).Pairwise (order.Precedes counts) ∧
      (order ≠ .unsorted → ∀ others : List String, values.Perm others →
        order.sort counts values = order.sort counts others) ∧
      reverseAlphabetical.sort counts values = (alphabetical.sort counts values).reverse ∧
      mostCommon.sort none values = alphabetical.sort none values ∧
      leastCommon.sort none values = alphabetical.sort none values ∧
      unsorted.sort counts values = values :=
  ⟨order.perm_sort counts values, order.pairwise_sort counts values,
    fun sorts _ perm => sort_eq_of_perm sorts counts perm, sort_reverseAlphabetical counts values,
    rfl, rfl, rfl⟩

/-- Values that come shuffled: the counts first, then the letters, and the case of the letters last
of all. -/
theorem sort_canonical_shuffled :
    let counts : CountTable := [("zed", 3), ("beta", 1), ("alpha", 1), ("mid", 2)]
    let values := ["Alpha", "beta", "Zed", "ALPHA", "Mid"]
    let arranged := ["Zed", "Mid", "ALPHA", "Alpha", "beta"]
    values.Perm arranged ∧ mostCommon.sort (some counts) values = arranged := by
  intro counts values arranged
  have perm : values.Perm arranged := by decide
  have stays : mostCommon.sort (some counts) arranged = arranged :=
    List.mergeSort_of_pairwise (by decide)
  obtain ⟨-, -, same, -⟩ := sort_canonical .mostCommon (some counts) values
  exact ⟨perm, (same nofun arranged perm).trans stays⟩

end SortOrder

end FieldMenu
