import FieldMenu.Condition

namespace FieldMenu

def Logic.other : Logic → Logic
  | .all => .any
  | .any => .all

namespace Operator

def counterpart : Operator → Operator
  | .equals => .notEquals
  | .notEquals => .equals
  | .contains => .notContains
  | .notContains => .contains
  | .exists => .notExists
  | .notExists => .exists
  | .isIn => .notIn
  | .notIn => .isIn
  | .unrecognized word => .unrecognized word

def IsRecognized (operator : Operator) : Prop :=
  ∀ word, operator ≠ .unrecognized word

theorem valueMissing_eq_not_valueExists (actual : Option String) :
    valueMissing actual = !valueExists actual := by
  cases actual with
  | none => rfl
  | some text => rw [valueMissing, valueExists, Bool.not_not]

theorem compare_counterpart {operator : Operator} (recognized : operator.IsRecognized)
    (actual expected : Option String) :
    operator.counterpart.compare actual expected = !operator.compare actual expected := by
  cases operator with
  | unrecognized word => exact absurd rfl (recognized word)
  | equals | contains | isIn => rfl
  | notEquals | notContains | notIn => exact (Bool.not_not _).symm
  | «exists» => exact valueMissing_eq_not_valueExists actual
  | notExists =>
      rw [counterpart, compare, compare, valueMissing_eq_not_valueExists, Bool.not_not]

end Operator

def Rule.dual (rule : Rule) : Rule :=
  { rule with operator := rule.operator.counterpart }

theorem Rule.passes_counterpart {rule : Rule} (recognized : rule.operator.IsRecognized)
    (record : Record) : rule.dual.passes record = !rule.passes record :=
  Operator.compare_counterpart recognized (record.attribute? rule.field) rule.value

section

variable {rules : List Rule} (recognized : ∀ rule ∈ rules, rule.operator.IsRecognized)
  (record : Record)

include recognized

theorem any_dual :
    ((rules.map Rule.dual).any fun rule => rule.passes record) =
      !rules.all fun rule => rule.passes record := by
  induction rules with
  | nil => rfl
  | cons rule rules ih =>
      rw [List.forall_mem_cons] at recognized
      rw [List.map_cons, List.any_cons, List.all_cons, Rule.passes_counterpart recognized.1,
        ih recognized.2, Bool.not_and]

theorem all_dual :
    ((rules.map Rule.dual).all fun rule => rule.passes record) =
      !rules.any fun rule => rule.passes record := by
  induction rules with
  | nil => rfl
  | cons rule rules ih =>
      rw [List.forall_mem_cons] at recognized
      rw [List.map_cons, List.all_cons, List.any_cons, Rule.passes_counterpart recognized.1,
        ih recognized.2, Bool.not_or]

end

namespace ConditionGroup

def dual (group : ConditionGroup) : ConditionGroup where
  logic := group.logic.other
  rules := group.rules.map Rule.dual

/-- A record passes the dual of a group where it does not pass the group. -/
theorem passes_dual (group : ConditionGroup)
    (recognized : ∀ rule ∈ group.rules, rule.operator.IsRecognized) (record : Record) :
    group.dual.passes record = !group.passes record := by
  obtain ⟨logic, rules⟩ := group
  cases logic with
  | all => exact any_dual recognized record
  | any => exact all_dual recognized record

/-- A property that is set, one that is not, a custom field with an empty value and no field at all:
none of the rules passes, and all their counterparts do. -/
theorem passes_dual_lookups :
    let doom : Record :=
      { id := "1", title := "Doom", customFields := [{ name := "Status", value := "" }] }
    let group : ConditionGroup :=
      { logic := .any
        rules :=
          [{ field := "Title", operator := .notEquals, value := some "DOOM" },
            { field := "Developer", operator := .exists, value := none },
            { field := "status", operator := .exists, value := none },
            { field := "Rating", operator := .equals, value := some "" }] }
    group.passes doom = false ∧ group.dual.passes doom = true := by
  intro doom group
  have fails : group.passes doom = false := by decide +kernel
  have dual := passes_dual group (by simp [group, Operator.IsRecognized]) doom
  rw [fails] at dual
  exact ⟨fails, dual⟩

end ConditionGroup

end FieldMenu
