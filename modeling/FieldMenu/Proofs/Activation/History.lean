import FieldMenu.Proofs.Activation.Plan
import FieldMenu.Proofs.Record.Naming
import Mathlib.Logic.Function.Basic

namespace FieldMenu

theorem MenuNode.keeps_activate {σ : Type} (host : Host (StateM σ)) (settings : Settings)
    (state : σ) (node : MenuNode) (targets : List Record) :
    List.Forall₂ Record.Keeps targets
      ((node.activate host settings targets).run state).1.targets := by
  by_cases goesOn : ∃ action, Proceeds host settings state node targets action
  · obtain ⟨action, proceeds⟩ := goesOn
    rw [targets_of_proceeds proceeds, List.forall₂_map_right_iff, List.forall₂_same]
    exact fun record _ => (action.edit_follows targets record).keeps
  · rw [targets_of_stopped (not_exists.mp goesOn), List.forall₂_same]
    exact fun record _ => .refl record

/-- One thing that is done to a family of records: an edit of one of them, or an entry activated on
some of them, in any order, under any settings and by any host. -/
inductive Mutation (ι : Type) : Type 1 where
  | set (index : ι) (name value : String)
  | remove (index : ι) (name : String)
  | clear (index : ι)
  | activate {σ : Type} (host : Host (StateM σ)) (state : σ) (settings : Settings)
      (node : MenuNode) (batch : List ι)

def putBack {ι : Type} [DecidableEq ι] (records : ι → Record) (placed : List (ι × Record)) :
    ι → Record :=
  placed.foldl (fun records entry => Function.update records entry.1 entry.2) records

namespace Mutation

variable {ι : Type} [DecidableEq ι]

def apply (records : ι → Record) : Mutation ι → ι → Record
  | .set index name value =>
      Function.update records index ((records index).setField name value).record
  | .remove index name => Function.update records index ((records index).removeField name).record
  | .clear index => Function.update records index (records index).clearFields.record
  | .activate host state settings node batch =>
      let activation := ((node.activate host settings (batch.map records)).run state).1
      putBack records (batch.zip activation.targets)

def run (records : ι → Record) (history : List (Mutation ι)) : ι → Record :=
  history.foldl apply records

end Mutation

variable {ι : Type} [DecidableEq ι]

theorem keeps_update {records current : ι → Record}
    (keeps : ∀ index, (records index).Keeps (current index)) {place : ι} {after : Record}
    (kept : (records place).Keeps after) (index : ι) :
    (records index).Keeps (Function.update current place after index) := by
  by_cases same : index = place
  · subst same
    rwa [Function.update_self]
  · rw [Function.update_of_ne same]
    exact keeps index

theorem keeps_putBack {records : ι → Record} {placed : List (ι × Record)}
    (kept : ∀ entry ∈ placed, (records entry.1).Keeps entry.2) (index : ι) :
    (records index).Keeps (putBack records placed index) := by
  -- A place may come more than once; each of its records was made from the one before all of them.
  have placing (current : ι → Record) (keeps : ∀ index, (records index).Keeps (current index)) :
      (records index).Keeps (putBack current placed index) := by
    induction placed generalizing current with
    | nil => exact keeps index
    | cons entry placed ih =>
        obtain ⟨here, later⟩ := List.forall_mem_cons.mp kept
        exact ih later _ (keeps_update keeps here)
  exact placing records fun index => .refl (records index)

namespace Mutation

theorem keeps_apply (records : ι → Record) (mutation : Mutation ι) (index : ι) :
    (records index).Keeps (mutation.apply records index) := by
  have unchanged (index : ι) : (records index).Keeps (records index) := .refl (records index)
  cases mutation with
  | set place name value =>
      exact keeps_update unchanged ((records place).setField_follows name value).keeps index
  | remove place name =>
      exact keeps_update unchanged ((records place).removeField_follows name).keeps index
  | clear place =>
      exact keeps_update unchanged ((records place).removeFields_follows _).keeps index
  | activate host state settings node batch =>
      have kept := node.keeps_activate host settings state (batch.map records)
      rw [List.forall₂_map_left_iff] at kept
      exact keeps_putBack (fun entry member => (List.forall₂_iff_zip.mp kept).2 member) index

theorem keeps_run (records : ι → Record) (history : List (Mutation ι)) (index : ι) :
    (records index).Keeps (run records history index) := by
  induction history generalizing records with
  | nil => exact .refl (records index)
  | cons mutation history ih => exact (mutation.keeps_apply records index).trans (ih _)

end Mutation

/-- After any history, and so after every step of one, each record has names that are not blank and
pairwise distinct regardless of letter case, a locked record has the fields it had, and nothing but
custom fields has changed. -/
theorem mutation_history (records : ι → Record)
    (wellNamed : ∀ index, (records index).customFields.WellNamed)
    (history : List (Mutation ι)) (index : ι) :
    let after := Mutation.run records history index
    after.customFields.WellNamed ∧
      ((records index).locked = true →
        after.customFields = (records index).customFields) ∧
      after = { records index with customFields := after.customFields } := by
  have keeps := Mutation.keeps_run records history index
  refine ⟨keeps.wellNamed (wellNamed index), fun locked => ?_, keeps.fieldsOnly⟩
  rw [keeps.locked locked]

/-- One record is written to under a name in other letter case and by an entry that one of its
actions stops; the other one is locked. -/
theorem mutation_history_locked :
    let doom : Record :=
      { id := "1", title := "Doom", customFields := [{ name := "Status", value := "New" }] }
    let quake : Record :=
      { id := "2", title := "Quake", locked := true
        customFields := [{ name := "Backlog", value := "true" }] }
    let unnamed : AdditionalAction := { field := " ", action := .set, value := "true" }
    let node : MenuNode :=
      { key := "Backlog", caption := "Backlog"
        kind := .action (.toggle "BACKLOG" "true" .set false [unnamed]) }
    let records : Bool → Record := fun second => if second then quake else doom
    let history : List (Mutation Bool) :=
      [.set false "status" "Played", .activate .agreeable () {} node [true, false], .clear true]
    let after := Mutation.run records history
    (∀ index, (records index).customFields.WellNamed) ∧
      (after false).customFields.WellNamed ∧
      (after false).customFields =
        [{ name := "Status", value := "Played" }, { name := "BACKLOG", value := "true" }] ∧
      (after true).customFields = quake.customFields := by
  intro doom quake unnamed node records history after
  have wellNamed : ∀ index, (records index).customFields.WellNamed :=
    Bool.forall_bool.mpr ⟨⟨by decide, by decide⟩, ⟨by decide, by decide⟩⟩
  obtain ⟨named, -, -⟩ := mutation_history records wellNamed history false
  obtain ⟨-, untouched, -⟩ := mutation_history records wellNamed history true
  exact ⟨wellNamed, named, by decide, untouched rfl⟩

end FieldMenu
