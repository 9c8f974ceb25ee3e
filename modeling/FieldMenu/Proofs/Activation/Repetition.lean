import FieldMenu.Proofs.Activation.Count

namespace FieldMenu

open Text

namespace AdditionalAction

theorem decided_decided (writes : List AdditionalAction) (name : String) (held : Option String) :
    decided writes name (decided writes name held) = decided writes name held := by
  cases last : lastOn? writes name with
  | none => simp only [decided, last]
  | some write => simp only [decided, last]

theorem change_change (write : AdditionalAction) (store : FieldStore) :
    write.change (write.change store) = write.change store := by
  rw [change_eq_self_iff, get?_change, isOn_self, if_pos rfl]

end AdditionalAction

namespace Record

variable (record : Record)

theorem field?_written_twice (writes : List AdditionalAction) (name : String) :
    ((record.written writes).written writes).field? name = (record.written writes).field? name := by
  rw [field?_written, field?_written, AdditionalAction.decided_decided]

/-- One write leaves at once what it leaves when it is done again. -/
theorem written_accepted_singleton (write : AdditionalAction) :
    (record.written (record.accepted [write])).written (record.accepted [write]) =
      record.written (record.accepted [write]) := by
  cases refused : record.refusal? write.field with
  | some refusal => simp [accepted, refused, written]
  | none => simp [accepted, refused, written, AdditionalAction.change_change]

theorem not_has_written_removing {name : String} (free : record.refusal? name = none) :
    (record.written (record.accepted [.removing name])).customFields.has name = false := by
  have taken : record.accepted [.removing name] = [.removing name] :=
    accepted_of_none (by rw [firstRefusal?_eq_none_iff, List.forall_mem_singleton]; exact free)
  have gone : (record.customFields.remove name).get? name = none :=
    FieldStore.get?_remove_self record.customFields name
  rw [taken, FieldStore.has_eq_isSome_get?]
  exact congrArg Option.isSome gone

end Record

namespace MenuAction

def WritesAlways (action : MenuAction) (writes : List AdditionalAction) : Prop :=
  ∀ batch record, action.writes batch record = writes

theorem writesAlways_set (field value : String) (asks : Bool) (actions : List AdditionalAction) :
    (MenuAction.toggle field value .set asks actions).WritesAlways
      (.setting field value :: actions) :=
  fun _ _ => rfl

theorem writesAlways_remove (field value : String) (asks : Bool)
    (actions : List AdditionalAction) :
    (MenuAction.toggle field value .remove asks actions).WritesAlways [.removing field] :=
  fun _ _ => rfl

section

variable {action : MenuAction} {writes : List AdditionalAction} {write : AdditionalAction}
  (batch : List Record)

theorem apply_of_always (always : action.WritesAlways writes) :
    action.apply batch = batch.map fun record => record.written (record.accepted writes) := by
  rw [apply, results, List.map_map]
  refine List.map_congr_left fun record _ => ?_
  rw [Function.comp_apply, edit_record, always]

theorem field?_apply_apply (always : action.WritesAlways writes) (name : String) :
    ((action.apply (action.apply batch)).map fun record => record.field? name) =
      (action.apply batch).map fun record => record.field? name := by
  rw [apply_of_always (action.apply batch) always, apply_of_always batch always, List.map_map,
    List.map_map, List.map_map]
  exact List.map_congr_left fun record _ => record.field?_written_twice _ name

theorem apply_apply_of_single (always : action.WritesAlways [write]) :
    action.apply (action.apply batch) = action.apply batch := by
  rw [apply_of_always (action.apply batch) always, apply_of_always batch always, List.map_map]
  refine List.map_congr_left fun record _ => ?_
  exact record.written_accepted_singleton write

theorem failures_apply (always : action.WritesAlways writes) :
    (action.report (action.apply batch)).failures = (action.report batch).failures := by
  rw [report_failures, report_failures, apply_of_always batch always, List.filterMap_map]
  refine List.filterMap_congr fun record _ => ?_
  rw [Function.comp_apply, always, always]
  rfl

end

theorem counts_remove (field value : String) (asks : Bool) (actions : List AdditionalAction)
    (batch : List Record) (record : Record) :
    (MenuAction.toggle field value .remove asks actions).counts batch record =
      ((record.refusal? field).isNone && record.customFields.has field) := by
  let action : MenuAction := .toggle field value .remove asks actions
  have tells : (action.edit batch record).Tells Change.changed record
      (action.writes batch record) :=
    record.dropField_tells field
  rw [counts_of_tells tells, writesAlways_remove, Record.firstRefusal?, List.findSome?_cons,
    AdditionalAction.alters, AdditionalAction.alters, AdditionalAction.change_bne_self,
    FieldStore.has_eq_isSome_get?, AdditionalAction.removing]
  cases record.refusal? field with
  | some refusal => rfl
  | none => cases record.customFields.get? field <;> rfl

theorem changed_apply_remove (field value : String) (asks : Bool) (actions : List AdditionalAction)
    (batch : List Record) :
    ((MenuAction.toggle field value .remove asks actions).report
      ((MenuAction.toggle field value .remove asks actions).apply batch)).changed = 0 := by
  let action : MenuAction := .toggle field value .remove asks actions
  have always : action.WritesAlways [.removing field] :=
    writesAlways_remove field value asks actions
  rw [report_changed, List.countP_eq_zero, apply_of_always batch always, List.forall_mem_map]
  intro record _
  rw [counts_remove, Record.refusal?_written]
  cases refused : record.refusal? field with
  | some refusal => exact Bool.false_ne_true
  | none =>
      rw [record.not_has_written_removing refused]
      exact Bool.false_ne_true

end MenuAction

/-- Where the user is asked about the action on so many records, the answer is yes. -/
def Agreed {σ : Type} (host : Host (StateM σ)) (settings : Settings) (state : σ)
    (action : MenuAction) (targets : List Record) : Prop :=
  Required settings action targets →
    ((host.confirm (action.question targets.length)).run state).1 = true

section

variable {σ : Type} {host : Host (StateM σ)} {settings : Settings} {state : σ} {node : MenuNode}
  {action : MenuAction} {targets other : List Record}

theorem Agreed.of_length (agreed : Agreed host settings state action targets)
    (size : other.length = targets.length) : Agreed host settings state action other := by
  rw [Agreed, Required, size]
  exact agreed

theorem Agreed.proceeds (agreed : Agreed host settings state action targets)
    (does : node.action? = some action) (nonempty : targets ≠ [])
    (size : other.length = targets.length) :
    Proceeds host settings state node other action := by
  have left : other ≠ [] := by
    apply List.ne_nil_of_length_pos
    rw [size]
    exact List.length_pos_iff.mpr nonempty
  exact ⟨does, left, agreed.of_length size⟩

theorem MenuAction.length_apply (action : MenuAction) (batch : List Record) :
    (action.apply batch).length = batch.length := by
  rw [apply, results, List.length_map, List.length_map]

theorem targets_of_agreed (does : node.action? = some action)
    (agreed : Agreed host settings state action targets) :
    ((node.activate host settings targets).run state).1.targets = action.apply targets := by
  by_cases nonempty : targets = []
  · subst nonempty
    rw [run_noTargets host settings state does]
    rfl
  · rw [targets_of_proceeds ⟨does, nonempty, agreed⟩, MenuAction.apply, MenuAction.results,
      List.map_map]
    rfl

end

/-- Activating an entry that sets, or one that removes, a second time: every look-up shows what it
showed after the first, the same records fail, and a removal finds nothing to change. -/
theorem activate_again {σ τ : Type} (host : Host (StateM σ)) (host' : Host (StateM τ))
    (settings settings' : Settings) (state : σ) (state' : τ) (node : MenuNode)
    (targets : List Record) (field value : String) (operation : Operation) (asks : Bool)
    (actions : List AdditionalAction)
    (does : node.action? = some (.toggle field value operation asks actions))
    (agreed : Agreed host settings state (.toggle field value operation asks actions) targets)
    (again : Agreed host' settings' state' (.toggle field value operation asks actions) targets) :
    let action : MenuAction := .toggle field value operation asks actions
    let once := ((node.activate host settings targets).run state).1
    let twice := ((node.activate host' settings' once.targets).run state').1
    let report := action.report targets
    let report' := action.report once.targets
    (targets ≠ [] → (∃ answer, once.outcome = Outcome.ofSaved report answer) ∧
      ∃ answer, twice.outcome = Outcome.ofSaved report' answer) ∧
    (operation = .set →
      (∀ name, (twice.targets.map fun record => record.field? name) =
          once.targets.map fun record => record.field? name) ∧
        report'.failures = report.failures) ∧
    (operation = .remove →
      twice.targets = once.targets ∧ report'.failures = report.failures ∧ report'.changed = 0) := by
  intro action once twice report report'
  have first : once.targets = action.apply targets := targets_of_agreed does agreed
  have size : once.targets.length = targets.length := by
    rw [first, action.length_apply]
  have second : twice.targets = action.apply once.targets :=
    targets_of_agreed does (again.of_length size)
  refine ⟨fun nonempty => ⟨?_, ?_⟩, ?_, ?_⟩
  · exact outcome_of_proceeds (agreed.proceeds does nonempty rfl)
  · exact outcome_of_proceeds (again.proceeds does nonempty size)
  · rintro rfl
    have always := MenuAction.writesAlways_set field value asks actions
    have failures := MenuAction.failures_apply targets always
    rw [← first] at failures
    refine ⟨?_, failures⟩
    rw [second, first]
    exact MenuAction.field?_apply_apply targets always
  · rintro rfl
    have always := MenuAction.writesAlways_remove field value asks actions
    have failures := MenuAction.failures_apply targets always
    have changed := MenuAction.changed_apply_remove field value asks actions targets
    rw [← first] at failures changed
    refine ⟨?_, failures, changed⟩
    rw [second, first]
    exact MenuAction.apply_apply_of_single targets always

/-- The second activation finds what the first one wrote last, and the refusals of the first: one
record comes as far as the blank name, the other one is locked. -/
theorem activate_again_refused :
    let doom : Record :=
      { id := "1", title := "Doom"
        customFields :=
          [{ name := "status", value := "New" }, { name := "STATUS", value := "Old" }] }
    let quake : Record := { id := "2", title := "Quake", locked := true }
    let reset : AdditionalAction := { field := "STATUS", action := .remove, value := "" }
    let beaten : AdditionalAction := { field := "Status", action := .set, value := "Beaten" }
    let unnamed : AdditionalAction := { field := " ", action := .set, value := "true" }
    let action : MenuAction := .toggle "Status" "Playing" .set true [reset, beaten, unnamed]
    let node : MenuNode := { key := "Playing", caption := "Playing", kind := .action action }
    let once := ((node.activate .agreeable {} [doom, quake]).run ()).1
    let twice := ((node.activate .agreeable {} once.targets).run ()).1
    (action.report once.targets).failures =
        [{ entity := "Doom (1)", error := "Invalid field name ' '" },
          { entity := "Quake (2)", error := "Entity 'Quake (2)' is read-only" }] ∧
      (twice.targets.map fun record => record.field? "status") = [some "Beaten", none] := by
  intro doom quake reset beaten unnamed action node once twice
  obtain ⟨-, sets, -⟩ := activate_again .agreeable .agreeable {} {} () () node [doom, quake]
    "Status" "Playing" .set true [reset, beaten, unnamed] rfl (fun _ => rfl) fun _ => rfl
  obtain ⟨found, failures⟩ := sets rfl
  simp only [once, twice, action]
  exact ⟨failures.trans (by decide), (found "status").trans (by decide)⟩

end FieldMenu
