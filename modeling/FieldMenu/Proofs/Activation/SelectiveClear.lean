import FieldMenu.Proofs.Activation.Plan
import FieldMenu.Proofs.Record.Clear

namespace FieldMenu

open Text

section

variable {settings : Settings} {selection : List Record}

theorem any_selectionFieldNames (selection : List Record) (name : String) :
    ((selectionFieldNames selection).any fun known => sameIgnoringCase known name) =
      selection.any fun record => record.customFields.has name := by
  rw [selectionFieldNames, (SortOrder.perm_sort _ _ _).any_eq, any_firstSpellings, List.any_flatMap]
  simp only [List.any_map]
  rfl

theorem exists_record_of_mem_selectionFieldNames {name : String}
    (member : name ∈ selectionFieldNames selection) :
    ∃ record ∈ selection, name ∈ record.fieldNames :=
  List.mem_flatMap.mp ((firstSpellings_sublist _).subset (SortOrder.mem_sort.mp member))

theorem pairwise_selectionFieldNames (selection : List Record) :
    (selectionFieldNames selection).Pairwise fun name other => lowered name < lowered other :=
  SortOrder.pairwise_sort_alphabetical (distinctNames_firstSpellings _) none

/-- The entries of the submenu: one for each name on the selection, by their lowercase forms. -/
structure ClearEntries (selection : List Record) (entries : List MenuNode) : Prop where
  clears : ∀ entry ∈ entries, entry.kind = .action (.clearField entry.key)
  /-- No two entries are for spellings of one name. -/
  ordered : entries.Pairwise fun entry other => lowered entry.key < lowered other.key
  complete : ∀ name, (∃ entry ∈ entries, sameIgnoringCase entry.key name = true) ↔
    ∃ record ∈ selection, record.customFields.has name = true

theorem map_key_selectiveClear (settings : Settings) (selection : List Record) :
    (selectiveClearNode settings selection).children.map MenuNode.key =
      selectionFieldNames selection := by
  rw [selectiveClearNode, List.map_map]
  exact List.map_id _

theorem clearEntries_selectiveClear (settings : Settings) (selection : List Record) :
    ClearEntries selection (selectiveClearNode settings selection).children := by
  have keys := map_key_selectiveClear settings selection
  refine ⟨?_, ?_, fun name => ?_⟩
  · rw [selectiveClearNode, List.forall_mem_map]
    exact fun field _ => rfl
  · have ordered := pairwise_selectionFieldNames selection
    rwa [← keys, List.pairwise_map] at ordered
  · have known := any_selectionFieldNames selection name
    rwa [← keys, List.any_map, Bool.eq_iff_iff, List.any_eq_true, List.any_eq_true] at known

theorem filter_selectiveClear {document : Document} {library : List Record}
    (injected : document.selectiveClear.enabled = true) :
    (document.menu selection library).filter (fun node => node.kind = .selectiveClear) =
      [selectiveClearNode document.toSettings selection] := by
  have other {α : Type} {node : α → MenuNode} (entries : List α)
      (kinds : ∀ entry, (node entry).kind ≠ .selectiveClear) :
      (entries.map node).filter (fun node => node.kind = .selectiveClear) = [] := by
    rw [List.filter_eq_nil_iff, List.forall_mem_map]
    exact fun entry _ => by simpa using kinds entry
  have groups (group : Group) :
      (group.node document.toSettings selection library).kind ≠ .selectiveClear :=
    NodeKind.noConfusion
  have items (group : Option Group) (item : Item) :
      (item.node group document.toSettings selection library).kind ≠ .selectiveClear := by
    rw [Item.node]
    cases item.mode <;> exact NodeKind.noConfusion
  have clearAll : (if document.toSettings.clearAllFields.enabled = true then
      [clearAllNode document.toSettings] else []).filter
        (fun node => node.kind = .selectiveClear) = [] := by
    split <;> rfl
  simp only [Document.menu, List.filter_append, clearAll, injected, if_true, other _ groups,
    other _ (items none), List.nil_append, List.append_nil]
  rfl

end

def Host.Grants {σ : Type} (host : Host (StateM σ)) : Prop :=
  ∀ question state, ((host.confirm question).run state).1 = true

/-- The records after entries have been activated on them, one after the other. -/
def activateEach {m : Type → Type} [Monad m] (host : Host m) (settings : Settings)
    (targets : List Record) (nodes : List MenuNode) : m (List Record) :=
  nodes.foldlM
    (fun targets node => do
      let activation ← node.activate host settings targets
      pure activation.targets)
    targets

section

variable {σ : Type} {host : Host (StateM σ)} {settings : Settings} {node : MenuNode}
  {targets : List Record}

theorem targets_of_granted {action : MenuAction} (grants : host.Grants)
    (does : node.action? = some action) (state : σ) :
    ((node.activate host settings targets).run state).1.targets =
      targets.map fun record => (action.edit targets record).record := by
  by_cases none : targets = []
  · subst none
    rw [run_noTargets host settings state does]
    rfl
  · exact targets_of_proceeds ⟨does, none, fun _ => grants _ _⟩

theorem targets_of_clearField {field : String} (grants : host.Grants)
    (does : node.action? = some (.clearField field)) (named : isBlankText field = false)
    (unlocked : ∀ record ∈ targets, record.locked = false) (state : σ) :
    ((node.activate host settings targets).run state).1.targets =
      targets.map fun record => record.without [field] := by
  rw [targets_of_granted grants does]
  refine List.map_congr_left fun record member => ?_
  have edited : ((MenuAction.clearField field).edit targets record).record =
      record.written [.removing field] :=
    MenuAction.edit_record_of_unlocked rfl (unlocked record member)
      (List.forall_mem_singleton.mpr named)
  rw [edited]
  exact record.written_removing [field]

theorem run_activateEach_cons (host : Host (StateM σ)) (settings : Settings)
    (targets : List Record) (node : MenuNode) (nodes : List MenuNode) (state : σ) :
    (activateEach host settings targets (node :: nodes)).run state =
      (activateEach host settings ((node.activate host settings targets).run state).1.targets
        nodes).run ((node.activate host settings targets).run state).2 :=
  rfl

theorem targets_activateEach {nodes : List MenuNode} (grants : host.Grants)
    (clears : ∀ node ∈ nodes, node.kind = .action (.clearField node.key))
    (named : ∀ node ∈ nodes, isBlankText node.key = false)
    (unlocked : ∀ record ∈ targets, record.locked = false) (state : σ) :
    ((activateEach host settings targets nodes).run state).1 =
      targets.map fun record => record.without (nodes.map MenuNode.key) := by
  induction nodes generalizing targets state with
  | nil =>
      refine (List.map_id targets).symm.trans (List.map_congr_left fun record _ => ?_)
      rw [List.map_nil, Record.without, FieldStore.without_nil]
      rfl
  | cons node nodes ih =>
      obtain ⟨nodeClears, nodesClear⟩ := List.forall_mem_cons.mp clears
      obtain ⟨nodeNamed, nodesNamed⟩ := List.forall_mem_cons.mp named
      have does : node.action? = some (.clearField node.key) := by
        rw [MenuNode.action?, nodeClears]
      have stillUnlocked : ∀ record ∈ targets.map (fun record => record.without [node.key]),
          record.locked = false := by
        rwa [List.forall_mem_map]
      rw [run_activateEach_cons, targets_of_clearField grants does nodeNamed unlocked,
        ih nodesClear nodesNamed stillUnlocked, List.map_map]
      refine List.map_congr_left fun record _ => ?_
      rw [Function.comp_apply, Record.without, Record.without, FieldStore.without_without]
      rfl

theorem targets_of_clearAll (grants : host.Grants)
    (does : node.action? = some .clearAll) (unlocked : ∀ record ∈ targets, record.locked = false)
    (clearable : ∀ record ∈ targets, record.isClearable = true) (state : σ) :
    ((node.activate host settings targets).run state).1.targets =
      targets.map fun record => { record with customFields := [] } := by
  rw [targets_of_granted grants does]
  refine List.map_congr_left fun record member => ?_
  show record.dropAll.record = _
  rw [Record.dropAll_of_isClearable (unlocked record member) (clearable record member)]

end

/-- The submenu that clears single fields covers the names on the selection, each of its entries
takes the fields of its name and nothing else, and all of them together, in any order, leave what
clearing everything leaves: records without custom fields. -/
theorem selective_clear_covers {σ : Type} (host : Host (StateM σ)) (settings : Settings)
    (document : Document) (selection library : List Record) (grants : host.Grants)
    (injected : document.selectiveClear.enabled = true)
    (unlocked : ∀ record ∈ selection, record.locked = false)
    (clearable : ∀ record ∈ selection, record.isClearable = true) :
    let submenu := selectiveClearNode document.toSettings selection
    (document.menu selection library).filter (fun node => node.kind = .selectiveClear) =
        [submenu] ∧
      ClearEntries selection submenu.children ∧
      (∀ entry ∈ submenu.children, ∀ state,
        ((entry.activate host settings selection).run state).1.targets =
          selection.map fun record =>
            { record with
              customFields := record.customFields.filter fun held => !held.isNamed entry.key }) ∧
      (∀ order : List MenuNode, order.Perm submenu.children → ∀ state,
        ((activateEach host settings selection order).run state).1 =
          selection.map fun record => { record with customFields := [] }) ∧
      ∀ node : MenuNode, node.action? = some .clearAll → ∀ state,
        ((node.activate host settings selection).run state).1.targets =
          selection.map fun record => { record with customFields := [] } := by
  intro submenu
  have entries := clearEntries_selectiveClear document.toSettings selection
  have named : ∀ entry ∈ submenu.children, isBlankText entry.key = false := by
    intro entry member
    have inNames : entry.key ∈ selectionFieldNames selection := by
      rw [← map_key_selectiveClear document.toSettings selection]
      exact List.mem_map_of_mem member
    obtain ⟨record, inSelection, held⟩ := exists_record_of_mem_selectionFieldNames inNames
    exact Record.isClearable_iff.mp (clearable record inSelection) entry.key held
  refine ⟨filter_selectiveClear injected, entries, fun entry member state => ?_,
    fun order perm state => ?_, fun node does state => ?_⟩
  · have does : entry.action? = some (.clearField entry.key) := by
      rw [MenuNode.action?, entries.clears entry member]
    rw [targets_of_clearField grants does (named entry member) unlocked]
    refine List.map_congr_left fun record _ => ?_
    rw [Record.without, ← FieldStore.remove_eq_without]
    rfl
  · have members {entry : MenuNode} : entry ∈ order ↔ entry ∈ submenu.children := perm.mem_iff
    rw [targets_activateEach grants (fun entry member => entries.clears entry (members.mp member))
      (fun entry member => named entry (members.mp member)) unlocked]
    refine List.map_congr_left fun record inSelection => ?_
    -- Every field of the record has an entry, so the entries leave none.
    have nothing : record.customFields.without (order.map MenuNode.key) = [] := by
      refine FieldStore.without_eq_nil_iff.mpr fun field held => ?_
      obtain ⟨entry, member, same⟩ := (entries.complete field.name).mpr
        ⟨record, inSelection, List.any_eq_true.mpr ⟨field, held, sameIgnoringCase_self _⟩⟩
      refine ⟨entry.key, List.mem_map_of_mem (members.mpr member), ?_⟩
      rwa [CustomField.isNamed, sameIgnoringCase_comm]
    rw [Record.without, nothing]
  · exact targets_of_clearAll grants does unlocked clearable state

/-- A name in two spellings has one entry; done from the last to the first, the entries empty both
records. -/
theorem selective_clear_covers_spellings :
    let doom : Record :=
      { id := "1", title := "Doom"
        customFields := [{ name := "Tags", value := "FPS" }, { name := "mode", value := "LAN" }] }
    let quake : Record :=
      { id := "2", title := "Quake"
        customFields := [{ name := "MODE", value := "Solo" }, { name := "tags", value := "new" }] }
    let document : Document := { selectiveClear := { enabled := true, label := "Clear" } }
    let submenu := selectiveClearNode document.toSettings [doom, quake]
    submenu.children.map MenuNode.key = ["mode", "Tags"] ∧
      ((activateEach .agreeable {} [doom, quake] submenu.children.reverse).run ()).1 =
        [{ doom with customFields := [] }, { quake with customFields := [] }] := by
  intro doom quake document submenu
  obtain ⟨-, -, -, each, -⟩ := selective_clear_covers .agreeable {} document [doom, quake] []
    (fun _ _ => rfl) rfl (by simp [doom, quake]) (by decide)
  refine ⟨?_, each submenu.children.reverse (List.reverse_perm _) ()⟩
  have spellings : firstSpellings ["Tags", "mode", "MODE", "tags"] = ["Tags", "mode"] := by decide
  have after : SortOrder.alphabeticalLe "Tags" "mode" = false := by decide
  rw [map_key_selectiveClear, selectionFieldNames]
  show SortOrder.alphabetical.sort none (firstSpellings ["Tags", "mode", "MODE", "tags"]) = _
  simp [spellings, SortOrder.sort, List.mergeSort, after]

end FieldMenu
