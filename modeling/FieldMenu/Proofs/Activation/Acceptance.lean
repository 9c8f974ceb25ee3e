import FieldMenu.Proofs.Activation.Option
import FieldMenu.Proofs.Document.Sound
import FieldMenu.Proofs.Menu.Entry

namespace FieldMenu

open Text

namespace Item

def toggleAction (item : Item) : MenuAction :=
  .toggle item.fieldName item.enableValue item.operation item.requireConfirmation
    item.additionalActions

def optionAction (item : Item) (value : String) : MenuAction :=
  .option item.fieldName value item.requireConfirmation item.additionalActions

def Does (item : Item) (action : MenuAction) : Prop :=
  action = item.toggleAction ∨ ∃ value, action = item.optionAction value

def writtenFields (item : Item) : List String :=
  item.fieldName :: item.additionalActions.map AdditionalAction.field

/-- Records take all of these names. -/
def Writable (item : Item) : Prop :=
  ∀ field ∈ item.writtenFields, isBlankText field = false

theorem Sound.writtenFields {item : Item} (sound : item.Sound) :
    ∀ field ∈ item.writtenFields, field ≠ "" := by
  rw [Item.writtenFields, List.forall_mem_cons, List.forall_mem_map]
  exact ⟨sound.fieldName, sound.actionFields⟩

end Item

theorem Document.Shows.sound {document : Document} {selection : List Record}
    {group : Option Group} {item : Item} (shows : document.Shows selection group item)
    (sound : document.Sound) : item.Sound := by
  cases shows with
  | grouped inDocument _ inGroup _ => exact (sound.groups _ inDocument).items item inGroup
  | ungrouped inDocument _ => exact sound.ungroupedItems item inDocument

section

variable {item : Item} {group : Option Group} {settings : Settings}
  {selection library batch : List Record} {node : MenuNode} {action : MenuAction}

theorem Item.does_of_gives (gives : item.Gives group settings selection library node)
    (does : node.action? = some action) : item.Does action := by
  rcases gives with rfl | member
  · rw [Item.node] at does
    cases mode : item.mode with
    | multiValue =>
        rw [mode] at does
        cases does
    | simple =>
        rw [mode] at does
        cases does
        exact .inl rfl
  · obtain ⟨_, value, _, rfl⟩ := mem_children_iff.mp member
    cases does
    exact .inr ⟨value, rfl⟩

theorem Item.field_of_mem_writes (does : item.Does action) {record : Record}
    {write : AdditionalAction} (member : write ∈ action.writes batch record) :
    write.field ∈ item.writtenFields := by
  have other (member : write ∈ item.additionalActions) : write.field ∈ item.writtenFields :=
    List.mem_cons_of_mem _ (List.mem_map_of_mem member)
  rcases does with rfl | ⟨value, rfl⟩
  · rw [toggleAction, MenuAction.writes] at member
    split at member
    · rw [List.mem_singleton.mp member]
      exact List.mem_cons_self
    · rcases List.mem_cons.mp member with rfl | acts
      · exact List.mem_cons_self
      · exact other acts
  · rw [optionAction, MenuAction.writes] at member
    split at member
    · rw [Record.field_of_mem_withdrawals member]
      exact List.mem_cons_self
    · rcases List.mem_append.mp member with adds | acts
      · rw [Record.field_of_mem_additions adds]
        exact List.mem_cons_self
      · exact other acts

theorem Item.failures_of_writable (does : item.Does action) (writable : item.Writable)
    (unlocked : ∀ record ∈ batch, record.locked = false) :
    (action.report batch).failures = [] := by
  rw [MenuAction.report_failures_of_unlocked action unlocked, List.filterMap_eq_nil_iff]
  intro record _
  rw [Option.map_eq_none_iff, List.find?_eq_none]
  intro write member
  rw [writable write.field (field_of_mem_writes does member)]
  exact Bool.false_ne_true

theorem Item.exists_writes_toggle (item : Item) (batch : List Record) (record : Record) :
    ∃ first later, item.toggleAction.writes batch record = first :: later ∧
      first.field = item.fieldName := by
  rw [toggleAction, MenuAction.writes]
  split
  · exact ⟨_, _, rfl, rfl⟩
  · exact ⟨_, _, rfl, rfl⟩

theorem Item.toggle_of_blank (blank : isBlankText item.fieldName = true)
    (unlocked : ∀ record ∈ batch, record.locked = false) :
    (item.toggleAction.report batch).failures = batch.map (fun record =>
        { entity := record.entityId
          error := (EditError.invalidFieldName item.fieldName).message }) ∧
      batch.map (fun record => (item.toggleAction.edit batch record).record) = batch := by
  constructor
  · rw [MenuAction.report_failures_of_unlocked _ unlocked, ← List.filterMap_eq_map]
    refine List.filterMap_congr fun record _ => ?_
    obtain ⟨first, later, writes, named⟩ := item.exists_writes_toggle batch record
    rw [writes, List.find?_cons_of_pos (by rw [named, blank]), Option.map_some, named]
    rfl
  · refine (List.map_congr_left fun record member => ?_).trans (List.map_id batch)
    obtain ⟨first, later, writes, named⟩ := item.exists_writes_toggle batch record
    have refused : ∀ write ∈ (first :: later).head?, record.refusal? write.field ≠ none := by
      rintro _ ⟨⟩
      rw [named, Record.refusal?_of_isBlankText (unlocked record member) blank]
      exact Option.some_ne_none _
    rw [MenuAction.edit_record, writes, Record.accepted_of_refused refused]
    rfl

end

theorem applied_iff_saved {σ : Type} {host : Host (StateM σ)} {settings : Settings} {state : σ}
    {node : MenuNode} {targets : List Record} {action : MenuAction}
    (proceeds : Proceeds host settings state node targets action) :
    ((node.activate host settings targets).run state).1.outcome =
        .ok (.applied (action.report targets)) ↔
      ∀ batch cause, (batch, .error cause) ∉
        ((node.activate host.recording settings targets).run
          (state, [])).2.2.filterMap Call.saved? := by
  obtain ⟨_, before, answer, event, calls, none, outcome⟩ :=
    (activate_follows [] ⟨rfl, rfl⟩).saved action proceeds
  rw [← activate_recording host settings node state [], outcome, calls, List.filterMap_append, none]
  cases answer with
  | ok done => exact iff_of_true rfl fun batch cause => by simp [Call.saved?]
  | error cause =>
      refine iff_of_false nofun fun saved => ?_
      simp [Call.saved?] at saved

/-- What the entry of an item does to a selection. -/
structure Item.Served (item : Item) (action : MenuAction) (before after : List Record)
    (report : ActivationReport) : Prop where
  does : item.Does action
  /-- The document has seen to it that no name is empty. -/
  filled : ∀ field ∈ item.writtenFields, field ≠ ""
  accepted : item.Writable → report.failures = []
  /-- A record fails at the first write on a blank name. -/
  failures : report.failures = before.filterMap fun record =>
    ((action.writes before record).find? fun write => isBlankText write.field).map fun write =>
      { entity := record.entityId, error := (EditError.invalidFieldName write.field).message }
  /-- A toggle of a blank name fails on every record and changes none. -/
  unusable : action = item.toggleAction → isBlankText item.fieldName = true →
    after = before ∧ report.failures = before.map fun record =>
      { entity := record.entityId
        error := (EditError.invalidFieldName item.fieldName).message }

/-- Activating a toggle or an option from the menu of a document gives a report, and one without
failures where the item has no blank name.  The names of the document are not empty, but they may be
blank, and then the records refuse them. -/
theorem switch_served {σ : Type} (text : String) (logDropped : Bool) (host : Host (StateM σ))
    (state : σ) (selection library : List Record) (node : MenuNode) (action : MenuAction)
    (occurs : node.Occurs ((Document.build text logDropped).document.menu selection library))
    (switches : action.isSwitch = true)
    (proceeds : Proceeds host (Document.build text logDropped).document.toSettings state node
      selection action)
    (unlocked : ∀ record ∈ selection, record.locked = false)
    (saved : ∀ batch cause, (batch, .error cause) ∉
      ((node.activate host.recording (Document.build text logDropped).document.toSettings
        selection).run (state, [])).2.2.filterMap Call.saved?) :
    let document := (Document.build text logDropped).document
    let run := ((node.activate host document.toSettings selection).run state).1
    let report := action.report selection
    run.outcome = .ok (.applied report) ∧
      ∃ group item, document.Shows selection group item ∧
        item.Gives group document.toSettings selection library node ∧
        item.Served action selection run.targets report := by
  intro document run report
  obtain ⟨group, item, shows, gives⟩ :=
    Document.exists_item_of_switch occurs proceeds.does switches
  have does := Item.does_of_gives gives proceeds.does
  have sound := shows.sound (Document.sound_build text logDropped)
  refine ⟨(applied_iff_saved proceeds).mpr saved, group, item, shows, gives, does,
    sound.writtenFields, fun writable => Item.failures_of_writable does writable unlocked,
    action.report_failures_of_unlocked unlocked, ?_⟩
  rintro rfl blank
  obtain ⟨failures, same⟩ := Item.toggle_of_blank blank unlocked
  exact ⟨(targets_of_proceeds proceeds).trans same, failures⟩

def beatenText : String :=
  "\x7b\"ungroupedItems\": [\x7b\"fieldName\": \"Beaten\", \"menuLabel\": \"Beaten\", " ++
    "\"additionalActions\": [\x7b\"field\": \"Backlog\", \"action\": \"remove\"\x7d]\x7d]\x7d"

theorem switch_served_beaten :
    let document := (Document.build beatenText).document
    let doom : Record := { id := "1", title := "Doom" }
    let leave : AdditionalAction := { field := "Backlog", action := .remove, value := "true" }
    let beaten : Item :=
      { fieldName := "Beaten", menuLabel := "Beaten", additionalActions := [leave] }
    let node := beaten.node none document.toSettings [doom] []
    let run := ((node.activate .agreeable document.toSettings [doom]).run ()).1
    node.Occurs (document.menu [doom] []) ∧
      run.outcome = .ok (.applied (beaten.toggleAction.report [doom])) ∧
      (beaten.toggleAction.report [doom]).failures = [] := by
  have served := switch_served beatenText true .agreeable () [{ id := "1", title := "Doom" }] []
  have read : (Document.build beatenText).document =
      { ungroupedItems :=
          [{ fieldName := "Beaten", menuLabel := "Beaten"
             additionalActions :=
              [{ field := "Backlog", action := .remove, value := "true" }] }] } := by
    decide +kernel
  rw [read] at served ⊢
  intro document doom leave beaten node run
  have occurs : node.Occurs (document.menu [doom] []) := .here List.mem_cons_self
  have proceeds : Proceeds .agreeable document.toSettings () node [doom] beaten.toggleAction :=
    proceeds_agreeable _ rfl (List.cons_ne_nil _ _)
  obtain ⟨applied, _, _, _, _, served⟩ := served node beaten.toggleAction occurs rfl proceeds
    (by simp) ((applied_iff_saved proceeds).mp rfl)
  exact ⟨occurs, applied, served.failures.trans (by decide)⟩

def blankNameText : String :=
  "\x7b\"ungroupedItems\": [\x7b\"fieldName\": \" \", \"menuLabel\": \"Played\"\x7d]\x7d"

/-- The item shows, and a record that is not locked refuses it. -/
theorem blank_name_refused :
    let document := (Document.build blankNameText).document
    let doom : Record := { id := "1", title := "Doom" }
    let run := ((document.activatePath .agreeable ["Played"] [doom] []).run ()).1
    (document.menu [doom] []).map MenuNode.key = ["Played"] ∧
      run.targets = [doom] ∧
      ∃ report, run.outcome = .ok (.applied report) ∧
        report.failures = [{ entity := "Doom (1)", error := "Invalid field name ' '" }] := by
  have read : (Document.build blankNameText).document =
      { ungroupedItems := [{ fieldName := " ", menuLabel := "Played" }] } := by
    decide +kernel
  rw [read]
  exact ⟨rfl, by decide, _, rfl, by decide⟩

end FieldMenu
