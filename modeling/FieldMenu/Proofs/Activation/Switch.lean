import FieldMenu.Document.Build
import FieldMenu.Proofs.Activation.Flip
import FieldMenu.Proofs.Activation.Option

namespace FieldMenu

open Text

/-- An entry for a token that was missing somewhere has given it to all records, and shows so. -/
structure SwitchedOn (item : Item) (group : Option Group) (settings : Settings) (token : String)
    (before after : List Record) : Prop where
  held : ∀ record ∈ after, record.holdsToken item.fieldName token = true
  /-- The menu for the records as they are now still has the entry. -/
  offered : ∀ library, item.optionNode (item.effectiveIndicator group settings) after token ∈
    (item.node group settings after library).children
  caption : (item.optionNode (item.effectiveIndicator group settings) after token).caption =
    SelectionState.captionOfAll token none (item.effectiveIndicator group settings) after.length
  /-- No empty token has been written, and none with white space or a separator. -/
  written : List.Forall₂ (fun before after =>
    after.field? item.fieldName = before.field? item.fieldName ∨
      Token.Joined (after.field? item.fieldName)) before after

/-- All records have been given what none of them can hold. -/
structure Stuck (field token : String) (before after : Record) : Prop where
  lacking : after.holdsToken field token = false
  written : after.field? field =
    some (Token.join (Token.listOf (before.field? field) ++ [token]))

structure SwitchedOff (field token : String) (after : List Record) : Prop where
  gone : ∀ record ∈ after, record.holdsToken field token = false
  written : ∀ record ∈ after, record.field? field = none ∨ Token.Joined (record.field? field)

section

variable {item : Item} {group : Option Group} {settings menuSettings : Settings}
  {selection library batch : List Record} {node : MenuNode} {token : String} {asks : Bool}
  {actions : List AdditionalAction}

theorem Item.optionNode_mem_children (multi : item.mode = .multiValue)
    (sourced : item.valueSource = .config)
    (offered : node ∈ (item.node group menuSettings selection library).children)
    (does : node.action? = some (.option item.fieldName token asks actions))
    (others library' : List Record) :
    item.optionNode (item.effectiveIndicator group menuSettings) others token ∈
      (item.node group menuSettings others library').children := by
  rw [Item.node, multi] at offered ⊢
  obtain ⟨value, candidate, rfl⟩ := List.mem_map.mp offered
  cases does
  rw [Item.candidates, sourced] at candidate
  refine List.mem_map_of_mem ?_
  rw [Item.candidates, sourced]
  exact candidate

theorem Item.caption_optionNode_of_held {indicator : Indicator}
    (held : ∀ record ∈ selection, record.holdsToken item.fieldName token = true) :
    (item.optionNode indicator selection token).caption =
      SelectionState.captionOfAll token none indicator selection.length := by
  show SelectionState.caption (.count selection _) token none indicator = _
  rw [SelectionState.count_of_all held, SelectionState.caption_of_all]

theorem switchedOn_of_edit (multi : item.mode = .multiValue)
    (sourced : item.valueSource = .config) (fieldNamed : isBlankText item.fieldName = false)
    (offered : node ∈ (item.node group menuSettings selection library).children)
    (does : node.action? = some (.option item.fieldName token asks actions))
    (valid : Token.IsToken token) (unlocked : ∀ record ∈ batch, record.locked = false)
    (named : ∀ action ∈ actions, isBlankText action.field = false)
    (apart : ∀ action ∈ actions, action.isOn item.fieldName = false)
    (partly : (batch.all fun record => record.holdsToken item.fieldName token) = false) :
    SwitchedOn item group menuSettings token batch (batch.map fun record =>
      ((MenuAction.option item.fieldName token asks actions).edit batch record).record) := by
  have after {record : Record} (member : record ∈ batch) :=
    field?_of_given asks (unlocked record member) fieldNamed named apart partly
  have held : ∀ record ∈ batch.map fun record =>
      ((MenuAction.option item.fieldName token asks actions).edit batch record).record,
      record.holdsToken item.fieldName token = true := by
    intro changed member
    obtain ⟨record, inBatch, rfl⟩ := List.mem_map.mp member
    rw [Record.holdsToken, after inBatch]
    split
    · assumption
    · exact Token.contains_added valid
  refine ⟨held, item.optionNode_mem_children multi sourced offered does _,
    item.caption_optionNode_of_held held, ?_⟩
  rw [List.forall₂_map_right_iff, List.forall₂_same]
  intro record member
  rw [after member]
  split
  · exact .inl rfl
  · exact .inr (Token.joined_added valid)

theorem switchedOff_of_edit {field : String} (fieldNamed : isBlankText field = false)
    (unlocked : ∀ record ∈ batch, record.locked = false)
    (held : ∀ record ∈ batch, record.holdsToken field token = true) :
    SwitchedOff field token (batch.map fun record =>
      ((MenuAction.option field token asks actions).edit batch record).record) := by
  have after {record : Record} (member : record ∈ batch) :=
    field?_of_taken asks actions (unlocked record member) fieldNamed
      (held record member) (List.all_eq_true.mpr held)
  constructor
  · intro changed member
    obtain ⟨record, inBatch, rfl⟩ := List.mem_map.mp member
    rw [Record.holdsToken, after inBatch]
    split
    · rfl
    · exact Token.contains_kept _ _
  · intro changed member
    obtain ⟨record, inBatch, rfl⟩ := List.mem_map.mp member
    rw [after inBatch]
    split
    · exact .inl rfl
    · exact .inr (Token.joined_kept ‹_›)

theorem Record.not_holdsToken_of_stray {field : String} (stray : ¬ Token.IsToken token)
    (record : Record) : record.holdsToken field token = false :=
  Bool.eq_false_iff.mpr fun holds => stray (Token.isToken_of_contains holds)

theorem stuck_of_edit {field : String} {record : Record} (fieldNamed : isBlankText field = false)
    (unlocked : record.locked = false)
    (named : ∀ action ∈ actions, isBlankText action.field = false)
    (apart : ∀ action ∈ actions, action.isOn field = false) (stray : ¬ Token.IsToken token)
    (partly : (batch.all fun record => record.holdsToken field token) = false) :
    Stuck field token record
      ((MenuAction.option field token asks actions).edit batch record).record := by
  refine ⟨Record.not_holdsToken_of_stray stray _, ?_⟩
  rw [field?_of_given asks unlocked fieldNamed named apart partly,
    Record.not_holdsToken_of_stray stray, if_neg Bool.false_ne_true]

end

/-- A value that the document lists is switched on where a record lacks it, and off by the next
activation; all this where it is a token, and where it is none it is stuck. -/
theorem listed_option_switches {σ : Type} (host : Host (StateM σ)) (settings : Settings)
    (state : σ) (item : Item) (group : Option Group) (menuSettings : Settings)
    (selection library targets on : List Record) (node : MenuNode) (token : String)
    (multi : item.mode = .multiValue) (sourced : item.valueSource = .config)
    (fieldNamed : isBlankText item.fieldName = false)
    (offered : node ∈ (item.node group menuSettings selection library).children)
    (proceeds : Proceeds host settings state node targets
      (.option item.fieldName token item.requireConfirmation item.additionalActions))
    (activated : ((node.activate host settings targets).run state).1.targets = on)
    (unlocked : ∀ record ∈ targets, record.locked = false)
    (named : ∀ action ∈ item.additionalActions, isBlankText action.field = false)
    (apart : ∀ action ∈ item.additionalActions, action.isOn item.fieldName = false)
    (lacking : ∃ record ∈ targets, record.holdsToken item.fieldName token = false) :
    (Token.IsToken token →
      SwitchedOn item group menuSettings token targets on ∧
        ∀ (host' : Host (StateM σ)) (settings' : Settings) (state' : σ),
          Proceeds host' settings' state' node on
            (.option item.fieldName token item.requireConfirmation item.additionalActions) →
          SwitchedOff item.fieldName token
            ((node.activate host' settings' on).run state').1.targets) ∧
      (¬ Token.IsToken token → List.Forall₂ (Stuck item.fieldName token) targets on) := by
  rw [targets_of_proceeds proceeds] at activated
  subst activated
  have partly : (targets.all fun record => record.holdsToken item.fieldName token) = false := by
    obtain ⟨record, member, lacks⟩ := lacking
    exact List.all_eq_false.mpr ⟨record, member, Bool.eq_false_iff.mp lacks⟩
  constructor
  · intro valid
    have switched := switchedOn_of_edit multi sourced fieldNamed offered proceeds.does valid
      unlocked named apart partly
    refine ⟨switched, fun host' settings' state' again => ?_⟩
    rw [targets_of_proceeds again]
    refine switchedOff_of_edit fieldNamed (fun record member => ?_) switched.held
    -- No write locks a record, so this activation finds them as unlocked as the first one did.
    obtain ⟨before, inTargets, rfl⟩ := List.mem_map.mp member
    rw [MenuAction.edit_record]
    exact unlocked before inTargets
  · intro stray
    rw [List.forall₂_map_right_iff, List.forall₂_same]
    exact fun record member => stuck_of_edit fieldNamed (unlocked record member) named apart stray
      partly

/-- A record that lacks the value and one that holds it in another spelling: both hold it, then
neither does, and what the second one holds besides is kept. -/
theorem listed_option_switches_spelling :
    let doom : Record := { id := "1", title := "Doom" }
    let quake : Record :=
      { id := "2", title := "Quake", customFields := [{ name := "mode", value := "Co-op;lan" }] }
    let item : Item :=
      { fieldName := "Mode", menuLabel := "Mode", mode := .multiValue, values := ["Solo", "LAN"]
        valueSortOrder := some .unsorted }
    let node := item.optionNode .symbol [doom, quake] "LAN"
    let on := [{ doom with customFields := [{ name := "Mode", value := "LAN" }] }, quake]
    let off := [doom, { quake with customFields := [{ name := "mode", value := "Co-op" }] }]
    ((node.activate .agreeable {} [doom, quake]).run ()).1.targets = on ∧
      (item.optionNode .symbol on "LAN").caption = "✓ LAN" ∧
      ((node.activate .agreeable {} on).run ()).1.targets = off ∧
      ∀ record ∈ off, record.holdsToken "Mode" "LAN" = false := by
  intro doom quake item node on off
  have offered : node ∈ (item.node none {} [doom, quake] []).children :=
    List.mem_map_of_mem (by decide)
  have activated : ((node.activate .agreeable {} [doom, quake]).run ()).1.targets = on := by
    decide
  have again : ((node.activate .agreeable {} on).run ()).1.targets = off := by decide
  have valid : Token.IsToken "LAN" := ⟨by decide, by decide, by decide⟩
  obtain ⟨switched, switches⟩ := listed_option_switches .agreeable {} () item none {}
    [doom, quake] [] [doom, quake] on node "LAN" rfl rfl (by decide) offered
    (proceeds_agreeable {} rfl (List.cons_ne_nil _ _)) activated (by simp [doom, quake])
    (by simp [item]) (by simp [item]) ⟨doom, List.mem_cons_self, by decide⟩ |>.1 valid
  have gone := (switches .agreeable {} () (proceeds_agreeable {} rfl (List.cons_ne_nil _ _))).gone
  rw [again] at gone
  exact ⟨activated, switched.caption.trans (by decide), again, gone⟩

def strayValuesText : String :=
  "\x7b\"valueSortOrder\": \"none\", \"ungroupedItems\": [\x7b\"fieldName\": \"Mode\", " ++
    "\"menuLabel\": \"Mode\", \"mode\": \"multiValue\", \"values\": [\" LAN\", \"\"]\x7d]\x7d"

/-- The padded value is written, is not held then, and is written once more by the next activation;
the empty one leaves an empty field. -/
theorem stray_values_stuck :
    let document := (Document.build strayValuesText).document
    let activate (value : String) (targets : List Record) :=
      ((document.activatePath .agreeable ["Mode", value] targets []).run ()).1.targets
    let doom : Record := { id := "1", title := "Doom" }
    (activate " LAN" [doom]).map (fun record => record.holdsToken "Mode" " LAN") = [false] ∧
      (activate " LAN" (activate " LAN" [doom])).map Record.customFields =
        [[{ name := "Mode", value := "LAN;  LAN" }]] ∧
      (activate "" [doom]).map Record.customFields = [[{ name := "Mode", value := "" }]] := by
  have read : (Document.build strayValuesText).document =
      { valueSortOrder := .unsorted
        ungroupedItems :=
          [{ fieldName := "Mode", menuLabel := "Mode", mode := .multiValue
             values := [" LAN", ""] }] } := by
    decide +kernel
  rw [read]
  decide

end FieldMenu
