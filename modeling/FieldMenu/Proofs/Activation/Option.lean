import FieldMenu.Menu.Tree
import FieldMenu.Proofs.Activation.Plan
import FieldMenu.Proofs.Value.Tally

namespace FieldMenu

open Text

section

variable {field token : String} {actions : List AdditionalAction} {batch : List Record}
  {record : Record}

namespace Record

theorem additions_of_held (held : record.holdsToken field token = true) :
    record.additions field token = [] := by
  rw [additions, Token.add?_of_contained held]

theorem additions_of_lacking (lacking : record.holdsToken field token = false) :
    record.additions field token =
      [.setting field (Token.join (Token.listOf (record.field? field) ++ [token]))] := by
  rw [additions, Token.add?_of_missing lacking]

theorem withdrawals_of_last (held : record.holdsToken field token = true)
    (last : Token.kept (record.field? field) token = []) :
    record.withdrawals field token = [.removing field] := by
  rw [withdrawals, Token.remove_of_last held last]

theorem withdrawals_of_more (held : record.holdsToken field token = true)
    (more : Token.kept (record.field? field) token ≠ []) :
    record.withdrawals field token =
      [.setting field (Token.join (Token.kept (record.field? field) token))] := by
  rw [withdrawals, Token.remove_of_more held more]

theorem field_of_mem_additions {write : AdditionalAction}
    (member : write ∈ record.additions field token) : write.field = field := by
  rw [additions] at member
  cases adds : Token.add? (record.field? field) token with
  | none =>
      rw [adds] at member
      cases member
  | some value =>
      rw [adds] at member
      rw [List.mem_singleton.mp member]
      rfl

theorem field_of_mem_withdrawals {write : AdditionalAction}
    (member : write ∈ record.withdrawals field token) : write.field = field := by
  rw [withdrawals] at member
  cases removes : Token.remove (record.field? field) token with
  | unchanged =>
      rw [removes] at member
      cases member
  | replace value | removeField =>
      rw [removes] at member
      rw [List.mem_singleton.mp member]
      rfl

end Record

namespace MenuAction

theorem writes_of_given (asks : Bool)
    (partly : (batch.all fun record => record.holdsToken field token) = false) :
    (MenuAction.option field token asks actions).writes batch record =
      record.additions field token ++ actions := by
  rw [writes, partly, if_neg Bool.false_ne_true]

theorem writes_of_taken (asks : Bool) (actions : List AdditionalAction)
    (all : (batch.all fun record => record.holdsToken field token) = true) :
    (MenuAction.option field token asks actions).writes batch record =
      record.withdrawals field token := by
  rw [writes, all, if_pos rfl]

theorem record_of_given (asks : Bool) (unlocked : record.locked = false)
    (fieldNamed : isBlankText field = false)
    (named : ∀ action ∈ actions, isBlankText action.field = false)
    (partly : (batch.all fun record => record.holdsToken field token) = false) :
    ((MenuAction.option field token asks actions).edit batch record).record =
      (record.written (record.additions field token)).written actions := by
  rw [edit_record_of_unlocked (writes_of_given asks partly) unlocked, Record.written_written]
  intro write member
  rcases List.mem_append.mp member with adds | acts
  · rwa [Record.field_of_mem_additions adds]
  · exact named write acts

theorem record_of_taken (asks : Bool) (actions : List AdditionalAction)
    (unlocked : record.locked = false) (fieldNamed : isBlankText field = false)
    (all : (batch.all fun record => record.holdsToken field token) = true) :
    ((MenuAction.option field token asks actions).edit batch record).record =
      record.written (record.withdrawals field token) := by
  refine edit_record_of_unlocked (writes_of_taken asks actions all) unlocked ?_
  intro write member
  rwa [Record.field_of_mem_withdrawals member]

end MenuAction

theorem field?_of_given (asks : Bool) (unlocked : record.locked = false)
    (fieldNamed : isBlankText field = false)
    (named : ∀ action ∈ actions, isBlankText action.field = false)
    (apart : ∀ action ∈ actions, action.isOn field = false)
    (partly : (batch.all fun record => record.holdsToken field token) = false) :
    ((MenuAction.option field token asks actions).edit batch record).record.field? field =
      if record.holdsToken field token then record.field? field
      else some (Token.join (Token.listOf (record.field? field) ++ [token])) := by
  rw [MenuAction.record_of_given asks unlocked fieldNamed named partly, Record.field?_written,
    AdditionalAction.decided_of_other apart]
  cases holds : record.holdsToken field token with
  | true =>
      rw [Record.additions_of_held holds]
      rfl
  | false =>
      rw [Record.additions_of_lacking holds]
      exact FieldStore.get?_set_self _ _ _

theorem field?_of_taken (asks : Bool) (actions : List AdditionalAction)
    (unlocked : record.locked = false) (fieldNamed : isBlankText field = false)
    (holds : record.holdsToken field token = true)
    (all : (batch.all fun record => record.holdsToken field token) = true) :
    ((MenuAction.option field token asks actions).edit batch record).record.field? field =
      if Token.kept (record.field? field) token = [] then none
      else some (Token.join (Token.kept (record.field? field) token)) := by
  rw [MenuAction.record_of_taken asks actions unlocked fieldNamed all]
  by_cases last : Token.kept (record.field? field) token = []
  · rw [Record.withdrawals_of_last holds last, if_pos last]
    exact FieldStore.get?_remove_self _ _
  · rw [Record.withdrawals_of_more holds last, if_neg last]
    exact FieldStore.get?_set_self _ _ _

end

def CustomField.isApart (held : CustomField) (field : String) (actions : List AdditionalAction) :
    Bool :=
  !held.isNamed field && actions.all fun action => !held.isNamed action.field

structure Chosen (field token : String) (actions : List AdditionalAction) (batch : List Record)
    (before after : Record) : Prop where
  /-- The token goes in all its spellings, the field with the last one, and no action is done. -/
  taken : (∀ record ∈ batch, record.holdsToken field token = true) →
    Token.listOf (after.field? field) =
        (Token.listOf (before.field? field)).filter (fun known => !sameIgnoringCase known token) ∧
      (Token.listOf (after.field? field) = [] → after.field? field = none) ∧
      after.customFields.filter (fun held => !held.isNamed field) =
        before.customFields.filter fun held => !held.isNamed field
  /-- The token is there afterwards, and the actions are done. -/
  given : ¬ (∀ record ∈ batch, record.holdsToken field token = true) →
    Token.listOf (after.field? field) =
        (if before.holdsToken field token then Token.listOf (before.field? field)
          else Token.listOf (before.field? field) ++ [token]) ∧
      ∀ name, lowered name ≠ lowered field →
        after.field? name = AdditionalAction.decided actions name (before.field? name)
  others : after.customFields.filter (fun held => held.isApart field actions) =
    before.customFields.filter fun held => held.isApart field actions

section

variable {field token : String} {actions : List AdditionalAction} {batch : List Record}
  {record : Record}

theorem CustomField.isApart_eq_false_of_isNamed {held : CustomField}
    (named : held.isNamed field = true) : held.isApart field actions = false := by
  simp [isApart, named]

theorem CustomField.isApart_eq_false_of_action {held : CustomField} {action : AdditionalAction}
    (member : action ∈ actions) (named : held.isNamed action.field = true) :
    held.isApart field actions = false := by
  simp only [isApart, Bool.and_eq_false_imp, List.all_eq_false]
  exact fun _ => ⟨action, member, by simp [named]⟩

theorem chosen_of_taken (asks : Bool) (unlocked : record.locked = false)
    (fieldNamed : isBlankText field = false) (member : record ∈ batch)
    (all : ∀ record ∈ batch, record.holdsToken field token = true) :
    Chosen field token actions batch record
      ((MenuAction.option field token asks actions).edit batch record).record := by
  have every : (batch.all fun record => record.holdsToken field token) = true :=
    List.all_eq_true.mpr all
  have value := field?_of_taken asks actions unlocked fieldNamed (all record member) every
  have others {keep : CustomField → Bool}
      (apart : ∀ held : CustomField, held.isNamed field = true → keep held = false) :
      ((MenuAction.option field token asks actions).edit batch
        record).record.customFields.filter keep = record.customFields.filter keep := by
    refine MenuAction.filter_edit fun write inWrites held named => apart held ?_
    rw [MenuAction.writes_of_taken asks actions every] at inWrites
    rwa [Record.field_of_mem_withdrawals inWrites] at named
  have tokens : Token.listOf (((MenuAction.option field token asks actions).edit batch
      record).record.field? field) = Token.kept (record.field? field) token := by
    rw [value]
    split
    · rename_i last
      exact last.symm
    · exact Token.listOf_kept _ _
  refine ⟨fun _ => ⟨tokens, fun empty => ?_, ?_⟩, fun never => absurd all never, ?_⟩
  · rw [value, if_pos (tokens.symm.trans empty)]
  · exact others fun held named => by simp [named]
  · exact others fun held named => CustomField.isApart_eq_false_of_isNamed named

theorem chosen_of_given (asks : Bool) (unlocked : record.locked = false)
    (fieldNamed : isBlankText field = false) (valid : Token.IsToken token)
    (named : ∀ action ∈ actions, isBlankText action.field = false)
    (apart : ∀ action ∈ actions, action.isOn field = false)
    (some : ¬ ∀ record ∈ batch, record.holdsToken field token = true) :
    Chosen field token actions batch record
      ((MenuAction.option field token asks actions).edit batch record).record := by
  have partly : (batch.all fun record => record.holdsToken field token) = false := by
    rwa [← Bool.not_eq_true, List.all_eq_true]
  refine ⟨fun all => absurd all some, fun _ => ⟨?_, fun name other => ?_⟩, ?_⟩
  · rw [field?_of_given asks unlocked fieldNamed named apart partly]
    split
    · rfl
    · exact Token.listOf_added valid
  · have elsewhere : ∀ write ∈ record.additions field token, write.isOn name = false := by
      intro write member
      rw [AdditionalAction.isOn, Record.field_of_mem_additions member]
      exact sameIgnoringCase_eq_false_iff.mpr (Ne.symm other)
    rw [MenuAction.record_of_given asks unlocked fieldNamed named partly, Record.field?_written,
      Record.field?_written, AdditionalAction.decided_of_other elsewhere]
  · refine MenuAction.filter_edit fun write inWrites held isNamed => ?_
    rw [MenuAction.writes_of_given asks partly] at inWrites
    rcases List.mem_append.mp inWrites with adds | acts
    · rw [Record.field_of_mem_additions adds] at isNamed
      exact CustomField.isApart_eq_false_of_isNamed isNamed
    · exact CustomField.isApart_eq_false_of_action acts isNamed

end

theorem exists_of_mem_children {item : Item} {group : Option Group} {settings : Settings}
    {selection library : List Record} {node : MenuNode} (multi : item.mode = .multiValue)
    (sourced : item.valueSource = .field)
    (offered : node ∈ (item.node group settings selection library).children) :
    ∃ token, Token.IsToken token ∧
      node.action? = some (.option item.fieldName token item.requireConfirmation
        item.additionalActions) := by
  rw [Item.node, multi] at offered
  obtain ⟨token, candidate, rfl⟩ := List.mem_map.mp offered
  exact ⟨token, Item.isToken_of_mem_candidates sourced candidate, rfl⟩

/-- Activating an entry for a token that the library holds moves every record of an unlocked batch
the same way. -/
theorem option_batch {σ : Type} (host : Host (StateM σ)) (settings : Settings) (state : σ)
    (item : Item) (group : Option Group) (menuSettings : Settings)
    (selection library targets : List Record) (node : MenuNode) (token : String)
    (multi : item.mode = .multiValue) (sourced : item.valueSource = .field)
    (fieldNamed : isBlankText item.fieldName = false)
    (offered : node ∈ (item.node group menuSettings selection library).children)
    (proceeds : Proceeds host settings state node targets
      (.option item.fieldName token item.requireConfirmation item.additionalActions))
    (unlocked : ∀ record ∈ targets, record.locked = false)
    (named : ∀ action ∈ item.additionalActions, isBlankText action.field = false)
    (apart : ∀ action ∈ item.additionalActions, action.isOn item.fieldName = false) :
    List.Forall₂ (Chosen item.fieldName token item.additionalActions targets) targets
      ((node.activate host settings targets).run state).1.targets := by
  -- The entry stands for a token of the library, which can be joined and cut out again.
  obtain ⟨other, valid, does⟩ := exists_of_mem_children multi sourced offered
  cases proceeds.does.symm.trans does
  rw [targets_of_proceeds proceeds, List.forall₂_map_right_iff, List.forall₂_same]
  intro record member
  by_cases all : ∀ record ∈ targets, record.holdsToken item.fieldName token = true
  · exact chosen_of_taken _ (unlocked record member) fieldNamed member all
  · exact chosen_of_given _ (unlocked record member) fieldNamed valid named apart all

/-- The only record of a batch loses the token that it holds in another spelling. -/
theorem option_batch_spelling :
    let quake : Record :=
      { id := "1", title := "Quake"
        customFields := [{ name := "tags", value := ";classic ; CO-OP" }] }
    let item : Item :=
      { fieldName := "Tags", menuLabel := "Tags", mode := .multiValue, valueSource := .field
        valueSortOrder := some .unsorted }
    let doom : Record :=
      { id := "2", title := "Doom", customFields := [{ name := "Tags", value := "Co-op" }] }
    let node := item.optionNode .symbol [quake] "Co-op"
    node ∈ (item.node none {} [quake] [doom]).children ∧
      ∃ after, ((node.activate .agreeable {} [quake]).run ()).1.targets = [after] ∧
        Token.listOf (after.field? "Tags") = ["classic"] := by
  intro quake item doom node
  have offered : node ∈ (item.node none {} [quake] [doom]).children :=
    List.mem_map_of_mem (by decide)
  have chosen := option_batch .agreeable {} () item none {} [quake] [doom] [quake] node "Co-op"
    rfl rfl (by decide) offered (proceeds_agreeable {} rfl (by simp)) (by simp [quake])
    (by simp [item]) (by simp [item])
  obtain ⟨after, rest, first, others, equal⟩ := List.forall₂_cons_left_iff.mp chosen
  rw [List.forall₂_nil_left_iff.mp others] at equal
  refine ⟨offered, after, equal, ?_⟩
  rw [(first.taken (by decide)).1]
  decide

end FieldMenu
