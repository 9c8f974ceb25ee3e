import FieldMenu.Proofs.Activation.Toggle
import FieldMenu.Proofs.Menu.Entry

namespace FieldMenu

open Text

namespace SelectionState

variable {α : Type} {selection : List α} {holds : α → Bool}

theorem isAll_count_iff :
    (count selection holds).isAll = true ↔ ∀ entity ∈ selection, holds entity = true := by
  rw [isAll, beq_iff_eq]
  exact List.countP_eq_length

theorem count_of_all (all : ∀ entity ∈ selection, holds entity = true) :
    count selection holds = { matching := selection.length, total := selection.length } := by
  rw [count, List.countP_eq_length.mpr all]

theorem count_of_none (none : ∀ entity ∈ selection, holds entity = false) :
    count selection holds = { matching := 0, total := selection.length } := by
  rw [count, List.countP_eq_zero.mpr fun entity member => by simp [none entity member]]

def captionOfAll (label : String) (toggledLabel : Option String) (indicator : Indicator)
    (total : Nat) : String :=
  match toggledLabel with
  | some toggled => toggled
  | none =>
      if indicator = .count ∧ 1 < total then
        label ++ " (" ++ toString total ++ " of " ++ toString total ++ ")"
      else "✓ " ++ label

def captionOfNone (label : String) (indicator : Indicator) (total : Nat) : String :=
  if indicator = .count ∧ 1 < total then label ++ " (0 of " ++ toString total ++ ")" else label

theorem caption_of_all (label : String) (toggledLabel : Option String) (indicator : Indicator)
    (total : Nat) :
    caption { matching := total, total } label toggledLabel indicator =
      captionOfAll label toggledLabel indicator total := by
  have all : isAll { matching := total, total } = true := beq_self_eq_true total
  cases toggledLabel with
  | some toggled => simp only [caption, captionOfAll, all]
  | none => simp only [caption, captionOfAll, all, if_true]

theorem caption_of_none (label : String) (toggledLabel : Option String) (indicator : Indicator)
    {total : Nat} (populated : 0 < total) :
    caption { matching := 0, total } label toggledLabel indicator =
      captionOfNone label indicator total := by
  have notAll : isAll { matching := 0, total } = false :=
    beq_eq_false_iff_ne.mpr (Nat.ne_of_lt populated)
  have zero : label ++ " (" ++ Nat.repr 0 ++ " of " = label ++ " (0 of " := by
    rw [String.append_assoc, String.append_assoc]
    rfl
  cases toggledLabel <;>
    simp [caption, captionOfNone, notAll, isPartial, zero]

end SelectionState

/-- What an item's toggle does to a selection, and what it shows then. -/
structure Flipped (item : Item) (group : Option Group) (settings : Settings)
    (before after : List Record) : Prop where
  /-- The field goes from all records just where all of them matched. -/
  removed : (item.toggleState before).isAll = true ↔
    ∀ record ∈ after, record.field? item.fieldName = none
  /-- In any other case all of them have it. -/
  set : (item.toggleState before).isAll = false →
    ∀ record ∈ after, record.field? item.fieldName = some item.enableValue
  state : item.toggleState after =
    { matching := if (item.toggleState before).isAll then 0 else before.length
      total := before.length }
  caption : ∀ library, (item.node group settings after library).caption =
    if (item.toggleState before).isAll then
      SelectionState.captionOfNone item.menuLabel (item.effectiveIndicator group settings)
        before.length
    else
      SelectionState.captionOfAll item.menuLabel item.toggledMenuLabel
        (item.effectiveIndicator group settings) before.length

namespace Item

variable {item : Item} {group : Option Group} {settings : Settings} {before after : List Record}

theorem caption_node (simple : item.mode = .simple) (selection library : List Record) :
    (item.node group settings selection library).caption =
      (item.toggleState selection).caption item.menuLabel item.toggledMenuLabel
        (item.effectiveIndicator group settings) := by
  rw [Item.node, simple]

theorem flipped_of_removed (simple : item.mode = .simple) (nonempty : before ≠ [])
    (length : after.length = before.length) (all : (item.toggleState before).isAll = true)
    (gone : ∀ record ∈ after, record.field? item.fieldName = none) :
    Flipped item group settings before after := by
  have state : item.toggleState after = { matching := 0, total := before.length } := by
    rw [← length]
    exact SelectionState.count_of_none fun record member =>
      Record.not_holdsValue_of_field? (gone record member) item.enableValue
  refine ⟨⟨fun _ => gone, fun _ => all⟩, fun partly => ?_, ?_, fun library => ?_⟩
  · rw [all] at partly
    cases partly
  · rw [state, if_pos all]
  · rw [caption_node simple, state, if_pos all]
    exact SelectionState.caption_of_none _ _ _ (List.length_pos_iff.mpr nonempty)

theorem flipped_of_set (simple : item.mode = .simple) (nonempty : before ≠ [])
    (length : after.length = before.length) (partly : (item.toggleState before).isAll = false)
    (held : ∀ record ∈ after, record.field? item.fieldName = some item.enableValue) :
    Flipped item group settings before after := by
  have state : item.toggleState after =
      { matching := before.length, total := before.length } := by
    rw [← length]
    exact SelectionState.count_of_all fun record member =>
      Record.holdsValue_of_field? (held record member)
  have notAll : ¬ (item.toggleState before).isAll = true := Bool.eq_false_iff.mp partly
  refine ⟨⟨fun all => absurd all notAll, fun gone => ?_⟩, fun _ => held, ?_, fun library => ?_⟩
  · -- There is a record, and it cannot both have the field and not have it.
    obtain ⟨record, member⟩ := List.exists_mem_of_length_pos
      (length ▸ List.length_pos_iff.mpr nonempty)
    cases (gone record member).symm.trans (held record member)
  · rw [state, if_neg notAll]
  · rw [caption_node simple, state, if_neg notAll]
    exact SelectionState.caption_of_all _ _ _ _

end Item

section

variable {field value : String} {asks : Bool} {actions : List AdditionalAction}
  {batch : List Record} {record : Record}

theorem field?_of_removed (unlocked : record.locked = false)
    (fieldNamed : isBlankText field = false)
    (named : ∀ action ∈ actions, isBlankText action.field = false)
    (all : ∀ record ∈ batch, record.holdsValue field value = true) :
    ((MenuAction.toggle field value .toggle asks actions).edit batch record).record.field? field =
      none := by
  have toggled := toggled_edit .toggle field value asks actions batch record
  have removes : Operation.toggle.Removes field value batch :=
    .inr ⟨rfl, fun record member => Record.holdsValue_iff.mp (all record member)⟩
  rw [Record.field?, toggled.removed unlocked fieldNamed named removes]
  exact FieldStore.get?_remove_self record.customFields field

theorem field?_of_set (unlocked : record.locked = false) (fieldNamed : isBlankText field = false)
    (named : ∀ action ∈ actions, isBlankText action.field = false)
    (apart : ∀ action ∈ actions, action.isOn field = false)
    (partly : ¬ ∀ record ∈ batch, record.holdsValue field value = true) :
    ((MenuAction.toggle field value .toggle asks actions).edit batch record).record.field? field =
      some value := by
  have toggled := toggled_edit .toggle field value asks actions batch record
  have never : ¬ Operation.toggle.Removes field value batch := by
    rintro (wrong | ⟨_, all⟩)
    · cases wrong
    · exact partly fun record member => Record.holdsValue_iff.mpr (all record member)
  rw [toggled.set unlocked fieldNamed named never, AdditionalAction.decided_cons,
    AdditionalAction.decided_of_other apart]
  exact if_pos (sameIgnoringCase_self field)

end

theorem Item.flipped_of_proceeds {σ : Type} {host : Host (StateM σ)} {settings : Settings}
    {state : σ} {item : Item} {group : Option Group} {menuSettings : Settings}
    {selection library : List Record} {field value : String} {asks : Bool}
    {actions : List AdditionalAction}
    (proceeds : Proceeds host settings state (item.node group menuSettings selection library)
      selection (.toggle field value .toggle asks actions))
    (unlocked : ∀ record ∈ selection, record.locked = false)
    (fieldNamed : isBlankText field = false)
    (named : ∀ action ∈ actions, isBlankText action.field = false)
    (apart : ∀ action ∈ actions, action.isOn field = false) :
    Flipped item group menuSettings selection
      (((item.node group menuSettings selection library).activate host settings
        selection).run state).1.targets := by
  obtain ⟨simple, rfl, rfl, -, rfl, rfl⟩ := item.of_toggle proceeds.does
  rw [targets_of_proceeds proceeds]
  have length : (selection.map fun record => ((MenuAction.toggle item.fieldName item.enableValue
      .toggle item.requireConfirmation item.additionalActions).edit selection
      record).record).length = selection.length :=
    List.length_map _
  cases all : (item.toggleState selection).isAll with
  | true =>
      refine Item.flipped_of_removed simple proceeds.nonempty length all ?_
      intro after member
      obtain ⟨record, inSelection, rfl⟩ := List.mem_map.mp member
      exact field?_of_removed (unlocked record inSelection) fieldNamed named
        (SelectionState.isAll_count_iff.mp all)
  | false =>
      refine Item.flipped_of_set simple proceeds.nonempty length all ?_
      intro after member
      obtain ⟨record, inSelection, rfl⟩ := List.mem_map.mp member
      refine field?_of_set (unlocked record inSelection) fieldNamed named apart fun every => ?_
      exact Bool.eq_false_iff.mp all (SelectionState.isAll_count_iff.mpr every)

/-- A toggle of a menu stands for an item that shows, does what its caption shows, and flips. -/
theorem toggle_flips {σ : Type} (host : Host (StateM σ)) (settings : Settings) (state : σ)
    (document : Document) (selection library : List Record) (node : MenuNode)
    (field value : String) (asks : Bool) (actions : List AdditionalAction)
    (occurs : node.Occurs (document.menu selection library))
    (proceeds : Proceeds host settings state node selection
      (.toggle field value .toggle asks actions))
    (unlocked : ∀ record ∈ selection, record.locked = false)
    (fieldNamed : isBlankText field = false)
    (named : ∀ action ∈ actions, isBlankText action.field = false)
    (apart : ∀ action ∈ actions, action.isOn field = false) :
    (∃ group item, document.Shows selection group item ∧
      node = item.node group document.toSettings selection library) ∧
    ∀ (group : Option Group) (item : Item),
      node = item.node group document.toSettings selection library →
      node.caption = (item.toggleState selection).caption item.menuLabel item.toggledMenuLabel
          (item.effectiveIndicator group document.toSettings) ∧
        Flipped item group document.toSettings selection
          ((node.activate host settings selection).run state).1.targets := by
  constructor
  · obtain ⟨group, item, shows, same⟩ := Document.exists_item_of_toggle occurs proceeds.does
    exact ⟨group, item, shows, same⟩
  · rintro group item rfl
    have simple := (item.of_toggle proceeds.does).1
    exact ⟨Item.caption_node simple selection library,
      Item.flipped_of_proceeds proceeds unlocked fieldNamed named apart⟩

/-- A count in the caption and an action on another field: the record that lacked the value gets it,
and the label for the toggled state shows. -/
theorem toggle_flips_counted :
    let doom : Record :=
      { id := "1", title := "Doom", customFields := [{ name := "backlog", value := "TRUE" }] }
    let myst : Record :=
      { id := "2", title := "Myst", customFields := [{ name := "Backlog", value := "later" }] }
    let item : Item :=
      { fieldName := "Backlog", menuLabel := "Backlog", toggledMenuLabel := some "In the backlog"
        selectionIndicator := some .count
        additionalActions := [{ field := "Status", action := .set, value := "Planned" }] }
    let group : Group := { name := "Tags", items := [item] }
    let document : Document := { groups := [group] }
    let node := item.node (some group) document.toSettings [doom, myst] []
    let after := ((node.activate .agreeable document.toSettings [doom, myst]).run ()).1.targets
    node.Occurs (document.menu [doom, myst] []) ∧ node.caption = "Backlog (1 of 2)" ∧
      (item.node (some group) document.toSettings after []).caption = "In the backlog" := by
  intro doom myst item group document node after
  have occurs : node.Occurs (document.menu [doom, myst] []) :=
    Document.occurs_menu_iff.mpr (.inr (.inl ⟨some group, item,
      .grouped List.mem_cons_self rfl List.mem_cons_self rfl, .inl rfl⟩))
  have flips := toggle_flips .agreeable document.toSettings () document [doom, myst] [] node
    "Backlog" "true" false [{ field := "Status", action := .set, value := "Planned" }] occurs
    (proceeds_agreeable _ rfl (List.cons_ne_nil _ _)) (by simp [doom, myst]) (by decide)
    (by decide) (by decide)
  obtain ⟨shown, flipped⟩ := flips.2 (some group) item rfl
  refine ⟨occurs, shown.trans (by decide), ?_⟩
  rw [flipped.caption]
  decide

end FieldMenu
