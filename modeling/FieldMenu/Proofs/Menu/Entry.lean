import FieldMenu.Menu.Tree

namespace FieldMenu

inductive MenuNode.Occurs (node : MenuNode) : List MenuNode → Prop
  | here {nodes : List MenuNode} (member : node ∈ nodes) : Occurs node nodes
  | under {nodes : List MenuNode} {parent : MenuNode} (member : parent ∈ nodes)
      (inside : Occurs node parent.children) : Occurs node nodes

theorem MenuNode.occurs_iff {node : MenuNode} {nodes : List MenuNode} :
    node.Occurs nodes ↔ ∃ parent ∈ nodes, node = parent ∨ node.Occurs parent.children := by
  constructor
  · intro occurs
    cases occurs with
    | here member => exact ⟨node, member, .inl rfl⟩
    | under member inside => exact ⟨_, member, .inr inside⟩
  · rintro ⟨parent, member, rfl | inside⟩
    · exact .here member
    · exact .under member inside

theorem MenuNode.not_occurs_nil {node : MenuNode} : ¬ node.Occurs [] := by
  rw [occurs_iff]
  simp

theorem MenuNode.occurs_iff_mem {node : MenuNode} {nodes : List MenuNode}
    (leaves : ∀ other ∈ nodes, other.children = []) : node.Occurs nodes ↔ node ∈ nodes := by
  constructor
  · intro occurs
    obtain ⟨parent, member, rfl | inside⟩ := occurs_iff.mp occurs
    · exact member
    · rw [leaves parent member] at inside
      exact absurd inside not_occurs_nil
  · exact .here

/-- The menu for a selection shows the item: in a group that shows, or outside any group. -/
inductive Document.Shows (document : Document) (selection : List Record) :
    Option Group → Item → Prop
  | grouped {group : Group} {item : Item} (inDocument : group ∈ document.groups)
      (groupVisible : group.isVisible selection = true) (inGroup : item ∈ group.items)
      (visible : item.isVisible selection = true) : Shows document selection (some group) item
  | ungrouped {item : Item} (inDocument : item ∈ document.ungroupedItems)
      (visible : item.isVisible selection = true) : Shows document selection none item

section

variable {node : MenuNode} {selection library : List Record}

theorem Item.mem_children_iff {item : Item} {group : Option Group} {settings : Settings} :
    node ∈ (item.node group settings selection library).children ↔
      item.mode = .multiValue ∧
        ∃ value ∈ item.candidates (item.effectiveSortOrder group settings) library,
          node = item.optionNode (item.effectiveIndicator group settings) selection value := by
  rw [Item.node]
  cases mode : item.mode with
  | simple => simp
  | multiValue => simp [eq_comm]

theorem Item.children_of_mem_children {item : Item} {group : Option Group} {settings : Settings}
    (member : node ∈ (item.node group settings selection library).children) :
    node.children = [] := by
  obtain ⟨_, value, _, rfl⟩ := mem_children_iff.mp member
  rfl

/-- An entry of the menu is that of an item, or of a value in the submenu of one. -/
def Item.Gives (item : Item) (group : Option Group) (settings : Settings)
    (selection library : List Record) (node : MenuNode) : Prop :=
  node = item.node group settings selection library ∨
    node ∈ (item.node group settings selection library).children

theorem Item.occurs_node_iff {item : Item} {group : Option Group} {settings : Settings} :
    node = item.node group settings selection library ∨
        node.Occurs (item.node group settings selection library).children ↔
      item.Gives group settings selection library node := by
  rw [MenuNode.occurs_iff_mem fun _ => children_of_mem_children, Gives]

theorem Group.occurs_node_iff {group : Group} {settings : Settings} :
    node = group.node settings selection library ∨
        node.Occurs (group.node settings selection library).children ↔
      node = group.node settings selection library ∨
        ∃ item ∈ group.items, item.isVisible selection = true ∧
          item.Gives (some group) settings selection library node := by
  refine or_congr_right ?_
  rw [MenuNode.occurs_iff]
  simp only [Group.node, List.mem_map, List.mem_filter]
  constructor
  · rintro ⟨_, ⟨item, ⟨inGroup, visible⟩, rfl⟩, occurs⟩
    exact ⟨item, inGroup, visible, Item.occurs_node_iff.mp occurs⟩
  · rintro ⟨item, inGroup, visible, gives⟩
    exact ⟨_, ⟨item, ⟨inGroup, visible⟩, rfl⟩, Item.occurs_node_iff.mpr gives⟩

theorem selectiveClear_occurs_iff {settings : Settings} :
    node.Occurs (selectiveClearNode settings selection).children ↔
      node ∈ (selectiveClearNode settings selection).children := by
  refine MenuNode.occurs_iff_mem fun other member => ?_
  obtain ⟨field, _, rfl⟩ := List.mem_map.mp member
  rfl

theorem Document.shows_none_iff {document : Document} {item : Item} :
    document.Shows selection none item ↔
      item ∈ document.ungroupedItems ∧ item.isVisible selection = true := by
  constructor
  · rintro (_ | ⟨inDocument, visible⟩)
    exact ⟨inDocument, visible⟩
  · rintro ⟨inDocument, visible⟩
    exact .ungrouped inDocument visible

theorem Document.mem_menu_iff {document : Document} :
    node ∈ document.menu selection library ↔
      (∃ group ∈ document.groups, group.isVisible selection = true ∧
        node = group.node document.toSettings selection library) ∨
      (∃ item, document.Shows selection none item ∧
        node = item.node none document.toSettings selection library) ∨
      (document.selectiveClear.enabled = true ∧
        node = selectiveClearNode document.toSettings selection) ∨
      (document.clearAllFields.enabled = true ∧ node = clearAllNode document.toSettings) := by
  have single {entry : MenuNode} {enabled : Bool} :
      node ∈ (if enabled then [entry] else []) ↔ enabled = true ∧ node = entry := by
    cases enabled <;> simp
  simp only [Document.menu, List.mem_append, List.mem_map, List.mem_filter, single,
    shows_none_iff, or_assoc, and_assoc, eq_comm (a := node)]

theorem Document.occurs_menu_iff {document : Document} :
    node.Occurs (document.menu selection library) ↔
      (∃ group ∈ document.groups, group.isVisible selection = true ∧
        node = group.node document.toSettings selection library) ∨
      (∃ group item, document.Shows selection group item ∧
        item.Gives group document.toSettings selection library node) ∨
      (document.selectiveClear.enabled = true ∧
        (node = selectiveClearNode document.toSettings selection ∨
          node ∈ (selectiveClearNode document.toSettings selection).children)) ∨
      (document.clearAllFields.enabled = true ∧ node = clearAllNode document.toSettings) := by
  rw [MenuNode.occurs_iff]
  constructor
  · rintro ⟨parent, member, occurs⟩
    rcases mem_menu_iff.mp member with ⟨group, inDocument, groupVisible, rfl⟩ | ⟨item, shows, rfl⟩ |
      ⟨enabled, rfl⟩ | ⟨enabled, rfl⟩
    · rcases Group.occurs_node_iff.mp occurs with isGroup | ⟨item, inGroup, visible, gives⟩
      · exact .inl ⟨group, inDocument, groupVisible, isGroup⟩
      · exact .inr (.inl ⟨some group, item, .grouped inDocument groupVisible inGroup visible,
          gives⟩)
    · exact .inr (.inl ⟨none, item, shows, Item.occurs_node_iff.mp occurs⟩)
    · rw [selectiveClear_occurs_iff] at occurs
      exact .inr (.inr (.inl ⟨enabled, occurs⟩))
    · exact .inr (.inr (.inr ⟨enabled, occurs.resolve_right MenuNode.not_occurs_nil⟩))
  · rintro (⟨group, inDocument, groupVisible, rfl⟩ | ⟨group, item, shows, gives⟩ |
      ⟨enabled, occurs⟩ | ⟨enabled, rfl⟩)
    · exact ⟨_, mem_menu_iff.mpr (.inl ⟨group, inDocument, groupVisible, rfl⟩), .inl rfl⟩
    · cases shows with
      | @grouped group _ inDocument groupVisible inGroup visible =>
          exact ⟨_, mem_menu_iff.mpr (.inl ⟨group, inDocument, groupVisible, rfl⟩),
            Group.occurs_node_iff.mpr (.inr ⟨item, inGroup, visible, gives⟩)⟩
      | ungrouped inDocument visible =>
          exact ⟨_, mem_menu_iff.mpr (.inr (.inl ⟨item, .ungrouped inDocument visible, rfl⟩)),
            Item.occurs_node_iff.mpr gives⟩
    · exact ⟨_, mem_menu_iff.mpr (.inr (.inr (.inl ⟨enabled, rfl⟩))),
        occurs.imp_right selectiveClear_occurs_iff.mpr⟩
    · exact ⟨_, mem_menu_iff.mpr (.inr (.inr (.inr ⟨enabled, rfl⟩))), .inl rfl⟩

theorem Item.of_toggle (item : Item) {group : Option Group} {settings : Settings}
    {field value : String} {operation : Operation} {asks : Bool}
    {actions : List AdditionalAction}
    (does : (item.node group settings selection library).action? =
      some (.toggle field value operation asks actions)) :
    item.mode = .simple ∧ field = item.fieldName ∧ value = item.enableValue ∧
      operation = item.operation ∧ asks = item.requireConfirmation ∧
      actions = item.additionalActions := by
  rw [Item.node] at does
  cases mode : item.mode with
  | multiValue =>
      rw [mode] at does
      cases does
  | simple =>
      rw [mode] at does
      cases does
      exact ⟨rfl, rfl, rfl, rfl, rfl, rfl⟩

/-- The entry is for an item, and puts a value in its field or takes it out. -/
def MenuAction.isSwitch : MenuAction → Bool
  | .toggle .. | .option .. => true
  | .clearField _ | .clearAll => false

theorem Document.exists_item_of_switch {document : Document} {action : MenuAction}
    (occurs : node.Occurs (document.menu selection library))
    (does : node.action? = some action) (switches : action.isSwitch = true) :
    ∃ group item, document.Shows selection group item ∧
      item.Gives group document.toSettings selection library node := by
  rcases Document.occurs_menu_iff.mp occurs with ⟨group, _, _, rfl⟩ | gives | ⟨_, rfl | clears⟩ |
    ⟨_, rfl⟩
  · cases does
  · exact gives
  · cases does
  · obtain ⟨name, _, rfl⟩ := List.mem_map.mp clears
    cases does
    cases switches
  · cases does
    cases switches

theorem Document.exists_item_of_toggle {document : Document} {field value : String}
    {operation : Operation} {asks : Bool} {actions : List AdditionalAction}
    (occurs : node.Occurs (document.menu selection library))
    (does : node.action? = some (.toggle field value operation asks actions)) :
    ∃ group item, document.Shows selection group item ∧
      node = item.node group document.toSettings selection library := by
  obtain ⟨group, item, shows, isItem | member⟩ := exists_item_of_switch occurs does rfl
  · exact ⟨group, item, shows, isItem⟩
  · obtain ⟨_, _, _, rfl⟩ := Item.mem_children_iff.mp member
    cases does

end

end FieldMenu
