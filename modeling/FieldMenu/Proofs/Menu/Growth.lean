import FieldMenu.Proofs.Activation.SelectiveClear
import FieldMenu.Proofs.Menu.Path

namespace FieldMenu

open Text

section

variable {part whole : List Record}

theorem shows_mono (within : part ⊆ whole) {conditions : List ConditionGroup}
    (shown : shows conditions part = true) : shows conditions whole = true := by
  rw [shows, Bool.or_eq_true, List.any_eq_true] at shown ⊢
  refine shown.imp_right ?_
  rintro ⟨record, member, passes⟩
  exact ⟨record, within member, passes⟩

theorem Item.isVisible_mono (within : part ⊆ whole) {item : Item}
    (visible : item.isVisible part = true) : item.isVisible whole = true := by
  rw [isVisible, Bool.and_eq_true] at visible ⊢
  exact visible.imp_right (shows_mono within)

theorem Group.isVisible_mono (within : part ⊆ whole) {group : Group}
    (visible : group.isVisible part = true) : group.isVisible whole = true := by
  rw [isVisible, Bool.and_eq_true] at visible ⊢
  exact visible.imp_right (shows_mono within)

theorem Document.shows_mono (within : part ⊆ whole) {document : Document} {group : Option Group}
    {item : Item} (shown : document.Shows part group item) :
    document.Shows whole group item := by
  cases shown with
  | grouped inDocument groupVisible inGroup visible =>
      exact .grouped inDocument (Group.isVisible_mono within groupVisible) inGroup
        (Item.isVisible_mono within visible)
  | ungrouped inDocument visible => exact .ungrouped inDocument (Item.isVisible_mono within visible)

end

/-- The same entry in another menu.  Its caption may differ, and the name of a field to clear may be
spelled in another letter case. -/
inductive MenuNode.Recurs (node other : MenuNode) : Prop
  | exactly (key : other.key = node.key) (kind : other.kind = node.kind)
  | spelled (clears : node.kind = .action (.clearField node.key))
      (otherClears : other.kind = .action (.clearField other.key))
      (same : sameIgnoringCase other.key node.key = true)

def WaysRecur (nodes others : List MenuNode) : Prop :=
  ∀ way, IsWay nodes way →
    ∃ otherWay, IsWay others otherWay ∧ List.Forall₂ MenuNode.Recurs way otherWay

theorem waysRecur_nil (others : List MenuNode) : WaysRecur [] others := by
  intro way isWay
  cases isWay with
  | last member | down member _ => cases member

theorem waysRecur_of_forall_mem {nodes others : List MenuNode}
    (each : ∀ node ∈ nodes, ∃ other ∈ others,
      node.Recurs other ∧ WaysRecur node.children other.children) :
    WaysRecur nodes others := by
  intro way isWay
  cases isWay with
  | last member =>
      obtain ⟨other, otherMember, recurs, _⟩ := each _ member
      exact ⟨[other], .last otherMember, .cons recurs .nil⟩
  | down member below =>
      obtain ⟨other, otherMember, recurs, inside⟩ := each _ member
      obtain ⟨otherWay, otherBelow, ways⟩ := inside _ below
      exact ⟨other :: otherWay, .down otherMember otherBelow, .cons recurs ways⟩

section

variable {part whole library : List Record} {settings : Settings}

theorem Item.recurs_node (item : Item) (group : Option Group) :
    (item.node group settings part library).Recurs (item.node group settings whole library) := by
  rw [node, node]
  cases item.mode with
  | simple | multiValue => exact .exactly rfl rfl

theorem Item.waysRecur_children (item : Item) (group : Option Group) :
    WaysRecur (item.node group settings part library).children
      (item.node group settings whole library).children := by
  refine waysRecur_of_forall_mem fun node member => ?_
  obtain ⟨multiple, value, offered, rfl⟩ := mem_children_iff.mp member
  exact ⟨_, mem_children_iff.mpr ⟨multiple, value, offered, rfl⟩, .exactly rfl rfl,
    waysRecur_nil _⟩

theorem Group.waysRecur_children (within : part ⊆ whole) (group : Group) :
    WaysRecur (group.node settings part library).children
      (group.node settings whole library).children := by
  refine waysRecur_of_forall_mem fun node member => ?_
  obtain ⟨item, shown, rfl⟩ := List.mem_map.mp member
  obtain ⟨inGroup, visible⟩ := List.mem_filter.mp shown
  have stays : item ∈ group.items.filter fun item => item.isVisible whole :=
    List.mem_filter.mpr ⟨inGroup, Item.isVisible_mono within visible⟩
  exact ⟨_, List.mem_map_of_mem stays, item.recurs_node _, item.waysRecur_children _⟩

theorem exists_mem_selectionFieldNames (within : part ⊆ whole) {name : String}
    (member : name ∈ selectionFieldNames part) :
    ∃ spelling ∈ selectionFieldNames whole, sameIgnoringCase spelling name = true := by
  have inPart : (selectionFieldNames part).any (fun known => sameIgnoringCase known name) = true :=
    any_of_mem member
  rw [any_selectionFieldNames, List.any_eq_true] at inPart
  obtain ⟨record, inSelection, has⟩ := inPart
  rw [← List.any_eq_true, any_selectionFieldNames, List.any_eq_true]
  exact ⟨record, within inSelection, has⟩

theorem waysRecur_selectiveClear (within : part ⊆ whole) :
    WaysRecur (selectiveClearNode settings part).children
      (selectiveClearNode settings whole).children := by
  refine waysRecur_of_forall_mem fun node member => ?_
  obtain ⟨name, named, rfl⟩ := List.mem_map.mp member
  obtain ⟨spelling, spelled, same⟩ := exists_mem_selectionFieldNames within named
  exact ⟨_, List.mem_map_of_mem spelled, .spelled rfl rfl same, waysRecur_nil _⟩

/-- Each way through the menu for some records leads through the menu for more records too, with the
same keys but for the spelling of a field to clear. -/
theorem menu_grows (document : Document) (sublist : part.Sublist whole) :
    WaysRecur (document.menu part library) (document.menu whole library) := by
  have within : part ⊆ whole := sublist.subset
  refine waysRecur_of_forall_mem fun node member => ?_
  simp only [Document.mem_menu_iff] at member ⊢
  rcases member with ⟨group, inDocument, visible, rfl⟩ | ⟨item, shown, rfl⟩ | ⟨enabled, rfl⟩ |
    ⟨enabled, rfl⟩
  · exact ⟨_, .inl ⟨group, inDocument, Group.isVisible_mono within visible, rfl⟩, .exactly rfl rfl,
      Group.waysRecur_children within group⟩
  · exact ⟨_, .inr (.inl ⟨item, document.shows_mono within shown, rfl⟩), item.recurs_node _,
      item.waysRecur_children _⟩
  · exact ⟨_, .inr (.inr (.inl ⟨enabled, rfl⟩)), .exactly rfl rfl, waysRecur_selectiveClear within⟩
  · exact ⟨_, .inr (.inr (.inr ⟨enabled, rfl⟩)), .exactly rfl rfl, waysRecur_nil _⟩

end

/-- Where a record joins the selection in front, the group is still there although the record does
not meet its condition, and the field to clear is spelled as that record spells it. -/
theorem menu_grows_spelled :
    let exclusive : ConditionGroup :=
      { logic := .all, rules := [{ field := "Platform", operator := .notEquals, value := "SNES" }] }
    let tags : Group := { name := "Tags", conditions := [exclusive] }
    let document : Document :=
      { groups := [tags], selectiveClear := { enabled := true, label := "Clear" } }
    let mario : Record :=
      { id := "1", title := "Mario", platform := "SNES"
        customFields := [{ name := "tag", value := "new" }] }
    let doom : Record :=
      { id := "2", title := "Doom", platform := "DOS"
        customFields := [{ name := "TAG", value := "old" }] }
    let toTags := [tags.node document.toSettings [doom] []]
    let toField :=
      [selectiveClearNode document.toSettings [doom],
        clearFieldNode document.toSettings [doom] "TAG"]
    [doom].Sublist [mario, doom] ∧
      IsWay (document.menu [doom] []) toTags ∧ IsWay (document.menu [doom] []) toField ∧
      ∀ way ∈ [toTags, toField], ∃ otherWay,
        IsWay (document.menu [mario, doom] []) otherWay ∧
          List.Forall₂ MenuNode.Recurs way otherWay := by
  intro exclusive tags document mario doom toTags toField
  have within : [doom].Sublist [mario, doom] := .cons _ (.refl _)
  have visible : tags.isVisible [doom] = true := by
    decide +kernel
  have tagsShown : tags.node document.toSettings [doom] [] ∈ document.menu [doom] [] :=
    Document.mem_menu_iff.mpr (.inl ⟨tags, .head _, visible, rfl⟩)
  have clearShown : selectiveClearNode document.toSettings [doom] ∈ document.menu [doom] [] :=
    Document.mem_menu_iff.mpr (.inr (.inr (.inl ⟨rfl, rfl⟩)))
  have fieldShown : "TAG" ∈ selectionFieldNames [doom] := by
    decide +kernel
  have tagsWay : IsWay (document.menu [doom] []) toTags := .last tagsShown
  have fieldWay : IsWay (document.menu [doom] []) toField :=
    .down clearShown (.last (List.mem_map_of_mem fieldShown))
  refine ⟨within, tagsWay, fieldWay, ?_⟩
  simp only [List.forall_mem_cons]
  exact ⟨menu_grows document within _ tagsWay, menu_grows document within _ fieldWay,
    by simp⟩

end FieldMenu
