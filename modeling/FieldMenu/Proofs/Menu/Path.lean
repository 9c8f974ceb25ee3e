import FieldMenu.Document.Build
import FieldMenu.Proofs.Menu.Entry

/-! At each level a path goes to the first entry of its key and to no other. -/

namespace FieldMenu

/-- Entries from one of these down, each among the children of the one before. -/
inductive IsWay : List MenuNode → List MenuNode → Prop
  | last {nodes : List MenuNode} {node : MenuNode} (member : node ∈ nodes) : IsWay nodes [node]
  | down {nodes way : List MenuNode} {parent : MenuNode} (member : parent ∈ nodes)
      (below : IsWay parent.children way) : IsWay nodes (parent :: way)

/-- Entries that do the same and have the same below them; their captions may differ. -/
structure MenuNode.Alike (found node : MenuNode) : Prop where
  key : found.key = node.key
  kind : found.kind = node.kind
  children : found.children = node.children

/-- Each entry on the way is found by the keys down to it. -/
def Addressable (nodes way : List MenuNode) : Prop :=
  ∀ part last, part <+: way → part.getLast? = some last →
    ∃ found, findPath? nodes (part.map MenuNode.key) = some found ∧ found.Alike last

/-- Among these, the first entry of that key is like this one. -/
def MenuNode.Leads (node : MenuNode) (nodes : List MenuNode) : Prop :=
  ∃ first, (nodes.find? fun other => other.key == node.key) = some first ∧ first.Alike node

def LeadsOnWay : List MenuNode → List MenuNode → Prop
  | _, [] => True
  | nodes, node :: way => node.Leads nodes ∧ LeadsOnWay node.children way

section

variable {nodes way : List MenuNode} {node : MenuNode}

theorem exists_find?_key (member : node ∈ nodes) :
    ∃ first, (nodes.find? fun other => other.key == node.key) = some first :=
  Option.isSome_iff_exists.mp (List.find?_isSome.mpr ⟨node, member, beq_self_eq_true node.key⟩)

theorem entryOfKey?_of_mem (member : node ∈ nodes) :
    entryOfKey? nodes node.key = nodes.find? fun other => other.key == node.key := by
  obtain ⟨first, isFirst⟩ := exists_find?_key member
  rw [entryOfKey?, isFirst]
  rfl

theorem findPath?_cons (nodes : List MenuNode) (key : String) {path : List String}
    (more : path ≠ []) :
    findPath? nodes (key :: path) =
      (entryOfKey? nodes key).bind fun node => findPath? node.children path := by
  cases path with
  | nil => exact absurd rfl more
  | cons next path => rfl

theorem addressable_cons (member : node ∈ nodes) :
    Addressable nodes (node :: way) ↔ node.Leads nodes ∧ Addressable node.children way := by
  have here : findPath? nodes [node.key] = nodes.find? fun other => other.key == node.key :=
    entryOfKey?_of_mem member
  -- Below an entry that is like this one the path goes on as below this one.
  have below {part : List MenuNode} {last : MenuNode} (leads : node.Leads nodes)
      (ends : part.getLast? = some last) :
      findPath? nodes ((node :: part).map MenuNode.key) =
        findPath? node.children (part.map MenuNode.key) := by
    obtain ⟨first, isFirst, alike⟩ := leads
    have more : part.map MenuNode.key ≠ [] := by
      rintro empty
      rw [List.map_eq_nil_iff.mp empty] at ends
      cases ends
    rw [List.map_cons, findPath?_cons nodes node.key more, entryOfKey?_of_mem member, isFirst,
      Option.bind_some, alike.children]
  have ends_cons {part : List MenuNode} {last : MenuNode} (ends : part.getLast? = some last) :
      (node :: part).getLast? = some last := by
    rw [List.getLast?_cons, ends]
    rfl
  constructor
  · intro addressable
    have leads : node.Leads nodes := by
      have found := addressable [node] node ((List.prefix_cons_inj node).mpr List.nil_prefix) rfl
      rwa [List.map_singleton, here] at found
    refine ⟨leads, fun part last begins ends => ?_⟩
    have found := addressable (node :: part) last ((List.prefix_cons_inj node).mpr begins)
      (ends_cons ends)
    rwa [below leads ends] at found
  · rintro ⟨leads, addressable⟩ part last begins ends
    rcases List.prefix_cons_iff.mp begins with rfl | ⟨rest, rfl, restBegins⟩
    · cases ends
    · cases restEnds : rest.getLast? with
      | none =>
          rw [List.getLast?_eq_none_iff.mp restEnds] at ends ⊢
          cases ends
          rwa [List.map_singleton, here]
      | some _ =>
          rw [ends_cons restEnds] at ends
          cases ends
          rw [below leads restEnds]
          exact addressable rest last restBegins restEnds

theorem addressable_nil (nodes : List MenuNode) : Addressable nodes [] := by
  intro part last begins ends
  rw [List.prefix_nil.mp begins] at ends
  cases ends

/-- A way can be followed by its keys just where every entry on it leads among its siblings. -/
theorem addressable_iff (isWay : IsWay nodes way) :
    Addressable nodes way ↔ LeadsOnWay nodes way := by
  induction isWay with
  | last member =>
      exact (addressable_cons member).trans
        (and_congr_right fun _ => iff_of_true (addressable_nil _) trivial)
  | down member below ih => exact (addressable_cons member).trans (and_congr_right fun _ => ih)

/-- Entries without entries of their own, the same whenever their keys are, all lead. -/
theorem leadsOnWay_of_leaves (leaves : ∀ node ∈ nodes, node.children = [])
    (told : ∀ node ∈ nodes, ∀ other ∈ nodes, other.key = node.key → other = node)
    (isWay : IsWay nodes way) : LeadsOnWay nodes way := by
  have leads {node : MenuNode} (member : node ∈ nodes) : node.Leads nodes := by
    obtain ⟨first, isFirst⟩ := exists_find?_key member
    have sameKey : first.key = node.key := by simpa using List.find?_some isFirst
    have same := told node member first (List.mem_of_find?_eq_some isFirst) sameKey
    exact ⟨first, isFirst, same ▸ ⟨rfl, rfl, rfl⟩⟩
  cases isWay with
  | last member => exact ⟨leads member, trivial⟩
  | down member below =>
      rw [leaves _ member] at below
      cases below with
      | last member | down member _ => cases member

end

section

variable {way : List MenuNode} {group : Option Group} {settings : Settings}
  {selection library : List Record}

theorem Item.kind_node (item : Item) :
    (item.node group settings selection library).kind ≠ .group := by
  rw [Item.node]
  cases item.mode with
  | simple | multiValue => exact NodeKind.noConfusion

theorem Item.leadsOnWay_children {item : Item}
    (isWay : IsWay (item.node group settings selection library).children way) :
    LeadsOnWay (item.node group settings selection library).children way := by
  refine leadsOnWay_of_leaves (fun _ => children_of_mem_children) ?_ isWay
  intro node member other otherMember sameKey
  obtain ⟨_, value, _, rfl⟩ := mem_children_iff.mp member
  obtain ⟨_, otherValue, _, rfl⟩ := mem_children_iff.mp otherMember
  have sameValue : otherValue = value := sameKey
  rw [sameValue]

theorem leadsOnWay_clearFields
    (isWay : IsWay (selectiveClearNode settings selection).children way) :
    LeadsOnWay (selectiveClearNode settings selection).children way := by
  refine leadsOnWay_of_leaves ?_ ?_ isWay
  · intro node member
    obtain ⟨field, _, rfl⟩ := List.mem_map.mp member
    rfl
  · intro node member other otherMember sameKey
    obtain ⟨field, _, rfl⟩ := List.mem_map.mp member
    obtain ⟨otherField, _, rfl⟩ := List.mem_map.mp otherMember
    have sameField : otherField = field := sameKey
    rw [sameField]

theorem Group.leadsOnWay_children_iff {group : Group}
    (isWay : IsWay (group.node settings selection library).children way) :
    LeadsOnWay (group.node settings selection library).children way ↔
      ∀ node ∈ way.head?, node.Leads (group.node settings selection library).children := by
  cases isWay with
  | last member => simp [LeadsOnWay]
  | down member below =>
      obtain ⟨item, _, rfl⟩ := List.mem_map.mp member
      simp [LeadsOnWay, Item.leadsOnWay_children below]

/-- Neither at the top level nor in a group does an entry of its key stand in front. -/
structure LeadsByName (menu way : List MenuNode) : Prop where
  top : ∀ node ∈ way.head?, node.Leads menu
  inGroup : ∀ group rest, way = group :: rest → group.kind = .group →
    ∀ node ∈ rest.head?, node.Leads group.children

theorem leadsByName_cons {menu : List MenuNode} {node : MenuNode} :
    LeadsByName menu (node :: way) ↔
      node.Leads menu ∧ (node.kind = .group → ∀ below ∈ way.head?, below.Leads node.children) := by
  constructor
  · intro leads
    exact ⟨leads.top node rfl, leads.inGroup node way rfl⟩
  · rintro ⟨top, inGroup⟩
    refine ⟨?_, ?_⟩
    · rintro _ ⟨⟩
      exact top
    · rintro _ _ ⟨⟩
      exact inGroup

theorem Document.leadsOnWay_children_iff {document : Document} {node : MenuNode}
    (member : node ∈ document.menu selection library) (isWay : IsWay node.children way) :
    LeadsOnWay node.children way ↔
      (node.kind = .group → ∀ below ∈ way.head?, below.Leads node.children) := by
  rcases mem_menu_iff.mp member with ⟨group, _, _, rfl⟩ | ⟨item, _, rfl⟩ | ⟨_, rfl⟩ | ⟨_, rfl⟩
  · rw [Group.leadsOnWay_children_iff isWay]
    exact (imp_iff_right rfl).symm
  · exact iff_of_true (Item.leadsOnWay_children isWay) fun isGroup => absurd isGroup item.kind_node
  · exact iff_of_true (leadsOnWay_clearFields isWay) fun isGroup => NodeKind.noConfusion isGroup
  · cases isWay with
    | last member | down member _ => cases member

/-- The entries on a way through the menu are found by the keys down to them just where none of the
groups, items and labels among them has a different one of its name in front. -/
theorem menu_addressable (document : Document)
    (isWay : IsWay (document.menu selection library) way) :
    Addressable (document.menu selection library) way ↔
      LeadsByName (document.menu selection library) way := by
  rw [addressable_iff isWay]
  cases isWay with
  | last member =>
      rw [leadsByName_cons]
      exact and_congr_right fun _ => iff_of_true trivial fun _ _ => nofun
  | down member below =>
      rw [leadsByName_cons]
      exact and_congr_right fun _ => Document.leadsOnWay_children_iff member below

end

/-- A value in a submenu of a group is found, and so are the submenu and the group. -/
theorem menu_addressable_value :
    let mode : Item :=
      { fieldName := "Mode", menuLabel := "Mode", mode := .multiValue, values := ["LAN", "Solo"]
        valueSortOrder := some .unsorted }
    let tags : Group := { name := "Tags", items := [mode] }
    let document : Document := { groups := [tags] }
    let doom : Record := { id := "1", title := "Doom" }
    let way :=
      [tags.node document.toSettings [doom] [], mode.node (some tags) document.toSettings [doom] [],
        mode.optionNode .symbol [doom] "Solo"]
    IsWay (document.menu [doom] []) way ∧ way.map MenuNode.key = ["Tags", "Mode", "Solo"] ∧
      Addressable (document.menu [doom] []) way := by
  intro mode tags document doom way
  have isWay : IsWay (document.menu [doom] []) way :=
    .down (.head _) (.down (.head _) (.last (.tail _ (.head _))))
  have leads : LeadsByName (document.menu [doom] []) way := by
    refine leadsByName_cons.mpr ⟨⟨_, rfl, rfl, rfl, rfl⟩, ?_⟩
    rintro _ _ ⟨⟩
    exact ⟨_, rfl, rfl, rfl, rfl⟩
  exact ⟨isWay, rfl, (menu_addressable document isWay).mpr leads⟩

def namesakesText : String :=
  "\x7b\"groups\": [" ++
    "\x7b\"groupName\": \"Tags\", \"items\": [\x7b\"fieldName\": \"Played\", " ++
    "\"menuLabel\": \"Played\"\x7d]\x7d, " ++
    "\x7b\"groupName\": \"Tags\", \"items\": [\x7b\"fieldName\": \"Beaten\", " ++
    "\"menuLabel\": \"Beaten\"\x7d]\x7d]\x7d"

/-- The item of the second group stands in the menu, and the keys down to it lead nowhere. -/
theorem namesake_out_of_reach :
    let document := (Document.build namesakesText).document
    let doom : Record := { id := "1", title := "Doom" }
    ∃ way, IsWay (document.menu [doom] []) way ∧
      way.map MenuNode.key = ["Tags", "Beaten"] ∧
      (findPath? (document.menu [doom] []) ["Tags", "Beaten"]).isNone = true ∧
      ¬ Addressable (document.menu [doom] []) way := by
  have read : (Document.build namesakesText).document =
      { groups :=
          [{ name := "Tags", items := [{ fieldName := "Played", menuLabel := "Played" }] },
            { name := "Tags", items := [{ fieldName := "Beaten", menuLabel := "Beaten" }] }] } := by
    decide +kernel
  have lost : (findPath? ((Document.build namesakesText).document.menu
      [{ id := "1", title := "Doom" }] []) ["Tags", "Beaten"]).isNone = true := by
    rw [read]
    decide
  rw [read] at lost ⊢
  let beaten : Item := { fieldName := "Beaten", menuLabel := "Beaten" }
  let tags : Group := { name := "Tags", items := [beaten] }
  refine ⟨[tags.node {} [{ id := "1", title := "Doom" }] [],
      beaten.node (some tags) {} [{ id := "1", title := "Doom" }] []],
    .down (.tail _ (.head _)) (.last (.head _)), rfl, lost, fun addressable => ?_⟩
  obtain ⟨found, isFound, _⟩ := addressable _ _ (List.prefix_refl _) rfl
  have notFound := (congrArg Option.isNone isFound).symm.trans lost
  cases notFound

end FieldMenu
