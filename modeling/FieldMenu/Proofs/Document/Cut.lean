import FieldMenu.Proofs.Document.Reading
import FieldMenu.Proofs.Layout.Cut

namespace FieldMenu

open Scan Text Layout

namespace DocumentTree

/-- The tree with no other members than these. -/
def only (tree : DocumentTree) (keeps : String → Bool) : DocumentTree where
  defaultIcon := tree.defaultIcon.filter fun _ => keeps "defaultIcon"
  defaultIconCascade := tree.defaultIconCascade.filter fun _ => keeps "defaultIconCascade"
  confirmBulkChanges := tree.confirmBulkChanges.filter fun _ => keeps "confirmBulkChanges"
  confirmBulkThreshold := tree.confirmBulkThreshold.filter fun _ => keeps "confirmBulkThreshold"
  injectClearAllFields := tree.injectClearAllFields.filter fun _ => keeps "injectClearAllFields"
  clearAllFieldsLabel := tree.clearAllFieldsLabel.filter fun _ => keeps "clearAllFieldsLabel"
  clearAllFieldsIcon := tree.clearAllFieldsIcon.filter fun _ => keeps "clearAllFieldsIcon"
  injectSelectiveClear := tree.injectSelectiveClear.filter fun _ => keeps "injectSelectiveClear"
  selectiveClearLabel := tree.selectiveClearLabel.filter fun _ => keeps "selectiveClearLabel"
  selectiveClearIcon := tree.selectiveClearIcon.filter fun _ => keeps "selectiveClearIcon"
  selectionIndicator := tree.selectionIndicator.filter fun _ => keeps "selectionIndicator"
  selectiveClearIndicator :=
    tree.selectiveClearIndicator.filter fun _ => keeps "selectiveClearIndicator"
  valueSortOrder := tree.valueSortOrder.filter fun _ => keeps "valueSortOrder"
  groups := tree.groups.filter fun _ => keeps "groups"
  ungroupedItems := tree.ungroupedItems.filter fun _ => keeps "ungroupedItems"

theorem members_only (tree : DocumentTree) (keeps : String → Bool) :
    (tree.only keeps).members =
      tree.members.map fun member => (member.1, member.2.filter fun _ => keeps member.1) := by
  simp [only, members, scalars, scalarMembers, listed, Option.filter_map, Function.comp_def]

end DocumentTree

theorem Layout.present_filter (members : List (String × Option Json)) (keeps : String → Bool) :
    present (members.map fun member => (member.1, member.2.filter fun _ => keeps member.1)) =
      (present members).filter fun member => keeps member.1 := by
  induction members with
  | nil => rfl
  | cons member members ih =>
      obtain ⟨name, value⟩ := member
      simp only [present] at ih ⊢
      cases value <;> cases kept : keeps name <;> simp [kept, ih]

/-- A text of a document with groups: its members in front of them, and those behind. -/
structure DocumentTree.Laid (tree : DocumentTree) where
  lead : Space
  blank : Space
  trail : Space
  before : List Field
  groups : Field
  after : List Field
  inner : List Char
  lays : Lays (present tree.members) (before ++ groups :: after)
  named : asciiLowered groups.name = asciiLowered "groups".toList
  array : groups.value = '[' :: inner ++ [']']

namespace DocumentTree.Laid

variable {tree : DocumentTree}

def text (laid : tree.Laid) : List Char :=
  laid.lead.text ++ objectText laid.blank (laid.before ++ laid.groups :: laid.after) ++
    laid.trail.text

theorem rendering (laid : tree.Laid) : tree.toJson.Rendering laid.text :=
  ⟨laid.lead, laid.trail, _, laid.lays.written laid.blank, rfl⟩

theorem exists_text_eq {text : List Char} (rendering : tree.toJson.Rendering text)
    (grouped : tree.groups ≠ none) : ∃ laid : tree.Laid, laid.text = text := by
  obtain ⟨trees, groups⟩ := Option.ne_none_iff_exists'.mp grouped
  obtain ⟨lead, trail, body, written, rfl⟩ := rendering
  obtain ⟨blank, fields, rfl, lays⟩ := exists_lays written
  have there : ("groups", some (Json.array (trees.map GroupTree.toJson))) ∈ tree.members := by
    simp [members, groups, listed]
  obtain ⟨before, field, after, rfl, _, named, written, _⟩ :=
    lays.exists_field (tree.searchable List.mem_cons_self) there
  obtain ⟨space, pairs, _, array, _⟩ := written.exists_slots
  exact ⟨⟨lead, blank, trail, before, field, after, _, lays, named, array⟩, rfl⟩

def cut (laid : tree.Laid) (kept : List Char) : List Char :=
  opening laid.lead laid.blank laid.before ++ (laid.groups.cut kept).text

theorem exists_lost (laid : tree.Laid) {kept : List Char} (inside : kept <+: laid.inner) :
    ∃ lost, laid.text = laid.cut kept ++ lost := by
  obtain ⟨lost, inner⟩ := inside
  have array := laid.array
  rw [← inner] at array
  refine ⟨lost ++ ']' :: laid.groups.after.text ++
    (laid.after.flatMap (fun other => ',' :: other.text) ++ '}' :: laid.trail.text), ?_⟩
  rw [text, objectText_append_cons, cut]
  simp [Field.cut, Field.text, Slot.text, array]

/-- The document of the root members in front of the groups. -/
def front (laid : tree.Laid) : DocumentTree :=
  tree.only (isAmong laid.before)

variable (laid : tree.Laid) {kept : List Char}

theorem lays_front : Lays (present laid.front.members) laid.before := by
  rw [front, members_only, present_filter]
  exact laid.lays.front tree.distinct

theorem groups_front : laid.front.groups = none := by
  have nodup := laid.lays.nodup tree.distinct
  rw [List.map_append, List.map_cons, List.nodup_middle, List.nodup_cons] at nodup
  have absent : isAmong laid.before "groups" = false := by
    rw [isAmong, List.any_eq_false]
    intro field member same
    refine nodup.1 (List.mem_append_left _ (List.mem_map.mpr ⟨field, member, ?_⟩))
    rw [of_decide_eq_true same, laid.named]
  simp [front, only, absent]

theorem quiet_before : ∀ field ∈ laid.before, field.Quiet "groups" := by
  refine laid.lays_front.quiet_of_absent (laid.front.searchable List.mem_cons_self) ?_
  rw [members, groups_front]
  exact List.mem_cons_self

theorem exists_written : ∃ trees : List GroupTree, tree.groups = some trees ∧
    (Json.array (trees.map GroupTree.toJson)).Written laid.groups.value := by
  have distinct := tree.distinct
  obtain ⟨member, inPresent, name, written⟩ :=
    laid.lays.exists_member distinct (List.mem_append_right _ List.mem_cons_self)
  have there : ("groups", listed GroupTree.toJson tree.groups) ∈ tree.members :=
    List.mem_cons_self
  have equal := eq_of_same_letters distinct (mem_present.mp inPresent) there
    (name.symm.trans laid.named)
  obtain ⟨trees, groups, json⟩ := Option.map_eq_some_iff.mp (congrArg Prod.snd equal).symm
  rw [← json] at written
  exact ⟨trees, groups, written⟩

theorem balanced : Balanced laid.inner := by
  obtain ⟨trees, _, written⟩ := laid.exists_written
  obtain ⟨space, pairs, _, value, each⟩ := written.exists_slots
  have inner : laid.inner = space.text ++ separated ((pairs.map Prod.snd).map Slot.text) :=
    (List.cons.inj (List.append_cancel_right (laid.array.symm.trans value))).2
  rw [inner]
  exact balanced_pairs fun pair member => (each pair member).balanced

theorem unclosed (inside : kept <+: laid.inner) :
    enclosed? '[' ']' 0 .outside [] kept = none := by
  obtain ⟨lost, inner⟩ := inside
  have balanced := laid.balanced
  rw [← inner] at balanced
  exact enclosed?_of_prefix rfl balanced

theorem objectArray_groups (inside : kept <+: laid.inner) :
    objectArray (laid.cut kept) "groups" = [] := by
  rw [objectArray, cut, arrayBody?_cut (apart _ List.mem_cons_self).keyNamed laid.quiet_before
    laid.named (laid.unclosed inside)]
  rfl

theorem withoutArray_groups (inside : kept <+: laid.inner) :
    withoutArray (laid.cut kept) "groups" = laid.cut kept :=
  withoutArray_cut (apart _ List.mem_cons_self).keyNamed laid.quiet_before laid.named
    (laid.unclosed inside)

theorem valueText?_inner (inside : kept <+: laid.inner) {key : String}
    (apart : Json.Apart key ("groups" :: GroupTree.names)) : valueText? kept key = none := by
  have searchable : Searchable key tree.members ("groups" :: GroupTree.names) :=
    ⟨tree.distinct, apart, tree.nested.mono fun _ => List.mem_cons_of_mem _⟩
  have other : asciiLowered laid.groups.name ≠ asciiLowered key.toList := by
    rw [laid.named]
    exact apart.other "groups" List.mem_cons_self
  have quiet := (laid.lays.quiet searchable
    (List.mem_append_right _ List.mem_cons_self) other).value
  obtain ⟨lost, inner⟩ := inside
  rw [laid.array, ← inner] at quiet
  exact valueText?_kept quiet

theorem lays_rest : Lays (present laid.front.members.tail) laid.before := by
  have lays := laid.lays_front
  rwa [members, groups_front] at lays

theorem searchable_items :
    Searchable "ungroupedItems" laid.front.members.tail GroupTree.names :=
  ⟨laid.front.distinct.tail, apart _ (by simp [arrayNames]), laid.front.nested.tail⟩

section

variable {items : List ItemTree}

theorem mem_rest (there : laid.front.ungroupedItems = some items) :
    ("ungroupedItems", some (Json.array (items.map ItemTree.toJson))) ∈
      laid.front.members.tail := by
  simp [members, there, listed]

theorem objectArray_items (there : laid.front.ungroupedItems = some items) :
    List.Forall₂ (fun text tree => (ItemTree.toJson tree).Rendering text)
      (objectArray (laid.cut kept) "ungroupedItems") items :=
  laid.lays_rest.objectArray_front laid.searchable_items (fun _ => ⟨_, rfl⟩)
    (laid.mem_rest there) _

/-- Without its arrays, the text is that of the scalars in front of the groups, and breaks off at
the same place. -/
theorem exists_withoutArrays (inside : kept <+: laid.inner)
    (there : laid.front.ungroupedItems = some items) :
    ∃ (others : List Field) (last : Field),
      withoutArrays (laid.cut kept) ["groups", "ungroupedItems"] =
          opening laid.lead laid.blank others ++ (last.cut kept).text ∧
        Lays (present (scalarMembers laid.front.scalars)) others ∧
        asciiLowered last.name = asciiLowered "groups".toList := by
  obtain ⟨others, space, left, lays⟩ :=
    laid.lays_rest.withoutArray_front laid.searchable_items (laid.mem_rest there)
      (laid.groups.cut kept)
  have scalars : without laid.front.members.tail "ungroupedItems" =
      scalarMembers laid.front.scalars :=
    without_cons_self laid.front.distinct.tail
  rw [scalars] at lays
  refine ⟨others, { laid.groups with lead := space }, ?_, lays, laid.named⟩
  rw [withoutArrays, List.foldl_cons, List.foldl_cons, List.foldl_nil,
    laid.withoutArray_groups inside]
  exact left

end

/-- What a search for a key reads that goes on in the text behind the members. -/
def spilled (behind : List Char) (key : String) (member : Option Scalar) : Option Scalar :=
  member.or ((string? behind key).map Scalar.string)

/-- The document that is read: of the members in front of the groups, but for two of them. -/
def seen (laid : tree.Laid) (kept : List Char) : DocumentTree :=
  { laid.front with
    selectionIndicator := spilled kept "selectionIndicator" laid.front.selectionIndicator
    valueSortOrder := spilled kept "valueSortOrder" laid.front.valueSortOrder }

/-- The settings that neither groups nor their entries have. -/
def ownSettings : List String :=
  [ "defaultIcon", "defaultIconCascade", "confirmBulkChanges", "confirmBulkThreshold",
    "injectClearAllFields", "clearAllFieldsLabel", "clearAllFieldsIcon", "injectSelectiveClear",
    "selectiveClearLabel", "selectiveClearIcon", "selectiveClearIndicator" ]

theorem apart_ownSettings :
    ∀ key ∈ ownSettings, Json.Apart key ("groups" :: GroupTree.names) :=
  Known.apart (by decide) (Known.append (show Known ["groups"] by decide) GroupTree.known)
    (by decide)

theorem scalars_seen (inside : kept <+: laid.inner) :
    (laid.seen kept).scalars =
      laid.front.scalars.map fun member => (member.1, spilled kept member.1 member.2) := by
  have none : ∀ key ∈ ownSettings, string? kept key = none := by
    intro key member
    rw [string?, laid.valueText?_inner inside (apart_ownSettings key member)]
  simp only [ownSettings, List.forall_mem_cons] at none
  simp [seen, scalars, spilled, none]

section

variable {others : List Field}

theorem mem_scalarMembers {key : String} {scalar : Option Scalar}
    (there : (key, scalar) ∈ laid.front.scalars) :
    (key, scalar.map Scalar.toJson) ∈ scalarMembers laid.front.scalars :=
  List.mem_map_of_mem (f := fun member => (member.1, member.2.map Scalar.toJson)) there

theorem searchable_own {key : String} {scalar : Option Scalar}
    (there : (key, scalar) ∈ laid.front.scalars) :
    Searchable key (scalarMembers laid.front.scalars) [] := by
  refine searchable_scalars ?_ (List.mem_map_of_mem (f := Prod.fst) there)
  simpa [members, scalarMembers, Function.comp_def] using laid.front.distinct.tail.tail

theorem holds_others (lays : Lays (present (scalarMembers laid.front.scalars)) others)
    {key : String} {scalar : Scalar} (there : (key, some scalar) ∈ laid.front.scalars)
    (rest : List Char) :
    Holds (opening laid.lead laid.blank others ++ rest) key (some scalar) :=
  lays.valueText?_front (laid.searchable_own there) (laid.mem_scalarMembers there) rest

theorem valueText?_others (lays : Lays (present (scalarMembers laid.front.scalars)) others)
    {last : Field} (named : asciiLowered last.name = asciiLowered "groups".toList) {key : String}
    (absent : (key, none) ∈ laid.front.scalars) (kept : List Char) :
    valueText? (opening laid.lead laid.blank others ++ (last.cut kept).text) key =
      valueText? kept key := by
  have searchable := laid.searchable_own absent
  have other : asciiLowered last.name ≠ asciiLowered key.toList := by
    have fresh : asciiLowered "groups".toList ∉
        (laid.front.members.tail.map Prod.fst).map fun name => asciiLowered name.toList :=
      (List.nodup_cons.mp laid.front.distinct.1).1
    have known : key ∈ laid.front.members.tail.map Prod.fst :=
      List.mem_map_of_mem (f := Prod.fst)
        (List.mem_cons_of_mem _ (laid.mem_scalarMembers absent))
    intro same
    rw [← named, same] at fresh
    exact fresh (List.mem_map_of_mem known)
  exact valueText?_cut searchable.apart.keyNamed
    (lays.quiet_of_absent searchable (laid.mem_scalarMembers absent))
    (isName_of_sameLetters (by decide) named) other kept

end

theorem readSettings_cut (inside : kept <+: laid.inner) {items : List ItemTree}
    (there : laid.front.ungroupedItems = some items) :
    Settings.read (withoutArrays (laid.cut kept) ["groups", "ungroupedItems"]) =
      (laid.seen kept).readSettings := by
  obtain ⟨others, last, text, lays, named⟩ := laid.exists_withoutArrays inside there
  rw [text]
  have words : ∀ member ∈ (laid.seen kept).scalars,
      string? (opening laid.lead laid.blank others ++ (last.cut kept).text) member.1 =
        Position.string? member.2 := by
    rw [laid.scalars_seen inside]
    intro member inSeen
    obtain ⟨⟨key, scalar⟩, inFront, rfl⟩ := List.mem_map.mp inSeen
    cases scalar with
    | some scalar => exact (laid.holds_others lays inFront _).string?
    | none =>
        rw [string?, laid.valueText?_others lays named inFront, ← string?, spilled,
          Option.none_or]
        cases string? kept key <;> rfl
  have holds (key : String) (scalar : Option Scalar)
      (inFront : (key, scalar) ∈ laid.front.scalars) (own : key ∈ ownSettings) :
      Holds (opening laid.lead laid.blank others ++ (last.cut kept).text) key scalar := by
    cases scalar with
    | some scalar => exact laid.holds_others lays inFront _
    | none =>
        have outside := laid.valueText?_others lays named inFront kept
        rwa [laid.valueText?_inner inside (apart_ownSettings key own)] at outside
  exact readSettings_eq words
    (holds _ laid.front.confirmBulkChanges (by simp [scalars]) (by decide))
    (holds _ laid.front.confirmBulkThreshold (by simp [scalars]) (by decide))
    (holds _ laid.front.injectClearAllFields (by simp [scalars]) (by decide))
    (holds _ laid.front.injectSelectiveClear (by simp [scalars]) (by decide))

theorem readEntries_cut (inside : kept <+: laid.inner) {items : List ItemTree}
    (there : laid.front.ungroupedItems = some items) :
    Document.readEntries (laid.cut kept) = (laid.seen kept).readEntries := by
  have items : Noted.filterMap Item.read (objectArray (laid.cut kept) "ungroupedItems") =
      Noted.filterMap ItemTree.read items :=
    Noted.filterMap_eq (fun _ _ each => ItemTree.read_rendering each)
      (laid.objectArray_items there)
  have groups : (laid.seen kept).groups = none := laid.groups_front
  have seen : (laid.seen kept).ungroupedItems = some _ := there
  simp only [Document.readEntries, DocumentTree.readEntries, laid.readSettings_cut inside there,
    laid.objectArray_groups inside, laid.withoutArray_groups inside, items, groups, seen,
    Option.getD_none, Option.getD_some]
  rfl

/-- Each setting that groups and items have as well is given in front of the groups, or is not in
what is left of them either. -/
def IsIsolated (laid : tree.Laid) (kept : List Char) : Prop :=
  (laid.front.selectionIndicator ≠ none ∨ string? kept "selectionIndicator" = none) ∧
    (laid.front.valueSortOrder ≠ none ∨ string? kept "valueSortOrder" = none)

theorem spilled_eq_self {behind : List Char} {key : String} {member : Option Scalar}
    (isolated : member ≠ none ∨ string? behind key = none) :
    spilled behind key member = member := by
  cases member with
  | some scalar => rfl
  | none =>
      have missing : string? behind key = none := isolated.resolve_left fun given => given rfl
      rw [spilled, missing]
      rfl

theorem seen_of_isIsolated (isolated : laid.IsIsolated kept) : laid.seen kept = laid.front := by
  rw [seen, spilled_eq_self isolated.1, spilled_eq_self isolated.2]

/-- The texts of a document with groups are those laid out around them, and such a text breaks off
inside them at every place.  Where an item stands in front of them, the document of the members in
front is built then, with at most two settings out of what is left of the groups. -/
theorem build_cut (tree : DocumentTree) :
    (∀ text, tree.toJson.Rendering text ∧ tree.groups ≠ none ↔
      ∃ laid : tree.Laid, laid.text = text) ∧
    ∀ (laid : tree.Laid) (kept : List Char), kept <+: laid.inner →
      (∃ lost, laid.text = laid.cut kept ++ lost) ∧
      ((∃ item ∈ laid.front.ungroupedItems.getD [], item.read.value ≠ none) →
        ∀ logDropped : Bool,
          let build := Document.build (String.ofList (laid.cut kept)) logDropped
          let given := laid.front.readSettings.value
          build.document = (laid.seen kept).document ∧ build.report = (laid.seen kept).report ∧
            { build.document.toSettings with
              selectionIndicator := given.selectionIndicator
              valueSortOrder := given.valueSortOrder } = given ∧
            (laid.IsIsolated kept → build.document.toSettings = given)) := by
  refine ⟨fun text => ⟨fun given => exists_text_eq given.1 given.2, ?_⟩,
    fun laid kept inside => ⟨laid.exists_lost inside, ?_⟩⟩
  · rintro ⟨laid, rfl⟩
    obtain ⟨trees, groups, _⟩ := laid.exists_written
    exact ⟨laid.rendering, Option.ne_none_iff_exists'.mpr ⟨trees, groups⟩⟩
  intro usable logDropped build given
  obtain ⟨item, member, read⟩ := usable
  obtain ⟨items, there⟩ : ∃ items, laid.front.ungroupedItems = some items := by
    cases given : laid.front.ungroupedItems with
    | none => simp [given] at member
    | some items => exact ⟨items, rfl⟩
  rw [there, Option.getD_some] at member
  have reads : Document.readEntries (String.ofList (laid.cut kept)).toList =
      (laid.seen kept).readEntries := by
    rw [String.toList_ofList, laid.readEntries_cut inside there]
  obtain ⟨document, report⟩ := build_of_readEntries reads logDropped
  have seen : (laid.seen kept).ungroupedItems = some items := there
  have filled : (laid.seen kept).readEntries.value.ungroupedItems ≠ [] := by
    simp only [readEntries, Noted.value_bind, Noted.value_pure, Noted.value_filterMap, seen,
      Option.getD_some, ne_eq, List.filterMap_eq_nil_iff, not_forall]
    exact ⟨item, member, read⟩
  have settings : build.document.toSettings = (laid.seen kept).readSettings.value := by
    rw [show build.document = _ from document, DocumentTree.document,
      if_neg fun empty => filled empty.2]
    rfl
  refine ⟨document, report, ?_, fun isolated => ?_⟩
  · rw [settings]
    rfl
  · rw [settings, laid.seen_of_isIsolated isolated]

end DocumentTree.Laid

namespace DocumentTree

def shelf : ItemTree where
  fieldName := some (.string "Shelf")
  menuLabel := some (.string "Shelf")

def shelved : DocumentTree where
  ungroupedItems := some [shelf]
  groups := some
    [{ groupName := some (.string "Tags")
       valueSortOrder := some (.string "mostCommon")
       items := some [shelf] }]

def quotedText (text : String) : List Char :=
  '"' :: escape text.toList ++ ['"']

def bareSlot (value : List Char) : Slot :=
  ⟨.empty, value, .empty⟩

def bareField (name : String) (value : List Char) : Field :=
  ⟨bareSlot value, .empty, name.toList, .empty⟩

def shelfText : List Char :=
  objectText .empty
    [bareField "fieldName" (quotedText "Shelf"), bareField "menuLabel" (quotedText "Shelf")]

theorem shelf_written : shelf.toJson.Written shelfText := by
  refine .object .empty _
    [ ⟨"fieldName", .string "Shelf", "fieldName".toList, quotedText "Shelf"⟩,
      ⟨"menuLabel", .string "Shelf", "menuLabel".toList, quotedText "Shelf"⟩ ]
    (.refl _) (by decide) ?_ rfl
  simp only [List.forall_mem_cons]
  exact ⟨.string "Shelf", .string "Shelf", by simp⟩

def shelvesText : List Char :=
  arrayText .empty [bareSlot shelfText]

theorem shelves_written : (Json.array [shelf.toJson]).Written shelvesText :=
  .array .empty [(shelf.toJson, bareSlot shelfText)] fun _ member =>
    List.mem_singleton.mp member ▸ shelf_written

def tagsJson : Json :=
  .object [("items", .array [shelf.toJson]), ("groupName", .string "Tags"),
    ("valueSortOrder", .string "mostCommon")]

def tagsText : List Char :=
  objectText .empty
    [ bareField "items" shelvesText, bareField "groupName" (quotedText "Tags"),
      bareField "valueSortOrder" (quotedText "mostCommon") ]

theorem tags_written : tagsJson.Written tagsText := by
  refine .object .empty _
    [ ⟨"items", .array [shelf.toJson], "items".toList, shelvesText⟩,
      ⟨"groupName", .string "Tags", "groupName".toList, quotedText "Tags"⟩,
      ⟨"valueSortOrder", .string "mostCommon", "valueSortOrder".toList, quotedText "mostCommon"⟩ ]
    (.refl _) (by decide) ?_ rfl
  simp only [List.forall_mem_cons]
  exact ⟨shelves_written, .string "Tags", .string "mostCommon", by simp⟩

theorem groups_written :
    (Json.array [tagsJson]).Written (arrayText .empty [bareSlot tagsText]) :=
  .array .empty [(tagsJson, bareSlot tagsText)] fun _ member =>
    List.mem_singleton.mp member ▸ tags_written

theorem shelved_lays : Lays (present shelved.members)
    [ bareField "ungroupedItems" shelvesText,
      bareField "groups" (arrayText .empty [bareSlot tagsText]) ] := by
  refine ⟨[ ⟨"ungroupedItems", _, "ungroupedItems".toList, _⟩,
    ⟨"groups", _, "groups".toList, _⟩ ], .swap _ _ _, by decide, ?_, rfl⟩
  simp only [List.forall_mem_cons]
  exact ⟨shelves_written, groups_written, by simp⟩

def shelvedLaid : shelved.Laid where
  lead := .empty
  blank := .empty
  trail := .empty
  before := [bareField "ungroupedItems" shelvesText]
  groups := bareField "groups" (arrayText .empty [bareSlot tagsText])
  after := []
  inner := tagsText
  lays := shelved_lays
  named := rfl
  array := by simp [arrayText, bareField, bareSlot, Slot.text]

theorem front_shelvedLaid : shelvedLaid.front = { ungroupedItems := some [shelf] } := by
  have before : isAmong shelvedLaid.before "ungroupedItems" = true := by decide +kernel
  have behind : isAmong shelvedLaid.before "groups" = false := by decide +kernel
  simp [Laid.front, only, shelved, before, behind, Option.filter]

theorem shelf_in_front :
    ∃ item ∈ shelvedLaid.front.ungroupedItems.getD [], item.read.value ≠ none := by
  rw [front_shelvedLaid]
  exact ⟨shelf, List.mem_cons_self, by decide⟩

theorem build_cut_in_item :
    let kept := "\x7b\"items\":[\x7b\"fieldName\":\"She".toList
    kept <+: shelvedLaid.inner ∧
      (∃ item ∈ shelvedLaid.front.ungroupedItems.getD [], item.read.value ≠ none) ∧
      shelvedLaid.IsIsolated kept ∧
      (Document.build (String.ofList (shelvedLaid.cut kept))).document.toSettings = {} := by
  intro kept
  have inside : kept <+: shelvedLaid.inner := by decide +kernel
  have isolated : shelvedLaid.IsIsolated kept :=
    ⟨Or.inr (by decide +kernel), Or.inr (by decide +kernel)⟩
  obtain ⟨-, cuts⟩ := Laid.build_cut shelved
  obtain ⟨-, built⟩ := cuts shelvedLaid kept inside
  obtain ⟨_, _, _, settings⟩ := built shelf_in_front true
  refine ⟨inside, shelf_in_front, isolated, ?_⟩
  rw [settings isolated, front_shelvedLaid]
  decide

def sortedCut : String :=
  "\x7b\"ungroupedItems\":[\x7b\"fieldName\":\"Shelf\",\"menuLabel\":\"Shelf\"\x7d]," ++
    "\"groups\":[\x7b\"items\":[\x7b\"fieldName\":\"Shelf\",\"menuLabel\":\"Shelf\"\x7d]," ++
      "\"groupName\":\"Tags\",\"valueSortOrder\":\"mostCommon\""

theorem toList_sortedCut : sortedCut.toList = shelvedLaid.cut tagsText.dropLast := by
  decide +kernel

/-- The sort order of a group is taken for that of the document. -/
theorem group_setting_taken_for_root :
    (∃ kept, kept <+: shelvedLaid.inner ∧ sortedCut.toList = shelvedLaid.cut kept) ∧
      (∃ item ∈ shelvedLaid.front.ungroupedItems.getD [], item.read.value ≠ none) ∧
      shelvedLaid.front.readSettings.value.valueSortOrder = .alphabetical ∧
      (Document.build sortedCut).document.valueSortOrder = .mostCommon := by
  refine ⟨⟨tagsText.dropLast, List.dropLast_prefix _, toList_sortedCut⟩, shelf_in_front, ?_, ?_⟩
  · rw [front_shelvedLaid]
    decide
  · simp only [Document.build, toList_sortedCut]
    decide +kernel

end DocumentTree

end FieldMenu
