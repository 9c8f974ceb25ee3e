import FieldMenu.Document.Write
import FieldMenu.Proofs.Document.Sound
import FieldMenu.Proofs.Text.Case

namespace FieldMenu

open Scan Text

namespace Icon

theorem trim_append {front back : List Char} (filled : front ≠ []) (trimmed : trim front = front)
    (rest : trim back = back) : trim (front ++ back) = front ++ back := by
  obtain ⟨start, finish⟩ := trim_eq_self_iff.mp trimmed
  obtain ⟨_, behind⟩ := trim_eq_self_iff.mp rest
  refine trim_eq_self_iff.mpr ⟨trimStart_eq_self_iff.mpr fun c first => ?_,
    trimEnd_eq_self_iff.mpr fun c last => ?_⟩
  · rw [List.head?_append_of_ne_nil _ filled] at first
    exact trimStart_eq_self_iff.mp start c first
  · cases back with
    | nil =>
        rw [List.append_nil] at last
        exact trimEnd_eq_self_iff.mp finish c last
    | cons next back =>
        rw [List.getLast?_append_of_ne_nil _ (List.cons_ne_nil next back)] at last
        exact trimEnd_eq_self_iff.mp behind c last

theorem parse_trimmed (spec : String) :
    parse (String.ofList (trim spec.toList)) = parse spec := by
  rw [parse, parse, String.toList_ofList, trim_trim]

theorem text_kind {kind : String × (String → Icon)} (known : kind ∈ namedKinds) (name : String) :
    (kind.2 name).text = kind.1 ++ name := by
  simp only [namedKinds, List.mem_cons, List.not_mem_nil, or_false] at known
  rcases known with rfl | rfl | rfl | rfl <;> rfl

theorem parse_kind {kind : String × (String → Icon)} (known : kind ∈ namedKinds)
    {name : List Char} (trimmed : trim name = name) :
    parse (kind.1 ++ String.ofList name) = kind.2 (String.ofList name) := by
  have whole : trim (kind.1.toList ++ name) = kind.1.toList ++ name := by
    refine trim_append ?_ ?_ trimmed
    all_goals
      simp only [namedKinds, List.mem_cons, List.not_mem_nil, or_false] at known
      rcases known with rfl | rfl | rfl | rfl <;> decide
  rw [parse, String.toList_append, String.toList_ofList, whole]
  -- No kind begins like another one or like a fixed icon.
  simp only [namedKinds, List.mem_cons, List.not_mem_nil, or_false] at known
  rcases known with rfl | rfl | rfl | rfl <;>
    simp [namedKinds, ofKind?, Scan.afterLead?, asciiLowered, trimmed]

theorem parse_cases (spec : String) :
    parse spec = default ∨ parse spec = delete ∨
      (∃ kind ∈ namedKinds, ∃ name, trim name = name ∧ parse spec = kind.2 (String.ofList name)) ∨
      parse spec = unrecognized (String.ofList (trim spec.toList)) := by
  rw [parse]
  split
  · exact .inl rfl
  · split
    · exact .inr (.inl rfl)
    · cases found : namedKinds.findSome? (ofKind? (trim spec.toList)) with
      | none => exact .inr (.inr (.inr rfl))
      | some icon =>
          obtain ⟨kind, known, reads⟩ := List.exists_of_findSome?_eq_some found
          obtain ⟨name, _, rfl⟩ := Option.map_eq_some_iff.mp reads
          exact .inr (.inr (.inl ⟨kind, known, trim name, trim_trim name, rfl⟩))

def ReadsBack (icon : Icon) : Prop :=
  parse icon.text = icon

instance (icon : Icon) : Decidable icon.ReadsBack :=
  inferInstanceAs (Decidable (_ = _))

theorem readsBack_parse (spec : String) : (parse spec).ReadsBack := by
  rw [ReadsBack]
  obtain same | same | ⟨kind, known, name, trimmed, same⟩ | same := parse_cases spec
  · rw [same]
    decide
  · rw [same]
    decide
  · rw [same, text_kind known, parse_kind known trimmed]
  · rw [same, text, parse_trimmed, same]

end Icon

namespace Operator

def ReadsBack (operator : Operator) : Prop :=
  parse operator.name = operator

instance (operator : Operator) : Decidable operator.ReadsBack :=
  inferInstanceAs (Decidable (_ = _))

theorem eq_of_parse_eq_unrecognized {text word : String} (read : parse text = unrecognized word) :
    word = text := by
  unfold parse at read
  generalize looked : List.lookup (settingWord text) _ = found at read
  cases found with
  | none => exact (unrecognized.inj read).symm
  | some operator =>
      obtain rfl : operator = unrecognized word := read
      obtain ⟨_, _, table, _⟩ := List.lookup_eq_some_iff.mp looked
      have listed := congrArg (fun words => (settingWord text, unrecognized word) ∈ words) table
      simp at listed

theorem readsBack_parse (text : String) : (parse text).ReadsBack := by
  rw [ReadsBack]
  cases read : parse text with
  | unrecognized word =>
      obtain rfl := eq_of_parse_eq_unrecognized read
      exact read
  | _ => decide

/-- The name is written as it is, but for a word that was not understood, which stands in an
object. -/
theorem toJson_cases (operator : Operator) :
    operator.toJson = .string operator.name ∨
      ∃ word, operator = .unrecognized word ∧
        operator.toJson = .object [("unrecognized", .string operator.name)] := by
  cases operator with
  | unrecognized word => exact .inr ⟨word, rfl, rfl⟩
  | _ => exact .inl rfl

end Operator

def ConditionGroup.operators (group : ConditionGroup) : List Operator :=
  group.rules.map Rule.operator

namespace Item

def icons (item : Item) : List Icon :=
  item.icon.toList

def operators (item : Item) : List Operator :=
  item.conditions.flatMap ConditionGroup.operators

end Item

namespace Group

def icons (group : Group) : List Icon :=
  [group.icon] ++ group.items.flatMap Item.icons

def operators (group : Group) : List Operator :=
  group.conditions.flatMap ConditionGroup.operators ++ group.items.flatMap Item.operators

end Group

namespace Document

def icons (document : Document) : List Icon :=
  [document.defaultIcon, document.clearAllFields.icon, document.selectiveClear.icon] ++
    document.groups.flatMap Group.icons ++ document.ungroupedItems.flatMap Item.icons

def operators (document : Document) : List Operator :=
  document.groups.flatMap Group.operators ++ document.ungroupedItems.flatMap Item.operators

end Document

structure AllReadBack (icons : List Icon) (operators : List Operator) : Prop where
  icons : ∀ icon ∈ icons, icon.ReadsBack
  operators : ∀ operator ∈ operators, operator.ReadsBack

namespace AllReadBack

theorem append {icons others : List Icon} {operators more : List Operator}
    (first : AllReadBack icons operators) (second : AllReadBack others more) :
    AllReadBack (icons ++ others) (operators ++ more) where
  icons := List.forall_mem_append.mpr ⟨first.icons, second.icons⟩
  operators := List.forall_mem_append.mpr ⟨first.operators, second.operators⟩

theorem flatMap {α : Type} {entries : List α} {icons : α → List Icon} {operators : α → List Operator}
    (each : ∀ entry ∈ entries, AllReadBack (icons entry) (operators entry)) :
    AllReadBack (entries.flatMap icons) (entries.flatMap operators) where
  icons := List.forall_mem_flatMap.mpr fun entry member => (each entry member).icons
  operators := List.forall_mem_flatMap.mpr fun entry member => (each entry member).operators

end AllReadBack

theorem icon?_readsBack (text : List Char) (key : String) :
    ∀ icon ∈ icon? text key, icon.ReadsBack := by
  intro icon found
  obtain ⟨spec, _, rfl⟩ := Option.map_eq_some_iff.mp found
  exact Icon.readsBack_parse spec

theorem getD_icon?_readsBack (text : List Char) (key : String) {given : Icon}
    (readsBack : given.ReadsBack) : ((icon? text key).getD given).ReadsBack := by
  cases found : icon? text key with
  | none => exact readsBack
  | some icon => exact icon?_readsBack text key icon found

theorem Rule.readsBack_of_read {text : List Char} {rule : Rule}
    (reads : (Rule.read text).value = some rule) : rule.operator.ReadsBack := by
  rw [Rule.read] at reads
  split at reads
  · cases reads
  · cases reads
    dsimp only
    cases string? text "operator" with
    | none => decide
    | some word =>
        rw [Option.map_some, Option.getD_some]
        exact Operator.readsBack_parse word

theorem ConditionGroup.readsBack_of_read {text : List Char} {group : ConditionGroup}
    (reads : (ConditionGroup.read text).value = some group) :
    ∀ operator ∈ group.operators, operator.ReadsBack := by
  rw [ConditionGroup.read] at reads
  simp only [Noted.value_bind] at reads
  split at reads
  · cases reads
  · cases reads
    exact List.forall_mem_map.mpr
      (Noted.forall_mem_filterMap (fun _ _ => Rule.readsBack_of_read) _)

theorem ConditionGroup.readsBack_of_readAll (text : List Char) :
    ∀ operator ∈ (ConditionGroup.readAll text).value.flatMap ConditionGroup.operators,
      operator.ReadsBack :=
  List.forall_mem_flatMap.mpr
    (Noted.forall_mem_filterMap (fun _ _ => ConditionGroup.readsBack_of_read) _)

theorem Item.readBack_of_read {text : List Char} {item : Item}
    (reads : (Item.read text).value = some item) : AllReadBack item.icons item.operators := by
  rw [Item.read] at reads
  split at reads
  · cases reads
    exact
      { icons := fun icon member => icon?_readsBack _ _ icon (Option.mem_toList.mp member)
        operators := ConditionGroup.readsBack_of_readAll text }
  · cases reads

theorem Item.readBack_of_readAll (texts : List (List Char)) :
    AllReadBack ((Noted.filterMap Item.read texts).value.flatMap Item.icons)
      ((Noted.filterMap Item.read texts).value.flatMap Item.operators) :=
  .flatMap (Noted.forall_mem_filterMap (fun _ _ => Item.readBack_of_read) texts)

theorem Group.readBack_of_read {settings : Settings} (given : settings.defaultIcon.ReadsBack)
    {text : List Char} {group : Group} (reads : (Group.read settings text).value = some group) :
    AllReadBack group.icons group.operators := by
  rw [Group.read] at reads
  split at reads
  · cases reads
    have own := List.forall_mem_singleton.mpr
      (getD_icon?_readsBack (withoutArray text "items") "icon" given)
    exact .append ⟨own, ConditionGroup.readsBack_of_readAll _⟩ (Item.readBack_of_readAll _)
  · cases reads

namespace Document

theorem readBack_readEntries (text : List Char) :
    AllReadBack (readEntries text).value.icons (readEntries text).value.operators := by
  have icon (key : String) {given : Icon} (readsBack : given.ReadsBack) :=
    getD_icon?_readsBack (withoutArrays text ["groups", "ungroupedItems"]) key readsBack
  have settings : AllReadBack [(readEntries text).value.defaultIcon,
      (readEntries text).value.clearAllFields.icon,
      (readEntries text).value.selectiveClear.icon] [] := by
    refine ⟨?_, List.forall_mem_nil _⟩
    refine List.forall_mem_cons.mpr ⟨icon _ (Icon.readsBack_parse "default"), ?_⟩
    refine List.forall_mem_cons.mpr ⟨icon _ (Icon.readsBack_parse "delete"), ?_⟩
    exact List.forall_mem_singleton.mpr (icon _ (Icon.readsBack_parse "delete"))
  have groups : ∀ group ∈ (readEntries text).value.groups,
      AllReadBack group.icons group.operators := by
    rw [groups_readEntries, ← Noted.value_filterMap]
    exact Noted.forall_mem_filterMap
      (fun _ _ => Group.readBack_of_read (settings.icons _ List.mem_cons_self)) _
  exact (settings.append (.flatMap groups)).append (Item.readBack_of_readAll _)

theorem readBack_build (text : String) (logDropped : Bool) :
    AllReadBack (build text logDropped).document.icons
      (build text logDropped).document.operators := by
  cases empty : (readEntries text.toList).value.isEmpty with
  | true =>
      rw [(build_of_empty logDropped empty).1]
      exact ⟨by decide, by decide⟩
  | false =>
      rw [(build_of_filled logDropped empty).1]
      exact readBack_readEntries text.toList

end Document

/-- Every text settles on one spelling of an icon, and of an operator: what is read from it is read
again from its own text.  So every icon and operator of a document, whatever text it was built from,
is read back from the string that is written for it. -/
theorem spelling_settled :
    (∀ spec, Icon.parse (Icon.parse spec).text = Icon.parse spec) ∧
      (∀ word, Operator.parse (Operator.parse word).name = Operator.parse word) ∧
      ∀ text logDropped, let document := (Document.build text logDropped).document
        (∀ icon ∈ document.icons,
          icon.toJson = .string icon.text ∧ Icon.parse icon.text = icon) ∧
        ∀ operator ∈ document.operators,
          (operator.toJson = .string operator.name ∨
            ∃ word, operator = .unrecognized word ∧
              operator.toJson = .object [("unrecognized", .string operator.name)]) ∧
          Operator.parse operator.name = operator := by
  refine ⟨Icon.readsBack_parse, Operator.readsBack_parse, fun text logDropped => ?_⟩
  obtain ⟨icons, operators⟩ := Document.readBack_build text logDropped
  exact ⟨fun icon member => ⟨rfl, icons icon member⟩,
    fun operator member => ⟨operator.toJson_cases, operators operator member⟩⟩

/-- The padding and the letter case of a kind go, those of a word that was not understood stay. -/
theorem spelling_settled_padded :
    let text := "\x7b\"ungroupedItems\":[\x7b\"fieldName\":\"F\",\"menuLabel\":\"F\"," ++
      "\"icon\":\" MEDIA: Star \",\"conditions\":[\x7b\"rules\":[" ++
      "\x7b\"field\":\"X\",\"operator\":\" NotIn\"\x7d," ++
      "\x7b\"field\":\"X\",\"operator\":\" Starts\"\x7d]\x7d]\x7d]\x7d"
    let document := (Document.build text).document
    (Icon.media "Star" ∈ document.icons ∧ Operator.notIn ∈ document.operators ∧
        Operator.unrecognized " Starts" ∈ document.operators) ∧
      Icon.parse "media:Star" = .media "Star" ∧ Operator.parse "notIn" = .notIn ∧
      Operator.parse " Starts" = .unrecognized " Starts" := by
  intro text document
  obtain ⟨icons, operators⟩ := spelling_settled.2.2 text true
  obtain ⟨media, notIn, starts⟩ : Icon.media "Star" ∈ document.icons ∧
      Operator.notIn ∈ document.operators ∧
      Operator.unrecognized " Starts" ∈ document.operators := by
    decide +kernel
  have star : (Icon.media "Star").text = "media:Star" := by decide
  have mediaBack := (icons _ media).2
  rw [star] at mediaBack
  exact ⟨⟨media, notIn, starts⟩, mediaBack, (operators _ notIn).2, (operators _ starts).2⟩

end FieldMenu
