import FieldMenu.Proofs.Layout.Written
import Mathlib.Data.List.Nodup

namespace FieldMenu

open Scan Text Layout

def Json.Rendering (json : Json) (text : List Char) : Prop :=
  ∃ (lead trail : Space) (body : List Char),
    json.Written body ∧ text = lead.text ++ body ++ trail.text

theorem Json.Written.rendering {json : Json} {text : List Char} (written : json.Written text) :
    json.Rendering text :=
  ⟨{}, {}, text, written, by simp⟩

namespace Layout

def listed {α : Type} (toJson : α → Json) (trees : Option (List α)) : Option Json :=
  trees.map fun trees => .array (trees.map toJson)

def present (members : List (String × Option Json)) : List (String × Json) :=
  members.filterMap fun member => member.2.map fun value => (member.1, value)

def without (members : List (String × Option Json)) (key : String) :
    List (String × Option Json) :=
  members.filter fun member => member.1 != key

theorem mem_present {members : List (String × Option Json)} {name : String} {value : Json} :
    (name, value) ∈ present members ↔ (name, some value) ∈ members := by
  simp only [present, List.mem_filterMap, Option.map_eq_some_iff, Prod.mk.injEq]
  constructor
  · rintro ⟨⟨_, _⟩, member, _, rfl, rfl, rfl⟩
    exact member
  · intro member
    exact ⟨_, member, value, rfl, rfl, rfl⟩

theorem present_without (members : List (String × Option Json)) (key : String) :
    present (without members key) = (present members).filter fun member => member.1 != key := by
  induction members with
  | nil => rfl
  | cons member members ih =>
      obtain ⟨name, value⟩ := member
      simp only [present, without] at ih ⊢
      cases value <;> by_cases same : name = key <;> simp [same, ih]

theorem names_present_sublist (members : List (String × Option Json)) :
    ((present members).map Prod.fst).Sublist (members.map Prod.fst) := by
  induction members with
  | nil => exact .slnil
  | cons member members ih =>
      obtain ⟨name, value⟩ := member
      simp only [present] at ih ⊢
      cases value with
      | none => simpa using ih.cons name
      | some value => simpa using ih.cons_cons name

/-- Names that tell the members of an object apart, whatever the letter case. -/
def Distinct (names : List String) : Prop :=
  (names.map fun name => asciiLowered name.toList).Nodup ∧
    ∀ name ∈ names, isName name.toList = true

instance (names : List String) : Decidable (Distinct names) :=
  inferInstanceAs (Decidable (_ ∧ _))

theorem Distinct.of_subset {names words : List String} (distinct : Distinct words)
    (known : ∀ name ∈ names, name ∈ words) (nodup : names.Nodup) : Distinct names where
  left := nodup.map_on fun left leftMember right rightMember same =>
    List.inj_on_of_nodup_map distinct.1 (known left leftMember) (known right rightMember) same
  right name member := distinct.2 name (known name member)

theorem Distinct.apart {words : List String} (distinct : Distinct words) {key : String}
    {names : List String} (keyKnown : key ∈ words) (known : ∀ name ∈ names, name ∈ words)
    (fresh : key ∉ names) : Json.Apart key names where
  keyNamed := distinct.2 key keyKnown
  named name member := distinct.2 name (known name member)
  other name member same := by
    rw [List.inj_on_of_nodup_map distinct.1 (known name member) keyKnown same] at member
    exact fresh member

theorem Distinct.tail {name : String} {names : List String} (distinct : Distinct (name :: names)) :
    Distinct names :=
  ⟨(List.nodup_cons.mp distinct.1).2, fun other member =>
    distinct.2 other (List.mem_cons_of_mem _ member)⟩

/-- The values of the members hold no names but these. -/
def Nested (inner : List String) (members : List (String × Option Json)) : Prop :=
  ∀ name value, (name, some value) ∈ members → value.NamedBy inner

namespace Nested

variable {names : List String} {members : List (String × Option Json)}

theorem nil (names : List String) : Nested names [] :=
  fun _ _ member => absurd member List.not_mem_nil

theorem cons {key : String} {value : Option Json}
    (first : ∀ json, value = some json → json.NamedBy names) (others : Nested names members) :
    Nested names ((key, value) :: members) := by
  intro name json member
  rcases List.mem_cons.mp member with same | later
  · exact first json (congrArg Prod.snd same).symm
  · exact others name json later

theorem listed {α : Type} {toJson : α → Json} (named : ∀ tree, (toJson tree).NamedBy names)
    {key : String} {trees : Option (List α)} (others : Nested names members) :
    Nested names ((key, Layout.listed toJson trees) :: members) := by
  refine others.cons fun json there => ?_
  obtain ⟨trees, _, rfl⟩ := Option.map_eq_some_iff.mp there
  refine .array fun item member => ?_
  obtain ⟨tree, _, rfl⟩ := List.mem_map.mp member
  exact named tree

theorem mono {more : List String} (nested : Nested names members)
    (within : ∀ name ∈ names, name ∈ more) : Nested more members :=
  fun name value member => (nested name value member).mono within

theorem tail {member : String × Option Json} (nested : Nested names (member :: members)) :
    Nested names members :=
  fun name value there => nested name value (List.mem_cons_of_mem _ there)

theorem append {more : List (String × Option Json)} (left : Nested names members)
    (right : Nested names more) : Nested names (members ++ more) := by
  intro name value member
  rcases List.mem_append.mp member with first | later
  · exact left name value first
  · exact right name value later

theorem namedBy (nested : Nested names members)
    (known : ∀ name ∈ members.map Prod.fst, name ∈ names) :
    (Json.object (present members)).NamedBy names := by
  refine .object ?_ ?_
  · intro member there
    exact known _ ((names_present_sublist members).subset (List.mem_map_of_mem there))
  · rintro ⟨name, value⟩ there
    exact nested name value (mem_present.mp there)

end Nested

/-- What a search for `key` needs of the members: distinct names, and a key that is none of the
names inside their values. -/
structure Searchable (key : String) (members : List (String × Option Json))
    (inner : List String) : Prop where
  distinct : Distinct (members.map Prod.fst)
  apart : Json.Apart key inner
  nested : Nested inner members

/-- Fields that write the members of an object, in some order. -/
def Lays (members : List (String × Json)) (fields : List Field) : Prop :=
  ∃ entries : List Entry, (entries.map Entry.member).Perm members ∧
    (∀ entry ∈ entries,
      asciiLowered entry.nameText = asciiLowered (escape entry.name.toList)) ∧
    (∀ entry ∈ entries, entry.value.Written entry.valueText) ∧
    fields.map Field.core = entries.map Entry.texts

namespace Lays

variable {members : List (String × Json)} {fields : List Field}

theorem written (lays : Lays members fields) (blank : Space) :
    (Json.object members).Written (objectText blank fields) := by
  obtain ⟨entries, order, spelled, written, laid⟩ := lays
  exact .object blank fields entries order spelled written laid

theorem of_core {others : List Field} (lays : Lays members fields)
    (same : others.map Field.core = fields.map Field.core) : Lays members others := by
  obtain ⟨entries, order, spelled, written, laid⟩ := lays
  exact ⟨entries, order, spelled, written, same.trans laid⟩

end Lays

theorem exists_lays {members : List (String × Json)} {text : List Char}
    (written : (Json.object members).Written text) :
    ∃ (blank : Space) (fields : List Field), text = objectText blank fields ∧
      Lays members fields := by
  cases written with
  | object blank fields entries order spelled written laid =>
      exact ⟨blank, fields, rfl, entries, order, spelled, written, laid⟩

section

variable {key : String} {members : List (String × Option Json)} {inner : List String}
  {text : List Char} {fields : List Field}

theorem eq_of_same_letters (distinct : Distinct (members.map Prod.fst))
    {left right : String × Option Json} (leftMember : left ∈ members)
    (rightMember : right ∈ members)
    (same : asciiLowered left.1.toList = asciiLowered right.1.toList) : left = right := by
  have nodup : (members.map fun member => asciiLowered member.1.toList).Nodup := by
    simpa [Function.comp_def] using distinct.1
  exact List.inj_on_of_nodup_map nodup leftMember rightMember same

theorem nodup_present (distinct : Distinct (members.map Prod.fst)) :
    ((present members).map fun member => asciiLowered member.1.toList).Nodup := by
  have sublist := (names_present_sublist members).map fun name => asciiLowered name.toList
  simpa [Function.comp_def] using sublist.nodup distinct.1

theorem isName_of_mem_present (distinct : Distinct (members.map Prod.fst))
    {member : String × Json} (there : member ∈ present members) :
    isName member.1.toList = true :=
  distinct.2 _ ((names_present_sublist members).subset (List.mem_map_of_mem there))

theorem sameLetters_nameText (distinct : Distinct (members.map Prod.fst)) {entries : List Entry}
    (order : (entries.map Entry.member).Perm (present members))
    (spelled : ∀ entry ∈ entries,
      asciiLowered entry.nameText = asciiLowered (escape entry.name.toList)) :
    ∀ entry ∈ entries, asciiLowered entry.nameText = asciiLowered entry.name.toList := by
  intro entry member
  have plain : isName entry.name.toList = true :=
    isName_of_mem_present distinct (order.mem_iff.mp (List.mem_map_of_mem member))
  rw [spelled entry member, escape_of_isName plain]

namespace Lays

theorem exists_member (distinct : Distinct (members.map Prod.fst))
    (lays : Lays (present members) fields) {field : Field} (there : field ∈ fields) :
    ∃ member ∈ present members, asciiLowered field.name = asciiLowered member.1.toList ∧
      member.2.Written field.value := by
  obtain ⟨entries, order, spelled, written, laid⟩ := lays
  obtain ⟨entry, entryMember, name, value⟩ := exists_entry laid there
  refine ⟨entry.member, order.mem_iff.mp (List.mem_map_of_mem entryMember), ?_, ?_⟩
  · rw [← name]
    exact sameLetters_nameText distinct order spelled entry entryMember
  · rw [← value]
    exact written entry entryMember

theorem names_perm (distinct : Distinct (members.map Prod.fst))
    (lays : Lays (present members) fields) :
    (fields.map fun field => asciiLowered field.name).Perm
      ((present members).map fun member => asciiLowered member.1.toList) := by
  obtain ⟨entries, order, spelled, written, laid⟩ := lays
  have names := congrArg (List.map fun core => asciiLowered core.1) laid
  have inOrder := order.map fun member => asciiLowered member.1.toList
  rw [List.map_map, List.map_map] at names
  rw [List.map_map] at inOrder
  refine (List.Perm.of_eq ?_).trans inOrder
  exact names.trans (List.map_congr_left (sameLetters_nameText distinct order spelled))

theorem nodup (distinct : Distinct (members.map Prod.fst))
    (lays : Lays (present members) fields) :
    (fields.map fun field => asciiLowered field.name).Nodup :=
  (lays.names_perm distinct).nodup_iff.mpr (nodup_present distinct)

theorem filter (distinct : Distinct (members.map Prod.fst))
    (lays : Lays (present members) fields) (keep : List Char → Bool) :
    Lays ((present members).filter fun member => keep (asciiLowered member.1.toList))
      (fields.filter fun field => keep (asciiLowered field.name)) := by
  obtain ⟨entries, order, spelled, written, laid⟩ := lays
  have kept : entries.filter (fun entry => keep (asciiLowered entry.nameText)) =
      entries.filter fun entry => keep (asciiLowered entry.name.toList) :=
    List.filter_congr fun entry member => by
      rw [sameLetters_nameText distinct order spelled entry member]
  refine ⟨entries.filter fun entry => keep (asciiLowered entry.name.toList), ?_, ?_, ?_, ?_⟩
  · have filtered := order.filter fun member => keep (asciiLowered member.1.toList)
    rwa [List.filter_map] at filtered
  · exact fun entry member => spelled entry (List.mem_of_mem_filter member)
  · exact fun entry member => written entry (List.mem_of_mem_filter member)
  · have filtered := congrArg (List.filter fun core => keep (asciiLowered core.1)) laid
    rw [List.filter_map, List.filter_map] at filtered
    rw [← kept]
    exact filtered

theorem quiet (searchable : Searchable key members inner)
    (lays : Lays (present members) fields) {field : Field} (there : field ∈ fields)
    (other : asciiLowered field.name ≠ asciiLowered key.toList) : field.Quiet key := by
  obtain ⟨member, inPresent, name, written⟩ := lays.exists_member searchable.distinct there
  have inMembers := mem_present.mp inPresent
  have plain := isName_of_mem_present searchable.distinct inPresent
  exact ⟨isName_of_sameLetters plain name, other,
    written.quiet (searchable.nested _ _ inMembers) searchable.apart⟩

theorem quiet_of_absent (searchable : Searchable key members inner)
    (absent : (key, none) ∈ members) (lays : Lays (present members) fields) :
    ∀ field ∈ fields, field.Quiet key := by
  intro field there
  refine lays.quiet searchable there fun same => ?_
  obtain ⟨member, inPresent, name, _⟩ := lays.exists_member searchable.distinct there
  have equal := eq_of_same_letters searchable.distinct (mem_present.mp inPresent) absent
    (name.symm.trans same)
  cases congrArg Prod.snd equal

theorem exists_field (searchable : Searchable key members inner) {value : Json}
    (there : (key, some value) ∈ members) (lays : Lays (present members) fields) :
    ∃ (before : List Field) (field : Field) (after : List Field),
      fields = before ++ field :: after ∧ (∀ other ∈ before, other.Quiet key) ∧
      asciiLowered field.name = asciiLowered key.toList ∧ value.Written field.value ∧
      Lays (present (without members key)) (before ++ after) := by
  have distinct := searchable.distinct
  have inNames := (lays.names_perm distinct).mem_iff.mpr
    (List.mem_map_of_mem (mem_present.mpr there))
  obtain ⟨field, fieldMember, same⟩ := List.mem_map.mp inNames
  obtain ⟨before, after, rfl⟩ := List.append_of_mem fieldMember
  have others : ∀ other ∈ before ++ after,
      asciiLowered other.name ≠ asciiLowered key.toList := by
    have nodup := lays.nodup distinct
    rw [List.map_append, List.map_cons, List.nodup_middle, List.nodup_cons,
      ← List.map_append] at nodup
    intro other member equal
    exact nodup.1 (List.mem_map.mpr ⟨other, member, equal.trans same.symm⟩)
  refine ⟨before, field, after, rfl, ?_, same, ?_, ?_⟩
  · intro other member
    exact lays.quiet searchable (List.mem_append_left _ member)
      (others other (List.mem_append_left _ member))
  · obtain ⟨member, inPresent, name, written⟩ := lays.exists_member distinct fieldMember
    have equal := eq_of_same_letters distinct (mem_present.mp inPresent) there
      (name.symm.trans same)
    rwa [Option.some_inj.mp (congrArg Prod.snd equal)] at written
  · have left := lays.filter distinct fun word => word != asciiLowered key.toList
    have keeps {fields : List Field} (within : ∀ other ∈ fields, other ∈ before ++ after) :
        fields.filter (fun field => asciiLowered field.name != asciiLowered key.toList) =
          fields :=
      List.filter_eq_self.mpr fun other member =>
        bne_iff_ne.mpr (others other (within other member))
    rw [List.filter_append, List.filter_cons_of_neg (by simp [same]),
      keeps fun _ => List.mem_append_left _, keeps fun _ => List.mem_append_right _] at left
    have names : ∀ member ∈ present members, (member.1 != key) =
        (asciiLowered member.1.toList != asciiLowered key.toList) := by
      intro member inPresent
      rw [Bool.eq_iff_iff, bne_iff_ne, bne_iff_ne, not_iff_not]
      constructor
      · rintro rfl
        rfl
      · intro equal
        exact congrArg Prod.fst
          (eq_of_same_letters distinct (mem_present.mp inPresent) there equal)
    rw [present_without, List.filter_congr names]
    exact left

end Lays

theorem passes_of_absent (searchable : Searchable key members inner)
    (absent : (key, none) ∈ members)
    (rendering : (Json.object (present members)).Rendering text) : Passes key text := by
  obtain ⟨lead, trail, body, written, rfl⟩ := rendering
  obtain ⟨blank, fields, rfl, lays⟩ := exists_lays written
  refine ((passes_space lead).append ?_).append (passes_space trail)
  exact passes_object searchable.apart.keyNamed (lays.quiet_of_absent searchable absent)

theorem exists_field_of_present (searchable : Searchable key members inner) {value : Json}
    (there : (key, some value) ∈ members)
    (rendering : (Json.object (present members)).Rendering text) :
    ∃ (lead blank trail : Space) (before after : List Field) (field : Field),
      text = lead.text ++ objectText blank (before ++ field :: after) ++ trail.text ∧
      (∀ other ∈ before, other.Quiet key) ∧
      asciiLowered field.name = asciiLowered key.toList ∧ value.Written field.value ∧
      Lays (present (without members key)) (before ++ after) := by
  obtain ⟨lead, trail, body, written, rfl⟩ := rendering
  obtain ⟨blank, fields, rfl, lays⟩ := exists_lays written
  obtain ⟨before, field, after, rfl, found⟩ := lays.exists_field searchable there
  exact ⟨lead, blank, trail, before, after, field, rfl, found⟩

def isAmong (fields : List Field) (name : String) : Bool :=
  fields.any fun field => asciiLowered field.name = asciiLowered name.toList

theorem Lays.front (distinct : Distinct (members.map Prod.fst)) {before after : List Field}
    (lays : Lays (present members) (before ++ after)) :
    Lays ((present members).filter fun member => isAmong before member.1) before := by
  have nodup := lays.nodup distinct
  rw [List.map_append, List.nodup_append] at nodup
  have filtered := lays.filter distinct fun word =>
    before.any fun field => asciiLowered field.name = word
  have kept : (before.filter fun field =>
      before.any fun other => asciiLowered other.name = asciiLowered field.name) = before :=
    List.filter_eq_self.mpr fun field member =>
      List.any_eq_true.mpr ⟨field, member, decide_eq_true rfl⟩
  have gone : (after.filter fun field =>
      before.any fun other => asciiLowered other.name = asciiLowered field.name) = [] := by
    refine List.filter_eq_nil_iff.mpr fun field member known => ?_
    obtain ⟨other, otherMember, same⟩ := List.any_eq_true.mp known
    exact nodup.2.2 _ (List.mem_map_of_mem otherMember) _ (List.mem_map_of_mem member)
      (of_decide_eq_true same)
  rwa [List.filter_append, kept, gone, List.append_nil] at filtered

end

end Layout

end FieldMenu
