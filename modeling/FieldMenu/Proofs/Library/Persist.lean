import FieldMenu.Proofs.Files.Directory
import FieldMenu.Proofs.Library.Merge
import Mathlib.Data.List.Forall2

namespace FieldMenu.Library

/-- The places that the records of a selection are copied from, in the order of the selection. -/
def places (library : Library) (ids : List String) : List Nat :=
  if ids.isEmpty then List.range library.records.length
  else ids.map fun id => library.records.findIdx fun record => record.id == id

theorem forall₂_of_mapM {ε α β : Type} {step : α → Except ε β} {inputs : List α}
    {results : List β} (done : inputs.mapM step = .ok results) :
    List.Forall₂ (fun input result => step input = .ok result) inputs results := by
  induction inputs generalizing results with
  | nil =>
      cases done
      exact .nil
  | cons input inputs ih =>
      rw [List.mapM_cons, bind_eq_ok_iff] at done
      obtain ⟨first, here, done⟩ := done
      obtain ⟨rest, later, done⟩ := bind_eq_ok_iff.mp done
      cases done
      exact .cons here (ih later)

section

variable {library : Library} {ids : List String} {selection batch : List Record}

theorem find?_of_select (selected : library.select ids = .ok selection) (named : ids ≠ []) :
    List.Forall₂ (fun id picked => library.find? id = some picked) ids selection := by
  rw [select, if_neg (by simpa using named)] at selected
  refine (forall₂_of_mapM selected).imp fun id picked found => ?_
  cases stored : library.find? id with
  | none =>
      rw [stored] at found
      cases found
  | some record =>
      rw [stored] at found
      cases found
      rfl

theorem id_of_find? {id : String} {record : Record} (found : library.find? id = some record) :
    record.id = id := by
  have same := List.find?_some found
  exact beq_iff_eq.mp same

/-- The record is copied from this place, which is the first one of its id. -/
structure Copied (library : Library) (place : Nat) (picked : Record) : Prop where
  stored : library.records[place]? = some picked
  isFirst : IsFirst library.records picked place

theorem copied_of_find? {id : String} {picked : Record} (found : library.find? id = some picked) :
    library.Copied (library.records.findIdx fun record => record.id == id) picked := by
  refine ⟨List.find?_eq_getElem?_findIdx.symm.trans found, ?_⟩
  rw [IsFirst, id_of_find? found]
  exact List.findIdx_map _ _ _

theorem copied_of_distinct (distinct : (library.records.map Record.id).Nodup) :
    List.Forall₂ library.Copied (List.range library.records.length) library.records := by
  rw [List.forall₂_iff_get]
  refine ⟨List.length_range, fun place _ inside => ?_⟩
  rw [List.get_eq_getElem, List.get_eq_getElem, List.getElem_range]
  refine ⟨List.getElem?_eq_getElem inside, ?_⟩
  have among : place < (library.records.map Record.id).length := by rwa [List.length_map]
  have first := distinct.idxOf_getElem place among
  rwa [List.getElem_map] at first

theorem copied_of_select (selected : library.select ids = .ok selection)
    (identified : ids = [] → (library.records.map Record.id).Nodup) :
    List.Forall₂ library.Copied (library.places ids) selection := by
  by_cases all : ids = []
  · subst all
    cases selected
    exact copied_of_distinct (identified rfl)
  · rw [places, if_neg (by simpa using all), List.forall₂_map_left_iff]
    exact (find?_of_select selected all).imp fun _ _ => copied_of_find?

theorem map_id_of_select (selected : library.select ids = .ok selection) (named : ids ≠ []) :
    selection.map Record.id = ids := by
  have same : List.Forall₂ Eq ids (selection.map Record.id) := by
    rw [List.forall₂_map_right_iff]
    exact (find?_of_select selected named).imp fun _ _ found => (id_of_find? found).symm
  rw [List.forall₂_eq_eq_eq] at same
  exact same.symm

theorem nodup_of_select (selected : library.select ids = .ok selection) (distinct : ids.Nodup)
    (identified : ids = [] → (library.records.map Record.id).Nodup) :
    (selection.map Record.id).Nodup := by
  by_cases all : ids = []
  · subst all
    cases selected
    exact identified rfl
  · rwa [map_id_of_select selected all]

end

/-- The batch holds the records of the selection, with nothing changed but their custom fields. -/
def Retouched (selection batch : List Record) : Prop :=
  List.Forall₂ (fun picked updated =>
    updated = { picked with customFields := updated.customFields }) selection batch

theorem Retouched.map_id {selection batch : List Record} (retouched : Retouched selection batch) :
    batch.map Record.id = selection.map Record.id := by
  induction retouched with
  | nil => rfl
  | cons first _ ih => rw [List.map_cons, List.map_cons, ih, first]

/-- Records go to these places one by one, and none goes anywhere else. -/
structure PutAt (places : List Nat) (batch before after : List Record) : Prop where
  length : after.length = before.length
  replaced : List.Forall₂ (fun place updated => after[place]? = some updated) places batch
  kept : ∀ place, place ∉ places → after[place]? = before[place]?

section

variable {α β γ : Type} {first : α → β → Prop} {second : β → γ → Prop} {both : α → γ → Prop}

theorem forall₂_through {lefts : List α} {middles : List β} {rights : List γ}
    (firsts : List.Forall₂ first lefts middles) (seconds : List.Forall₂ second middles rights)
    (joined : ∀ left middle right, right ∈ rights → first left middle → second middle right →
      both left right) : List.Forall₂ both lefts rights := by
  induction firsts generalizing rights with
  | nil =>
      cases seconds
      exact .nil
  | cons here _ ih =>
      cases seconds with
      | cons there later =>
          refine .cons (joined _ _ _ List.mem_cons_self here there) (ih later ?_)
          exact fun left middle right member => joined left middle right (.tail _ member)

theorem exists_left_of_mem {lefts : List α} {middles : List β} {middle : β}
    (firsts : List.Forall₂ first lefts middles) (member : middle ∈ middles) :
    ∃ left ∈ lefts, first left middle := by
  induction firsts with
  | nil => cases member
  | cons here _ ih =>
      cases member with
      | head => exact ⟨_, List.mem_cons_self, here⟩
      | tail _ later =>
          obtain ⟨left, inside, holds⟩ := ih later
          exact ⟨left, .tail _ inside, holds⟩

end

section

variable {library : Library} {places : List Nat} {selection batch : List Record}

theorem length_merge (library : Library) (batch : List Record) :
    (library.merge batch).records.length = library.records.length := by
  have ids := congrArg List.length (map_id_foldl_replace batch library.records)
  rwa [List.length_map, List.length_map] at ids

theorem merged_of_copied {place : Nat} {picked updated : Record}
    (copied : library.Copied place picked) (sameId : updated.id = picked.id)
    (distinct : (batch.map Record.id).Nodup) (member : updated ∈ batch) :
    (library.merge batch).records[place]? = some updated := by
  rw [merge, getElem?_foldl_replace, copied.stored, Option.map_some, if_pos copied.isFirst,
    ← sameId, lastOf?_of_mem distinct member, Option.getD_some]

theorem merged_of_not_mem {place : Nat}
    (absent : ∀ stored, IsFirst library.records stored place → stored.id ∉ batch.map Record.id) :
    (library.merge batch).records[place]? = library.records[place]? := by
  rw [merge, getElem?_foldl_replace]
  have same : ∀ stored : Record,
      (if IsFirst library.records stored place then (lastOf? batch stored.id).getD stored
        else stored) = stored := by
    intro stored
    by_cases isFirst : IsFirst library.records stored place
    · rw [if_pos isFirst, lastOf?_of_not_mem (absent stored isFirst), Option.getD_none]
    · rw [if_neg isFirst]
  simp only [same, Option.map_id']

/-- A changed selection goes back to where it was copied from. -/
theorem putAt_merge (copied : List.Forall₂ library.Copied places selection)
    (distinct : (selection.map Record.id).Nodup) (retouched : Retouched selection batch) :
    PutAt places batch library.records (library.merge batch).records where
  length := length_merge library batch
  replaced := by
    have distinctBatch : (batch.map Record.id).Nodup := by rwa [retouched.map_id]
    refine forall₂_through copied retouched fun place picked updated member here changed => ?_
    exact merged_of_copied here (by rw [changed]) distinctBatch member
  kept place elsewhere := by
    refine merged_of_not_mem fun stored isFirst member => ?_
    rw [retouched.map_id, List.mem_map] at member
    obtain ⟨picked, member, sameId⟩ := member
    obtain ⟨other, inPlaces, here⟩ := exists_left_of_mem copied member
    have samePlace : other = place := by
      rw [← here.isFirst, sameId]
      exact isFirst
    exact elsewhere (samePlace ▸ inPlaces)

end

variable {directory : Directory}

theorem save_eq_ok {library : Library} {saved : Directory}
    (saves : library.save directory = (saved, .ok ())) :
    saved.readText library.path = .ok (text library.records) := by
  rw [save] at saves
  split at saves
  · cases saves
  · rename_i drafted writes
    split at saves
    · cases saves
    · rename_i renamed renames
      cases saves
      obtain ⟨beside, drafts, _⟩ := Directory.write_eq_ok writes
      have apart := Directory.resolve_append_ne (by decide) (by decide) drafts
      obtain ⟨place, found, holds⟩ := Directory.bytesAt?_of_renamed writes renames drafts apart
      exact Directory.readText_of_toUTF8 found holds

theorem exists_save_eq_ok {library : Library} {place beside : Location}
    (writable : directory.Writable library.path place)
    (draftWritable : directory.Writable library.draftPath beside) :
    ∃ saved, library.save directory = (saved, .ok ()) := by
  let drafted : Directory :=
    { directory with
      files := Directory.putFile beside (text library.records).toUTF8 directory.files }
  have writes : directory.write library.draftPath (text library.records).toUTF8 = .ok drafted :=
    Directory.write_of_writable draftWritable _
  have sameFolders : drafted.folders = directory.folders := rfl
  have holds : drafted.bytesAt? beside = some (text library.records).toUTF8 :=
    Directory.lookup_putFile_self beside _ directory.files
  have apart : beside ≠ place := by
    rintro rfl
    exact Directory.resolve_append_ne (by decide) (by decide) draftWritable.found writable.found
  obtain ⟨saved, renames⟩ :=
    Directory.rename_of_writable (draftWritable.congr sameFolders) holds
      (writable.congr sameFolders) apart
  refine ⟨saved, ?_⟩
  rw [save, writes]
  simp only [renames]

theorem find?_isNone_iff {library : Library} {id : String} :
    (library.find? id).isNone = true ↔ id ∉ library.records.map Record.id := by
  rw [find?, Option.isNone_iff_eq_none, List.find?_eq_none, List.mem_map]
  simp

theorem known_of_copied {library : Library} {places : List Nat} {selection batch : List Record}
    (copied : List.Forall₂ library.Copied places selection)
    (retouched : Retouched selection batch) :
    ∀ record ∈ batch, record.id ∈ library.records.map Record.id := by
  intro record member
  have idMember := List.mem_map_of_mem (f := Record.id) member
  rw [retouched.map_id, List.mem_map] at idMember
  obtain ⟨picked, inSelection, sameId⟩ := idMember
  obtain ⟨place, _, here⟩ := exists_left_of_mem copied inSelection
  exact List.mem_map.mpr ⟨picked, List.mem_of_getElem? here.stored, sameId⟩

theorem persist_of_known (directory : Directory) {library : Library} {batch : List Record}
    (known : ∀ record ∈ batch, record.id ∈ library.records.map Record.id) :
    (∃ saved, (library.merge batch).save directory = (saved, .ok ()) ∧
      library.persist directory batch =
        { library := library.merge batch, directory := saved, result := .ok () }) ∨
    ∃ left error, (library.merge batch).save directory = (left, .error error) ∧
      library.persist directory batch =
        { library := library.merge batch, directory := left
          result := .error (.io library.path error.message) } := by
  have none : batch.find? (fun record => (library.find? record.id).isNone) = none := by
    rw [List.find?_eq_none]
    intro record member unknown
    exact find?_isNone_iff.mp unknown (known record member)
  rw [persist, none]
  simp only
  cases (library.merge batch).save directory with
  | mk after result =>
      cases result with
      | error error => exact .inr ⟨after, error, rfl, rfl⟩
      | ok done => exact .inl ⟨after, rfl, rfl⟩

theorem persist_eq_ok {library : Library} {batch : List Record} {place beside : Location}
    (known : ∀ record ∈ batch, record.id ∈ library.records.map Record.id)
    (writable : directory.Writable library.path place)
    (draftWritable : directory.Writable library.draftPath beside) :
    (library.persist directory batch).result = .ok () := by
  have sameWritable : directory.Writable (library.merge batch).path place := writable
  obtain ⟨saved, saves⟩ := exists_save_eq_ok sameWritable draftWritable
  obtain ⟨_, _, persists⟩ | ⟨_, _, failed, _⟩ := persist_of_known directory known
  · rw [persists]
  · cases saves.symm.trans failed

theorem persist_of_unknown {library : Library} {batch : List Record}
    (unknown : ∃ record ∈ batch, record.id ∉ library.records.map Record.id) :
    ∃ record ∈ batch, record.id ∉ library.records.map Record.id ∧
      library.persist directory batch =
        { library, directory
          result := .error (.rejected (record.entityId ++ " is not in the library")) } := by
  obtain ⟨record, member, absent⟩ := unknown
  cases found : batch.find? (fun record => (library.find? record.id).isNone) with
  | none =>
      rw [List.find?_eq_none] at found
      exact absurd (find?_isNone_iff.mpr absent) (found record member)
  | some first =>
      have isUnknown := List.find?_some found
      refine ⟨first, List.mem_of_find?_eq_some found, find?_isNone_iff.mp isUnknown, ?_⟩
      rw [persist, found]

theorem persist_eq_of_ok {library : Library} {batch : List Record}
    (done : (library.persist directory batch).result = .ok ()) :
    ∃ saved, (library.merge batch).save directory = (saved, .ok ()) ∧
      library.persist directory batch =
        { library := library.merge batch, directory := saved, result := .ok () } := by
  by_cases known : ∀ record ∈ batch, record.id ∈ library.records.map Record.id
  · obtain whole | ⟨_, _, _, whole⟩ := persist_of_known directory known
    · exact whole
    · rw [whole] at done
      cases done
  · obtain ⟨record, unknown⟩ := not_forall.mp known
    obtain ⟨_, _, _, whole⟩ := persist_of_unknown ⟨record, Classical.not_imp.mp unknown⟩
    rw [whole] at done
    cases done

theorem persist_ne_rejected {library : Library} {batch : List Record}
    (known : ∀ record ∈ batch, record.id ∈ library.records.map Record.id) (reason : String) :
    (library.persist directory batch).result ≠ .error (.rejected reason) := by
  intro rejected
  obtain ⟨_, _, whole⟩ | ⟨_, _, _, whole⟩ := persist_of_known directory known
  · rw [whole] at rejected
    cases rejected
  · rw [whole] at rejected
    cases rejected

/-- A selection that is changed and saved: nothing in it is lost and nothing else is touched, as
long as a selection of all records has no id twice.  Of any batch, the first place of an id gets the
last record of that id, and no other place gets any.  A batch with a record that the library does
not have is rejected whole. -/
theorem persist_selection (library : Library) (directory : Directory) :
    (∀ (ids : List String) (selection batch : List Record), library.select ids = .ok selection →
      ids.Nodup → (ids = [] → (library.records.map Record.id).Nodup) →
      Retouched selection batch →
        let persisted := library.persist directory batch
        let places := library.places ids
        List.Forall₂ (fun place picked => library.records[place]? = some picked)
            places selection ∧
          (∀ reason, persisted.result ≠ .error (.rejected reason)) ∧
          (persisted.result = .ok () →
            PutAt places batch library.records persisted.library.records ∧
              persisted.directory.readText library.path = .ok (text persisted.library.records))) ∧
      (∀ batch : List Record,
        let persisted := library.persist directory batch
        persisted.result = .ok () → ∀ place,
          persisted.library.records[place]? = library.records[place]?.map fun stored =>
            if IsFirst library.records stored place then (lastOf? batch stored.id).getD stored
            else stored) ∧
      ∀ batch : List Record, (∃ record ∈ batch, record.id ∉ library.records.map Record.id) →
        ∃ record ∈ batch, record.id ∉ library.records.map Record.id ∧
          library.persist directory batch =
            { library, directory
              result := .error (.rejected (record.entityId ++ " is not in the library")) } := by
  refine ⟨?_, ?_, fun batch => persist_of_unknown⟩
  · intro ids selection batch selected distinct identified retouched persisted places
    have copied := copied_of_select selected identified
    have distinctIds := nodup_of_select selected distinct identified
    refine ⟨copied.imp fun _ _ here => here.stored,
      persist_ne_rejected (known_of_copied copied retouched), fun done => ?_⟩
    obtain ⟨saved, saves, whole⟩ := persist_eq_of_ok done
    have same : persisted = _ := whole
    rw [same]
    exact ⟨putAt_merge copied distinctIds retouched, save_eq_ok saves⟩
  · intro batch persisted done place
    obtain ⟨saved, _, whole⟩ := persist_eq_of_ok done
    have same : persisted = _ := whole
    rw [same]
    exact getElem?_foldl_replace batch library.records place

/-- Two of three records are chosen by their ids, the other way round; the third one has an id of
these too, and stays as it is. -/
theorem persist_selection_by_id :
    let doom : Record := { id := "1", title := "Doom" }
    let quake : Record := { id := "2", title := "Quake" }
    let myst : Record := { id := "1", title := "Myst" }
    let beaten : FieldStore := [{ name := "Beaten", value := "true" }]
    let library : Library := { path := "library.json", records := [doom, quake, myst] }
    let batch : List Record :=
      [{ quake with customFields := beaten }, { doom with customFields := beaten }]
    let persisted := library.persist {} batch
    library.select ["2", "1"] = .ok [quake, doom] ∧
      Retouched [quake, doom] batch ∧
      persisted.result = .ok () ∧
      persisted.library.records[0]? = some { doom with customFields := beaten } ∧
      persisted.library.records[2]? = some myst ∧
      persisted.directory.readText "library.json" = .ok (text persisted.library.records) ∧
      (library.persist {} [{ id := "9", title := "Ghost" }]).result =
        .error (.rejected "Ghost (9) is not in the library") := by
  intro doom quake myst beaten library batch persisted
  have selected : library.select ["2", "1"] = .ok [quake, doom] := by decide
  have retouched : Retouched [quake, doom] batch := .cons rfl (.cons rfl .nil)
  obtain ⟨selections, -, rejects⟩ := persist_selection library {}
  obtain ⟨-, -, saves⟩ := selections ["2", "1"] [quake, doom] batch selected (by decide)
    (fun all => nomatch all) retouched
  have writable : Directory.Writable {} library.path ["library.json"] :=
    ⟨by decide, by decide, by decide⟩
  have draftWritable : Directory.Writable {} library.draftPath ["library.json.tmp"] :=
    ⟨by decide, by decide, by decide⟩
  have saved : persisted.result = .ok () := persist_eq_ok (by decide) writable draftWritable
  obtain ⟨putAt, file⟩ := saves saved
  obtain ⟨ghost, member, _, rejected⟩ := rejects [{ id := "9", title := "Ghost" }] (by decide)
  cases List.mem_singleton.mp member
  refine ⟨selected, retouched, saved, ?_, ?_, file, congrArg Persisted.result rejected⟩
  · exact (List.forall₂_cons.mp (List.forall₂_cons.mp putAt.replaced).2).1
  · exact putAt.kept 2 (by decide)

/-- Two records with one id in the file: of a selection of all records, both updates go to the first
one, whose own data is lost, and the second one stays as it was. -/
theorem repeated_id_overwritten :
    let file := "[\x7b\"id\":\"1\",\"title\":\"Doom\"\x7d," ++
      "\x7b\"id\":\"1\",\"title\":\"Quake\"\x7d]"
    let directory : Directory := { files := [(["library.json"], file.toUTF8)] }
    let doom : Record := { id := "1", title := "Doom" }
    let quake : Record := { id := "1", title := "Quake" }
    let beaten : FieldStore := [{ name := "Beaten", value := "true" }]
    let library : Library := { path := "library.json", records := [doom, quake] }
    let batch : List Record :=
      [{ doom with customFields := beaten }, { quake with customFields := beaten }]
    openFile directory "library.json" = .ok library ∧
      library.select [] = .ok [doom, quake] ∧
      Retouched [doom, quake] batch ∧
      (library.persist directory batch).result = .ok () ∧
      (library.persist directory batch).library.records =
        [{ quake with customFields := beaten }, quake] := by
  intro file directory doom quake beaten library batch
  have found : directory.resolve "library.json" = .ok ["library.json"] := by decide
  have parses : parse? file = some [doom, quake] := by decide +kernel
  have draftWritable : directory.Writable library.draftPath ["library.json.tmp"] :=
    ⟨by decide, by decide, by decide⟩
  have saved : (library.persist directory batch).result = .ok () :=
    persist_eq_ok (by decide) ⟨found, by decide, by decide⟩ draftWritable
  refine ⟨?_, rfl, .cons rfl (.cons rfl .nil), saved, by decide⟩
  rw [openFile, Directory.readText_of_toUTF8 found (by rfl)]
  simp only [parses]
  rfl

end FieldMenu.Library
