import FieldMenu.Proofs.Library.Persist
import FieldMenu.Proofs.Record.Format

namespace FieldMenu.Library

theorem parse?_text (records : List Record) : parse? (text records) = some records := by
  have plain : (Json.array (records.map Record.toJson)).Plain := by
    refine .array fun item member => ?_
    obtain ⟨record, _, rfl⟩ := List.mem_map.mp member
    exact record.plain_toJson
  rw [parse?, text, Json.read?_indented plain, Option.bind_some]
  exact Json.readArray?_map Record.ofJson?_toJson records

theorem openFile_of_readText {directory : Directory} {path : String} {records : List Record}
    (holds : directory.readText path = .ok (text records)) :
    openFile directory path = .ok { path, records } := by
  rw [openFile, holds]
  simp only [parse?_text]

/-- Nothing of a record is lost in its JSON value.  So whenever a batch has been persisted, opening
the file gives the library as it is in memory. -/
theorem persist_reload :
    (∀ record : Record, Record.ofJson? record.toJson = some record) ∧
    ∀ (library : Library) (directory : Directory) (batch : List Record),
      let persisted := library.persist directory batch
      persisted.result = .ok () →
        openFile persisted.directory library.path = .ok persisted.library := by
  refine ⟨Record.ofJson?_toJson, ?_⟩
  intro library directory batch persisted done
  obtain ⟨saved, saves, whole⟩ := persist_eq_of_ok done
  have same : persisted = _ := whole
  rw [same]
  exact openFile_of_readText (save_eq_ok saves)

/-- A record whose members are empty or left out, with a blank and a repeated field name, is saved
beside another one and comes back. -/
theorem persist_reload_sparse :
    let doom : Record :=
      { id := "1", title := "", platform := some "", genres := [""], releaseYear := some (-1)
        customFields := [{ name := " ", value := "\"\\" }, { name := " ", value := "" }] }
    let quake : Record := { id := "2", title := "Quake" }
    let library : Library := { path := "library.json", records := [doom, quake] }
    let persisted := library.persist {} [{ quake with locked := true }]
    persisted.result = .ok () ∧
      openFile persisted.directory "library.json" =
        .ok { path := "library.json", records := [doom, { quake with locked := true }] } := by
  intro doom quake library persisted
  have writable : Directory.Writable {} library.path ["library.json"] :=
    ⟨by decide, by decide, by decide⟩
  have draftWritable : Directory.Writable {} library.draftPath ["library.json.tmp"] :=
    ⟨by decide, by decide, by decide⟩
  have saved : persisted.result = .ok () := persist_eq_ok (by decide) writable draftWritable
  have merged : persisted.library =
      { path := "library.json", records := [doom, { quake with locked := true }] } := by
    obtain ⟨after, _, whole⟩ := persist_eq_of_ok saved
    have same : persisted = _ := whole
    rw [same]
    rfl
  refine ⟨saved, ?_⟩
  rw [← merged]
  exact persist_reload.2 library {} [{ quake with locked := true }] saved

end FieldMenu.Library
