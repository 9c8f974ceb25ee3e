import FieldMenu.Proofs.Document.Sound
import FieldMenu.Proofs.Publish.Offer

namespace FieldMenu

theorem Origin.isBuiltin_withReport (origin : Origin) (report : BuildReport) :
    (origin.withReport report).isBuiltin = (report.usedBuiltin || origin.isBuiltin) := by
  rw [withReport]
  cases report.usedBuiltin <;> cases builtin : origin.isBuiltin <;> first | rfl | exact builtin

namespace Publisher

variable {publisher : Publisher} {directory : Directory}

theorem reload_of_error {error : ConfigError}
    (refused : (publisher.source.read directory).value = .error error) :
    (publisher.reload directory).result = .error error ∧
      (publisher.reload directory).publisher = publisher := by
  rw [reload, publish]
  simp only [refused, and_self]

theorem reload_of_ok {found : SourceText}
    (read : (publisher.source.read directory).value = .ok found) :
    (publisher.reload directory).result = (publisher.put .documentReloaded found).result ∧
      (publisher.reload directory).publisher =
        (publisher.put .documentReloaded found).publisher := by
  rw [reload, publish]
  simp only [read, and_self]

end Publisher

/-- What a summary says of the document in force. -/
structure PublishSummary.Describes (summary : PublishSummary) (document : Document) : Prop where
  groupCount : summary.groupCount = document.groups.length
  ungroupedItemCount : summary.ungroupedItemCount = document.ungroupedItems.length
  origin : summary.origin.isBuiltin = true ↔ summary.report.usedBuiltin = true
  builtin : summary.report.usedBuiltin = true → document = .builtin

/-- What a reload comes to, for each thing that the source may offer. -/
def Offer.ReloadsTo (before : Publisher) (reload : Published) : Offer → Prop
  | .text content =>
      ∃ summary, reload.result = .ok summary ∧
        summary.report = (Document.build content).report ∧
        reload.publisher.current = (Document.build content).document ∧
        summary.Describes reload.publisher.current
  | .nothing =>
      ∃ summary, reload.result = .ok summary ∧
        summary.report = { usedBuiltin := true } ∧
        reload.publisher.current = .builtin ∧
        summary.Describes reload.publisher.current
  | .refused error => reload.result = .error error ∧ reload.publisher = before

theorem reload_of_offers {publisher : Publisher} {directory : Directory} {offer : Offer}
    (offers : publisher.source.Offers directory offer) :
    offer.ReloadsTo publisher (publisher.reload directory) := by
  have read := Source.read_of_offers offers
  cases offer with
  | text text =>
      obtain ⟨origin, found, notBuiltin⟩ := read
      obtain ⟨result, after⟩ := Publisher.reload_of_ok found
      obtain ⟨document, report⟩ := Document.build_congr_log text publisher.logDropped true
      refine ⟨_, result, report, ?_, ?_⟩
      · rw [after]
        exact document
      · rw [after]
        refine ⟨rfl, rfl, ?_, Document.document_of_usedBuiltin⟩
        rw [Origin.isBuiltin_withReport, notBuiltin, Bool.or_false]
  | nothing =>
      obtain ⟨reason, found⟩ := read
      obtain ⟨result, after⟩ := Publisher.reload_of_ok found
      refine ⟨_, result, rfl, ?_, ?_⟩
      · rw [after]
        rfl
      · rw [after]
        exact ⟨rfl, rfl, ⟨fun _ => rfl, fun _ => rfl⟩, fun _ => rfl⟩
  | refused error => exact Publisher.reload_of_error read

inductive Happening where
  | change (files : Directory)
  | reload
  | take

/-- A publisher among its files, with the documents that readers have taken from it, the latest one
first. -/
structure Scene where
  files : Directory
  publisher : Publisher
  taken : List Document := []

namespace Scene

def step (scene : Scene) : Happening → Scene
  | .change files => { scene with files }
  | .reload => { scene with publisher := (scene.publisher.reload scene.files).publisher }
  | .take => { scene with taken := scene.publisher.current :: scene.taken }

def run (scene : Scene) (history : List Happening) : Scene :=
  history.foldl step scene

/-- What every step keeps: the source, a document that is not empty, and what readers have taken. -/
structure Continues (before after : Scene) : Prop where
  source : after.publisher.source = before.publisher.source
  filled : before.publisher.current.isEmpty = false → after.publisher.current.isEmpty = false
  taken : before.taken <:+ after.taken

theorem continues_refl (scene : Scene) : scene.Continues scene :=
  ⟨rfl, id, List.suffix_rfl⟩

theorem Continues.trans {first second third : Scene} (earlier : first.Continues second)
    (later : second.Continues third) : first.Continues third where
  source := later.source.trans earlier.source
  filled := later.filled ∘ earlier.filled
  taken := earlier.taken.trans later.taken

end Scene

theorem Publisher.source_reload (publisher : Publisher) (directory : Directory) :
    (publisher.reload directory).publisher.source = publisher.source := by
  cases read : (publisher.source.read directory).value with
  | error error => rw [(reload_of_error read).2]
  | ok found =>
      rw [(reload_of_ok read).2]
      rfl

theorem Document.Sound.isEmpty {document : Document} (sound : document.Sound) :
    document.isEmpty = false := by
  rw [Bool.eq_false_iff, ne_eq, isEmpty_iff, Classical.not_and_iff_not_or_not]
  exact sound.filled

theorem Publisher.filled_reload {publisher : Publisher} (directory : Directory)
    (filled : publisher.current.isEmpty = false) :
    (publisher.reload directory).publisher.current.isEmpty = false := by
  obtain ⟨offer, offers⟩ := publisher.source.exists_offers directory
  have reloads := reload_of_offers offers
  cases offer with
  | text content =>
      obtain ⟨_, _, _, current, _⟩ := reloads
      rw [current]
      exact (Document.sound_build content true).isEmpty
  | nothing =>
      obtain ⟨_, _, _, current, _⟩ := reloads
      rw [current]
      exact Document.sound_builtin.isEmpty
  | refused error =>
      rw [reloads.2]
      exact filled

namespace Scene

theorem continues_step (scene : Scene) (happening : Happening) :
    scene.Continues (scene.step happening) := by
  cases happening with
  | change files => exact ⟨rfl, id, List.suffix_rfl⟩
  | reload =>
      exact
        { source := scene.publisher.source_reload scene.files
          filled := Publisher.filled_reload scene.files
          taken := List.suffix_rfl }
  | take => exact ⟨rfl, id, List.suffix_cons _ _⟩

theorem continues_run (scene : Scene) (history : List Happening) :
    scene.Continues (scene.run history) := by
  induction history generalizing scene with
  | nil => exact scene.continues_refl
  | cons happening history ih => exact (scene.continues_step happening).trans (ih _)

end Scene

/-- After any history, the document in force is not empty, and a reload does what the source calls
for: it puts the document of the text in force, or the built-in one where there is nothing, or it is
refused and changes nothing.  A document that is taken then stays as it is, whatever follows. -/
theorem publishing_history (start : Scene) (filled : start.publisher.current.isEmpty = false)
    (history : List Happening) :
    let scene := start.run history
    let source := start.publisher.source
    scene.publisher.source = source ∧
      scene.publisher.current.isEmpty = false ∧
      (∃ offer, source.Offers scene.files offer) ∧
      (∀ offer, source.Offers scene.files offer →
        offer.ReloadsTo scene.publisher (scene.publisher.reload scene.files)) ∧
      ∀ later, ∃ newer, (start.run (history ++ .take :: later)).taken =
        newer ++ scene.publisher.current :: scene.taken := by
  intro scene source
  have continues := start.continues_run history
  refine ⟨continues.source, continues.filled filled, source.exists_offers scene.files,
    fun offer offers => ?_, fun later => ?_⟩
  · have same : scene.publisher.source.Offers scene.files offer := by
      rw [continues.source]
      exact offers
    exact reload_of_offers same
  · obtain ⟨newer, whole⟩ := ((scene.step .take).continues_run later).taken
    refine ⟨newer, ?_⟩
    rw [Scene.run, List.foldl_append]
    exact whole.symm

/-- A file of one item is put in force and taken.  A folder in its place is refused, and what is in
force and what was taken stay; when nothing is there any more, the built-in document takes over. -/
theorem publishing_history_replaced :
    let done : Item := { fieldName := "Done", menuLabel := "Done" }
    let text := "\x7b\"ungroupedItems\":" ++
      "[\x7b\"fieldName\":\"Done\",\"menuLabel\":\"Done\"\x7d]\x7d"
    let start : Scene :=
      { files := { files := [(["menu.json"], text.toUTF8)] }
        publisher := { source := .file "menu.json" } }
    let replaced : Directory := { folders := [["menu.json"]] }
    let first := start.run [.reload]
    let second := start.run [.reload, .take, .change replaced]
    let third := start.run [.reload, .take, .change replaced, .reload, .change {}]
    start.publisher.current.isEmpty = false ∧
      first.publisher.current = { ungroupedItems := [done] } ∧
      (second.publisher.reload second.files).result =
        .error (.io "menu.json" "Is a directory (os error 21)") ∧
      (second.publisher.reload second.files).publisher = first.publisher ∧
      (third.publisher.reload third.files).publisher.current = .builtin ∧
      ∃ newer, third.taken = newer ++ [{ ungroupedItems := [done] }] := by
  intro done text start replaced first second third
  have filled : start.publisher.current.isEmpty = false := by decide
  have place : Directory.resolve {} "menu.json" = .ok ["menu.json"] := by decide
  have shown : first.publisher.current = { ungroupedItems := [done] } := by
    obtain ⟨-, -, -, reloads, -⟩ := publishing_history start filled []
    obtain ⟨_, -, -, current, -⟩ := reloads (.text text)
      (.text (Directory.resolve_congr (by rfl) place) (by rfl) (by decide)
        (fromUTF8?_toUTF8 text))
    have built : (Document.build text).document = { ungroupedItems := [done] } := by
      decide +kernel
    exact current.trans built
  obtain ⟨-, -, -, refuses, -⟩ :=
    publishing_history start filled [.reload, .take, .change replaced]
  have onFolder : replaced.resolve "menu.json" = .ok ["menu.json"] := by decide
  obtain ⟨error, same⟩ := refuses (.refused (.io "menu.json" FileError.isFolder.message))
    (.folder onFolder (by decide) (by decide))
  obtain ⟨-, -, -, fallsBack, -⟩ :=
    publishing_history start filled [.reload, .take, .change replaced, .reload, .change {}]
  obtain ⟨_, -, -, builtin, -⟩ := fallsBack .nothing (.missing place (by decide) (by decide))
  obtain ⟨-, -, -, -, keeps⟩ := publishing_history start filled [.reload]
  obtain ⟨newer, kept⟩ := keeps [.change replaced, .reload, .change {}]
  refine ⟨filled, shown, error, same, builtin, newer, kept.trans ?_⟩
  rw [← shown]
  rfl

end FieldMenu
