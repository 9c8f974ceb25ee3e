import FieldMenu.Proofs.Files.Directory
import FieldMenu.Publish.Basic

namespace FieldMenu

inductive Offer where
  | text (text : String)
  | nothing
  | refused (error : ConfigError)

/-- What a source offers while the files are as in the directory.  A file that is not there counts
as nothing; one of more than 1048576 bytes, one that is no text, a folder, and a path that cannot be
followed for any other reason than a missing part are refused. -/
inductive Source.Offers (directory : Directory) : Source → Offer → Prop
  | inline (text : String) : Offers directory (.inline text) (.text text)
  | builtin : Offers directory .builtin .nothing
  | lost {path : String} (lost : directory.resolve path = .error .notFound) :
      Offers directory (.file path) .nothing
  | missing {path : String} {place : Location} (found : directory.resolve path = .ok place)
      (empty : directory.bytesAt? place = none) (missing : directory.isFolder place = false) :
      Offers directory (.file path) .nothing
  | text {path : String} {place : Location} {bytes : ByteArray} {text : String}
      (found : directory.resolve path = .ok place)
      (holds : directory.bytesAt? place = some bytes) (small : bytes.size ≤ 1048576)
      (decodes : String.fromUTF8? bytes = some text) : Offers directory (.file path) (.text text)
  | tooLarge {path : String} {place : Location} {bytes : ByteArray}
      (found : directory.resolve path = .ok place)
      (holds : directory.bytesAt? place = some bytes) (large : 1048576 < bytes.size) :
      Offers directory (.file path) (.refused (.tooLarge path bytes.size 1048576))
  | invalid {path : String} {place : Location} {bytes : ByteArray}
      (found : directory.resolve path = .ok place)
      (holds : directory.bytesAt? place = some bytes) (small : bytes.size ≤ 1048576)
      (invalid : String.fromUTF8? bytes = none) :
      Offers directory (.file path) (.refused (.io path FileError.invalidText.message))
  | folder {path : String} {place : Location} (found : directory.resolve path = .ok place)
      (empty : directory.bytesAt? place = none) (folder : directory.isFolder place = true) :
      Offers directory (.file path) (.refused (.io path FileError.isFolder.message))
  | barred {path : String} {cause : FileError} (barred : directory.resolve path = .error cause)
      (other : cause ≠ .notFound) :
      Offers directory (.file path) (.refused (.io path cause.message))

namespace Source

variable {directory : Directory}

theorem exists_offers (directory : Directory) (source : Source) :
    ∃ offer, source.Offers directory offer := by
  cases source with
  | inline text => exact ⟨_, .inline text⟩
  | builtin => exact ⟨_, .builtin⟩
  | file path =>
      cases resolved : directory.resolve path with
      | error cause =>
          by_cases lost : cause = .notFound
          · exact ⟨_, .lost (lost ▸ resolved)⟩
          · exact ⟨_, .barred resolved lost⟩
      | ok place =>
          cases holds : directory.bytesAt? place with
          | none =>
              cases folder : directory.isFolder place with
              | false => exact ⟨_, .missing resolved holds folder⟩
              | true => exact ⟨_, .folder resolved holds folder⟩
          | some bytes =>
              by_cases large : 1048576 < bytes.size
              · exact ⟨_, .tooLarge resolved holds large⟩
              · have small := Nat.le_of_not_lt large
                cases decodes : String.fromUTF8? bytes with
                | none => exact ⟨_, .invalid resolved holds small decodes⟩
                | some text => exact ⟨_, .text resolved holds small decodes⟩

/-- The text or the error that reading comes to. -/
def Gives (found : Except ConfigError SourceText) : Offer → Prop
  | .text text => ∃ origin, found = .ok { text := some text, origin } ∧ origin.isBuiltin = false
  | .nothing => ∃ reason, found = .ok { text := none, origin := .builtin reason }
  | .refused error => found = .error error

theorem fileText_of_small {path : String} {size : Nat} (sized : directory.size path = .ok size)
    (small : size ≤ 1048576) :
    (fileText directory path).value =
      match directory.readText path with
      | .ok text => .ok { text := some text, origin := .file path }
      | .error cause => .error (.io path cause.message) := by
  have notLarge : ¬ maxDocumentSize < size := Nat.not_lt_of_le small
  rw [fileText, sized]
  simp only [if_neg notLarge]
  cases directory.readText path <;> rfl

theorem read_of_offers {source : Source} {offer : Offer} (offers : source.Offers directory offer) :
    Gives (source.read directory).value offer := by
  cases offers with
  | inline text => exact ⟨_, rfl, rfl⟩
  | builtin => exact ⟨_, rfl⟩
  | lost lost =>
      rw [read, fileText, Directory.size_of_error lost]
      exact ⟨_, rfl⟩
  | missing found empty missing =>
      rw [read, fileText, Directory.size_of_missing found empty missing]
      exact ⟨_, rfl⟩
  | text found holds small decodes =>
      rw [read, fileText_of_small (Directory.size_of_bytes found holds) small,
        Directory.readText_of_bytes found holds, decodes]
      exact ⟨_, rfl, rfl⟩
  | @tooLarge path place bytes found holds large =>
      have aboveLimit : maxDocumentSize < bytes.size := large
      rw [read, fileText, Directory.size_of_bytes found holds]
      simp only [if_pos aboveLimit]
      rfl
  | invalid found holds small invalid =>
      rw [read, fileText_of_small (Directory.size_of_bytes found holds) small,
        Directory.readText_of_bytes found holds, invalid]
      rfl
  | folder found empty folder =>
      rw [read, fileText_of_small (Directory.size_of_folder found empty folder) (Nat.zero_le _),
        Directory.readText_of_folder found empty folder]
      rfl
  | @barred path cause barred other =>
      rw [read, fileText, Directory.size_of_error barred]
      cases cause with
      | notFound => exact absurd rfl other
      | _ => rfl

end Source

end FieldMenu
