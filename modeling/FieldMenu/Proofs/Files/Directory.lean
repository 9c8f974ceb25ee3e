import FieldMenu.Files.Directory
import FieldMenu.Proofs.Text.Split

namespace FieldMenu

theorem bind_eq_ok_iff {ε α β : Type} {first : Except ε α} {next : α → Except ε β} {result : β} :
    first >>= next = .ok result ↔ ∃ value, first = .ok value ∧ next value = .ok result := by
  cases first with
  | error cause => exact ⟨nofun, fun ⟨_, impossible, _⟩ => nomatch impossible⟩
  | ok value =>
      refine ⟨fun rest => ⟨value, rfl, rest⟩, ?_⟩
      rintro ⟨_, ⟨rfl⟩, rest⟩
      exact rest

theorem fromUTF8?_toUTF8 (text : String) : String.fromUTF8? text.toUTF8 = some text :=
  dif_pos text.isValidUTF8

namespace Directory

variable {directory : Directory} {path : String} {place : Location}

theorem size_of_error {cause : FileError} (lost : directory.resolve path = .error cause) :
    directory.size path = .error cause := by
  rw [size, lost]
  rfl

theorem size_of_bytes {bytes : ByteArray} (found : directory.resolve path = .ok place)
    (holds : directory.bytesAt? place = some bytes) : directory.size path = .ok bytes.size := by
  simp only [size, found, bind, Except.bind, holds]
  rfl

theorem size_of_folder (found : directory.resolve path = .ok place)
    (empty : directory.bytesAt? place = none) (folder : directory.isFolder place = true) :
    directory.size path = .ok 0 := by
  simp only [size, found, bind, Except.bind, empty, folder]
  rfl

theorem size_of_missing (found : directory.resolve path = .ok place)
    (empty : directory.bytesAt? place = none) (missing : directory.isFolder place = false) :
    directory.size path = .error .notFound := by
  simp only [size, found, bind, Except.bind, empty, missing]
  rfl

theorem readText_of_bytes {bytes : ByteArray} (found : directory.resolve path = .ok place)
    (holds : directory.bytesAt? place = some bytes) :
    directory.readText path =
      match String.fromUTF8? bytes with
      | some text => .ok text
      | none => .error .invalidText := by
  simp only [readText, found, bind, Except.bind, holds]
  cases String.fromUTF8? bytes <;> rfl

theorem readText_of_folder (found : directory.resolve path = .ok place)
    (empty : directory.bytesAt? place = none) (folder : directory.isFolder place = true) :
    directory.readText path = .error .isFolder := by
  simp only [readText, found, bind, Except.bind, empty, folder]
  rfl

theorem readText_of_toUTF8 {text : String} (found : directory.resolve path = .ok place)
    (holds : directory.bytesAt? place = some text.toUTF8) : directory.readText path = .ok text := by
  rw [readText_of_bytes found holds, fromUTF8?_toUTF8]

theorem resolve_eq_ok_iff :
    directory.resolve path = .ok place ↔
      (path.isEmpty = false ∧ path.toList.contains '\x00' = false ∧ path.utf8ByteSize ≤ 4095) ∧
        (pathParts path).foldlM directory.enter (startOf path) = .ok place := by
  rw [resolve]
  split
  · rename_i empty
    simp [empty]
  · split
    · rename_i invalid
      rw [invalid]
      simp
    · split
      · rename_i long
        simp [Nat.not_le.mpr long]
      · rename_i filled valid short
        rw [Bool.not_eq_true] at filled valid
        exact ⟨fun entered => ⟨⟨filled, valid, Nat.le_of_not_lt short⟩, entered⟩, And.right⟩

section

variable {other : Directory} (folders : other.folders = directory.folders)
include folders

theorem isFolder_congr (place : Location) : other.isFolder place = directory.isFolder place := by
  rw [isFolder, isFolder, folders]

theorem enter_congr {part : String} {next : Location}
    (entered : directory.enter place part = .ok next) : other.enter place part = .ok next := by
  rw [enter] at entered ⊢
  rw [isFolder_congr folders]
  cases folder : directory.isFolder place with
  | false =>
      rw [folder] at entered
      cases entered
  | true =>
      rw [folder] at entered
      exact entered

theorem foldlM_enter_congr {parts : List String} {start : Location}
    (entered : parts.foldlM directory.enter start = .ok place) :
    parts.foldlM other.enter start = .ok place := by
  induction parts generalizing start with
  | nil => exact entered
  | cons part parts ih =>
      rw [List.foldlM_cons, bind_eq_ok_iff] at entered ⊢
      obtain ⟨next, first, rest⟩ := entered
      exact ⟨next, enter_congr folders first, ih rest⟩

theorem resolve_congr (found : directory.resolve path = .ok place) :
    other.resolve path = .ok place := by
  rw [resolve_eq_ok_iff] at found ⊢
  exact ⟨found.1, foldlM_enter_congr folders found.2⟩

end

theorem lookup_putFile_self (place : Location) (bytes : ByteArray)
    (files : List (Location × ByteArray)) :
    (putFile place bytes files).lookup place = some bytes := by
  induction files with
  | nil => simp [putFile]
  | cons file files ih =>
      by_cases same : file.1 = place
      · rw [putFile, if_pos same, List.lookup_cons_self]
      · have different : (place == file.1) = false := by simpa using Ne.symm same
        rw [putFile, if_neg same, List.lookup_cons, different]
        exact ih

theorem lookup_putFile_of_ne {other : Location} (different : other ≠ place) (bytes : ByteArray)
    (files : List (Location × ByteArray)) :
    (putFile place bytes files).lookup other = files.lookup other := by
  have notHere : (other == place) = false := by simpa using different
  induction files with
  | nil => rw [putFile, List.lookup_cons, notHere]
  | cons file files ih =>
      by_cases same : file.1 = place
      · rw [putFile, if_pos same, List.lookup_cons, List.lookup_cons, notHere, same, notHere]
      · rw [putFile, if_neg same, List.lookup_cons, List.lookup_cons, ih]

theorem lookup_filter_of_ne {removed : Location} (different : place ≠ removed)
    (files : List (Location × ByteArray)) :
    (files.filter fun file => file.1 != removed).lookup place = files.lookup place := by
  induction files with
  | nil => rfl
  | cons file files ih =>
      by_cases gone : file.1 = removed
      · have other : (place == file.1) = false := by
          rw [gone]
          simpa using different
        rw [List.filter_cons_of_neg (by simpa using gone), ih, List.lookup_cons, other]
      · rw [List.filter_cons_of_pos (by simpa using gone), List.lookup_cons, List.lookup_cons, ih]

theorem exists_pathParts_append {ending : String} (plain : '/' ∉ ending.toList) (path : String) :
    ∃ front last, pathParts path = front ++ [last] ∧
      pathParts (path ++ ending) = front ++ [last ++ ending] := by
  obtain ⟨front, last, whole, longer⟩ := Text.exists_splitOn_append plain path.toList
  refine ⟨front.map String.ofList, String.ofList last, ?_, ?_⟩
  · rw [pathParts, whole, List.map_append]
    rfl
  · rw [pathParts, String.toList_append, longer, List.map_append, List.map_singleton,
      String.ofList_append, String.ofList_toList]

theorem startOf_append (filled : path.isEmpty = false) (ending : String) :
    startOf (path ++ ending) = startOf path := by
  have nonempty : path.toList ≠ [] := by simpa using filled
  rw [startOf, startOf, String.toList_append, List.head?_append_of_ne_nil _ nonempty]

theorem follow_cases (place : Location) (part : String) :
    follow place part = place ∨ follow place part = place ++ [part] ∨
      follow place part = place.dropLast := by
  rw [follow]
  split
  · exact .inl rfl
  · split
    · split
      · exact .inl rfl
      · split
        · exact .inr (.inl rfl)
        · exact .inr (.inr rfl)
    · exact .inr (.inl rfl)

theorem follow_ne_of_ne {part other : String} (different : part ≠ other) :
    follow place part ≠ place ++ [other] := by
  intro same
  obtain stays | goesOn | goesBack := follow_cases place part
  · rw [stays] at same
    simpa using congrArg List.length same
  · rw [goesOn, List.append_cancel_left_eq, List.singleton_inj] at same
    exact different same
  · rw [goesBack] at same
    have lengths := congrArg List.length same
    rw [List.length_dropLast, List.length_append, List.length_singleton] at lengths
    omega

theorem follow_of_long {part : String} (long : 2 < part.length) :
    follow place part = place ++ [part] := by
  have named : ∀ {name : String}, name.length ≤ 2 → part ≠ name := by
    rintro _ short rfl
    omega
  have plain : ¬ (part = "" ∨ part = ".") := not_or.mpr ⟨named (by decide), named (by decide)⟩
  rw [follow, if_neg plain, if_neg (named (by decide))]

theorem enter_eq_ok {part : String} {next : Location}
    (entered : directory.enter place part = .ok next) : next = follow place part := by
  rw [enter] at entered
  split at entered
  · cases entered
  · split at entered
    · cases entered
    · cases entered
      rfl

theorem foldlM_enter_append {front : List String} {last : String} {start : Location}
    (entered : (front ++ [last]).foldlM directory.enter start = .ok place) :
    ∃ parent, front.foldlM directory.enter start = .ok parent ∧ place = follow parent last := by
  rw [List.foldlM_append, bind_eq_ok_iff] at entered
  obtain ⟨parent, before, entered⟩ := entered
  rw [List.foldlM_cons, bind_eq_ok_iff] at entered
  obtain ⟨next, entered, ends⟩ := entered
  cases ends
  exact ⟨parent, before, enter_eq_ok entered⟩

theorem resolve_append_ne {ending : String} (plain : '/' ∉ ending.toList)
    (long : 2 < ending.length) (found : directory.resolve (path ++ ending) = .ok place) :
    directory.resolve path ≠ .ok place := by
  intro same
  obtain ⟨⟨filled, _⟩, walk⟩ := resolve_eq_ok_iff.mp same
  obtain ⟨-, longerWalk⟩ := resolve_eq_ok_iff.mp found
  obtain ⟨front, last, whole, longer⟩ := exists_pathParts_append plain path
  rw [whole] at walk
  rw [longer, startOf_append filled] at longerWalk
  -- Both ways are one and the same up to the last part.
  obtain ⟨parent, before, reached⟩ := foldlM_enter_append walk
  obtain ⟨_, alsoBefore, alsoReached⟩ := foldlM_enter_append longerWalk
  cases before.symm.trans alsoBefore
  have longName : 2 < (last ++ ending).length := by
    rw [String.length_append]
    omega
  have different : last ≠ last ++ ending := by
    intro same
    have lengths := congrArg String.length same
    rw [String.length_append] at lengths
    omega
  rw [follow_of_long longName] at alsoReached
  exact follow_ne_of_ne different (reached.symm.trans alsoReached)

theorem write_eq_ok {bytes : ByteArray} {written : Directory}
    (writes : directory.write path bytes = .ok written) :
    ∃ place, directory.resolve path = .ok place ∧
      written = { directory with files := putFile place bytes directory.files } := by
  rw [write, bind_eq_ok_iff] at writes
  obtain ⟨place, found, writes⟩ := writes
  refine ⟨place, found, ?_⟩
  split at writes
  · cases writes
  · split at writes
    · cases writes
    · cases writes
      rfl

theorem removeFile_eq_ok {removed : Directory}
    (removes : directory.removeFile path = .ok removed) :
    ∃ place, directory.resolve path = .ok place ∧
      removed = { directory with files := directory.files.filter fun file => file.1 != place } := by
  rw [removeFile, bind_eq_ok_iff] at removes
  obtain ⟨place, found, removes⟩ := removes
  refine ⟨place, found, ?_⟩
  split at removes
  · cases removes
  · split at removes
    · cases removes
    · cases removes
      rfl

theorem rename_eq_ok {source target : String} {renamed : Directory}
    (renames : directory.rename source target = .ok renamed) :
    ∃ place bytes written, directory.resolve source = .ok place ∧
      directory.bytesAt? place = some bytes ∧ directory.write target bytes = .ok written ∧
      written.removeFile source = .ok renamed := by
  rw [rename, bind_eq_ok_iff] at renames
  obtain ⟨place, found, renames⟩ := renames
  cases holds : directory.bytesAt? place with
  | none =>
      rw [holds] at renames
      cases renames
  | some bytes =>
      rw [holds] at renames
      obtain ⟨written, writes, removes⟩ := bind_eq_ok_iff.mp renames
      exact ⟨place, bytes, written, found, holds, writes, removes⟩

/-- The path leads to a place where a file can be: no folder stands there, but it is in one. -/
structure Writable (directory : Directory) (path : String) (place : Location) : Prop where
  found : directory.resolve path = .ok place
  free : directory.isFolder place = false
  inside : directory.isFolder place.dropLast = true

theorem Writable.congr {other : Directory} (folders : other.folders = directory.folders)
    (writable : directory.Writable path place) : other.Writable path place where
  found := resolve_congr folders writable.found
  free := (isFolder_congr folders place).trans writable.free
  inside := (isFolder_congr folders _).trans writable.inside

theorem write_of_writable (writable : directory.Writable path place) (bytes : ByteArray) :
    directory.write path bytes =
      .ok { directory with files := putFile place bytes directory.files } := by
  rw [write, writable.found]
  simp only [bind, Except.bind, writable.free, writable.inside]
  rfl

theorem removeFile_of_writable (writable : directory.Writable path place) {bytes : ByteArray}
    (holds : directory.bytesAt? place = some bytes) :
    ∃ removed, directory.removeFile path = .ok removed := by
  rw [removeFile, writable.found]
  simp only [bind, Except.bind, writable.free, holds]
  exact ⟨_, rfl⟩

theorem rename_of_writable {source : String} {beside : Location} {bytes : ByteArray}
    (starts : directory.Writable source beside) (holds : directory.bytesAt? beside = some bytes)
    (ends : directory.Writable path place) (apart : beside ≠ place) :
    ∃ renamed, directory.rename source path = .ok renamed := by
  rw [rename, starts.found]
  simp only [bind, Except.bind, holds, write_of_writable ends]
  have stillHolds : (putFile place bytes directory.files).lookup beside = some bytes := by
    rw [lookup_putFile_of_ne apart]
    exact holds
  exact removeFile_of_writable (starts.congr (by rfl)) stillHolds

/-- A file that is written beside another and then moved onto it: its bytes are then found where the
other one was, as long as the two are not at one place. -/
theorem bytesAt?_of_renamed {draft : String} {bytes : ByteArray} {drafted saved : Directory}
    {beside : Location} (writes : directory.write draft bytes = .ok drafted)
    (renames : drafted.rename draft path = .ok saved)
    (drafts : directory.resolve draft = .ok beside)
    (apart : directory.resolve path ≠ .ok beside) :
    ∃ place, saved.resolve path = .ok place ∧ saved.bytesAt? place = some bytes := by
  obtain ⟨_, found, rfl⟩ := write_eq_ok writes
  cases drafts.symm.trans found
  obtain ⟨_, moved, _, found, holds, written, removes⟩ := rename_eq_ok renames
  cases (resolve_congr (by rfl) drafts).symm.trans found
  -- What is moved are the bytes that were written to the draft.
  rw [bytesAt?, lookup_putFile_self, Option.some.injEq] at holds
  subst holds
  obtain ⟨place, target, rfl⟩ := write_eq_ok written
  obtain ⟨_, found, rfl⟩ := removeFile_eq_ok removes
  cases (resolve_congr (by rfl) drafts).symm.trans found
  refine ⟨place, resolve_congr (by rfl) target, ?_⟩
  have different : place ≠ beside := by
    rintro rfl
    exact apart (resolve_congr (by rfl) target)
  rw [bytesAt?, lookup_filter_of_ne different, lookup_putFile_self]

end Directory

end FieldMenu
