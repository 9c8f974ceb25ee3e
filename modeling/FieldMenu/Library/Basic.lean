import FieldMenu.Activation.Basic
import FieldMenu.Files.Directory
import FieldMenu.Json.Read
import FieldMenu.Json.Write
import FieldMenu.Record.Format

namespace FieldMenu

structure Library where
  path : String
  records : List Record

/-- Why a library is not opened.  What is wrong with a text that is none, and where, is left out:
the message ends with the path. -/
inductive LibraryError where
  | read (path : String) (cause : FileError)
  | parse (path : String)
  | unknownEntry (id : String)
deriving DecidableEq, Repr

def LibraryError.message : LibraryError → String
  | .read path cause => "Cannot read library " ++ path ++ ": " ++ cause.message
  | .parse path => "Invalid library " ++ path
  | .unknownEntry id => "No library entry with id '" ++ id ++ "'"

namespace Library

def parse? (text : String) : Option (List Record) :=
  (Json.read? text).bind (Json.readArray? Record.ofJson?)

def text (records : List Record) : String :=
  (Json.array (records.map Record.toJson)).indented

def openFile (directory : Directory) (path : String) : Except LibraryError Library :=
  match directory.readText path with
  | .error cause => .error (.read path cause)
  | .ok text =>
      match parse? text with
      | some records => .ok { path, records }
      | none => .error (.parse path)

def find? (library : Library) (id : String) : Option Record :=
  library.records.find? fun record => record.id == id

/-- Copies of the records of these ids, in the order of the ids; of all records where there are no
ids. -/
def select (library : Library) (ids : List String) : Except LibraryError (List Record) :=
  if ids.isEmpty then .ok library.records
  else
    ids.mapM fun id =>
      match library.find? id with
      | some record => .ok record
      | none => .error (.unknownEntry id)

def replace (updated : Record) : List Record → List Record
  | [] => []
  | record :: rest =>
      if record.id = updated.id then updated :: rest else record :: replace updated rest

def merge (library : Library) (batch : List Record) : Library :=
  { library with
    records := batch.foldl (fun records updated => replace updated records) library.records }

def draftPath (library : Library) : String :=
  library.path ++ ".tmp"

/-- Writes the library file.  When the second of the two steps fails, the first one stays done. -/
def save (library : Library) (directory : Directory) : Directory × Except FileError Unit :=
  match directory.write library.draftPath (text library.records).toUTF8 with
  | .error error => (directory, .error error)
  | .ok drafted =>
      match drafted.rename library.draftPath library.path with
      | .error error => (drafted, .error error)
      | .ok saved => (saved, .ok ())

structure Persisted where
  library : Library
  directory : Directory
  result : Except PersistError Unit

/-- Puts the records of a batch in their places and saves the library.  A batch with a record that
is not in the library is rejected whole. -/
def persist (library : Library) (directory : Directory) (batch : List Record) : Persisted :=
  match batch.find? fun record => (library.find? record.id).isNone with
  | some unknown =>
      { library, directory
        result := .error (.rejected (unknown.entityId ++ " is not in the library")) }
  | none =>
      let merged := library.merge batch
      let (directory, saved) := merged.save directory
      { library := merged
        directory
        result := saved.mapError fun error => .io library.path error.message }

end Library

end FieldMenu
