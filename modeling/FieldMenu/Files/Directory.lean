import FieldMenu.Text.Split

/-!
A path is followed part by part, and each part but the last has to be a folder that is there.
-/

namespace FieldMenu

inductive FileError where
  | notFound
  | notFolder
  | isFolder
  | nameTooLong
  | invalidName
  | invalidText
deriving DecidableEq, Repr

def FileError.message : FileError → String
  | .notFound => "No such file or directory (os error 2)"
  | .notFolder => "Not a directory (os error 20)"
  | .isFolder => "Is a directory (os error 21)"
  | .nameTooLong => "File name too long (os error 36)"
  | .invalidName => "file name contained an unexpected NUL byte"
  | .invalidText => "stream did not contain valid UTF-8"

/-- A place, as seen from the directory: the names of the folders on the way and its own name.  A
way out of the directory starts with `..`, and a way from the root of all files with `/`. -/
abbrev Location := List String

structure Directory where
  folders : List Location := []
  files : List (Location × ByteArray) := []

namespace Directory

/-- The directory itself and those around it are folders. -/
def isFolder (directory : Directory) (place : Location) : Bool :=
  place.all (fun name => name == "..") || directory.folders.contains place

def bytesAt? (directory : Directory) (place : Location) : Option ByteArray :=
  directory.files.lookup place

def pathParts (path : String) : List String :=
  (Text.splitOn '/' path.toList).map String.ofList

def follow (place : Location) (part : String) : Location :=
  if part = "" ∨ part = "." then place
  else if part = ".." then
    if place = ["/"] then place
    else if place.all fun name => name == ".." then place ++ [part]
    else place.dropLast
  else place ++ [part]

def startOf (path : String) : Location :=
  if path.toList.head? = some '/' then ["/"] else []

def enter (directory : Directory) (place : Location) (part : String) : Except FileError Location :=
  if !directory.isFolder place then
    .error (if (directory.bytesAt? place).isSome then .notFolder else .notFound)
  else if 255 < part.utf8ByteSize then .error .nameTooLong
  else .ok (follow place part)

/-- The place that a path leads to, whether or not there is anything. -/
def resolve (directory : Directory) (path : String) : Except FileError Location :=
  if path.isEmpty then .error .notFound
  else if path.toList.contains '\x00' then .error .invalidName
  else if 4095 < path.utf8ByteSize then .error .nameTooLong
  else (pathParts path).foldlM directory.enter (startOf path)

def placeOf (path : String) : Location :=
  (pathParts path).foldl follow (startOf path)

/-- The number of bytes of a file; a folder has a size too, but a small one. -/
def size (directory : Directory) (path : String) : Except FileError Nat := do
  let place ← directory.resolve path
  match directory.bytesAt? place with
  | some bytes => pure bytes.size
  | none => if directory.isFolder place then pure 0 else throw .notFound

def readText (directory : Directory) (path : String) : Except FileError String := do
  let place ← directory.resolve path
  match directory.bytesAt? place with
  | some bytes =>
      match String.fromUTF8? bytes with
      | some text => pure text
      | none => throw .invalidText
  | none => throw (if directory.isFolder place then .isFolder else .notFound)

def isFile (directory : Directory) (path : String) : Bool :=
  match directory.resolve path with
  | .ok place => (directory.bytesAt? place).isSome
  | .error _ => false

def putFile (place : Location) (bytes : ByteArray) :
    List (Location × ByteArray) → List (Location × ByteArray)
  | [] => [(place, bytes)]
  | file :: rest =>
      if file.1 = place then (place, bytes) :: rest else file :: putFile place bytes rest

def write (directory : Directory) (path : String) (bytes : ByteArray) :
    Except FileError Directory := do
  let place ← directory.resolve path
  if directory.isFolder place then throw .isFolder
  else if !directory.isFolder place.dropLast then throw .notFound
  else pure { directory with files := putFile place bytes directory.files }

def removeFile (directory : Directory) (path : String) : Except FileError Directory := do
  let place ← directory.resolve path
  if directory.isFolder place then throw .isFolder
  else if (directory.bytesAt? place).isNone then throw .notFound
  else pure { directory with files := directory.files.filter fun file => file.1 != place }

def rename (directory : Directory) (source target : String) : Except FileError Directory := do
  let place ← directory.resolve source
  match directory.bytesAt? place with
  | none => throw .notFound
  | some bytes => do
      let written ← directory.write target bytes
      written.removeFile source

def addFolder (directory : Directory) (place : Location) : Directory :=
  let needed := (List.range place.length).map fun n => place.take (n + 1)
  let missing := needed.filter fun folder => !directory.folders.contains folder
  { directory with folders := directory.folders ++ missing }

def addFile (directory : Directory) (path : String) (bytes : ByteArray) : Directory :=
  let place := placeOf path
  let directory := directory.addFolder place.dropLast
  { directory with files := putFile place bytes directory.files }

def pathOf (place : Location) : String :=
  match place with
  | "/" :: rest => "/" ++ "/".intercalate rest
  | place => "/".intercalate place

end Directory

end FieldMenu
