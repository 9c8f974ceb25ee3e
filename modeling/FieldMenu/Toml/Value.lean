/-! How a table came to be decides who may add to it. -/

namespace FieldMenu

namespace Toml

inductive TableKind where
  | inline
  | header
  | implicit
  | dotted
deriving DecidableEq, Repr

end Toml

inductive Toml where
  | string (value : String)
  | integer (value : Int)
  | boolean (value : Bool)
  | float (spelling : String)
  | date (spelling : String)
  | array (items : List Toml)
  | table (kind : Toml.TableKind) (entries : List (String × Toml))
  | tables (items : List (List (String × Toml)))
deriving Inhabited, Repr

namespace Toml

abbrev Entries := List (String × Toml)

def Entries.put (key : String) (value : Toml) : Entries → Entries
  | [] => [(key, value)]
  | entry :: rest =>
      if entry.1 = key then (key, value) :: rest else entry :: Entries.put key value rest

/-- Changes the table at the end of a path and makes the tables on the way that are missing.  An
array of tables stands for its last table. -/
def changeAt (dotted : Bool) (change : TableKind → Entries → Option Entries) :
    (path : List String) → TableKind → Entries → Option Entries
  | [], kind, entries => change kind entries
  | key :: path, _, entries =>
      match entries.lookup key with
      | none => do
          let kind := if dotted then .dotted else .implicit
          let made ← changeAt dotted change path kind []
          some (entries.put key (.table kind made))
      | some (.table kind inner) =>
          if kind = .inline ∨ (dotted = true ∧ kind = .header) then none
          else do
            let changed ← changeAt dotted change path kind inner
            some (entries.put key (.table kind changed))
      | some (.tables items) =>
          match items.reverse with
          | last :: before => do
              let changed ← changeAt dotted change path .header last
              some (entries.put key (.tables (changed :: before).reverse))
          | [] => none
      | some _ => none

def addPair (path : List String) (key : String) (value : Toml) (entries : Entries) :
    Option Entries :=
  changeAt true
    (fun kind inner =>
      if ¬ path.isEmpty ∧ kind ≠ .dotted then none
      else if (inner.lookup key).isSome then none
      else some (inner ++ [(key, value)]))
    path .header entries

/-- Begins the table of a header, which may have been made on the way to a table inside it. -/
def beginTable (path : List String) (key : String) (entries : Entries) : Option Entries :=
  changeAt false
    (fun _ inner =>
      match inner.lookup key with
      | none => some (inner ++ [(key, .table .header [])])
      | some (.table .implicit made) => some (Entries.put key (.table .header made) inner)
      | some _ => none)
    path .header entries

def beginArrayTable (path : List String) (key : String) (entries : Entries) : Option Entries :=
  changeAt false
    (fun _ inner =>
      match inner.lookup key with
      | none => some (inner ++ [(key, .tables [[]])])
      | some (.tables items) => some (Entries.put key (.tables (items ++ [[]])) inner)
      | some _ => none)
    path .header entries

inductive Line where
  | pair (path : List String) (key : String) (value : Toml)
  | header (path : List String) (key : String)
  | arrayHeader (path : List String) (key : String)

structure Assembly where
  entries : Entries := []
  current : List String := []

namespace Assembly

def add? (assembly : Assembly) : Line → Option Assembly
  | .pair path key value => do
      let entries ←
        changeAt false (fun _ inner => addPair path key value inner) assembly.current .header
          assembly.entries
      some { assembly with entries }
  | .header path key => do
      let entries ← beginTable path key assembly.entries
      some { entries, current := path ++ [key] }
  | .arrayHeader path key => do
      let entries ← beginArrayTable path key assembly.entries
      some { entries, current := path ++ [key] }

end Assembly

def assemble? (lines : List Line) : Option Entries :=
  (lines.foldlM Assembly.add? {}).map Assembly.entries

end Toml

end FieldMenu
