import FieldMenu.Log.Event

namespace FieldMenu.Log

structure Journal where
  threshold : Level
  events : List Event := []

namespace Journal

def record (journal : Journal) (event : Event) : Journal :=
  if event.level.passes journal.threshold then
    { journal with events := journal.events ++ [event] }
  else journal

def clear (journal : Journal) : Journal :=
  { journal with events := [] }

def warnings (journal : Journal) : List Event :=
  journal.events.filter fun event => event.level = .warning

def withCode (journal : Journal) (code : Code) : List Event :=
  journal.events.filter fun event => event.code = code

end Journal

inductive InstallError where
  | alreadyInstalled
deriving DecidableEq, Repr

def InstallError.message : InstallError → String
  | .alreadyInstalled => "Global logger already initialized"

/-- Installs a journal where none is.  A second one is refused, and the journal in place is told. -/
def install (installed : Option Journal) (journal : Journal) :
    Option Journal × Except InstallError Unit :=
  match installed with
  | none => (some journal, .ok ())
  | some present =>
      (some (present.record
        (.error .initializationFailure "Logging initialization attempted twice")),
        .error .alreadyInstalled)

end FieldMenu.Log
