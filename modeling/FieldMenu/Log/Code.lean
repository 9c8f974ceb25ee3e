namespace FieldMenu.Log

inductive Severity where
  | high
  | medium
  | low
deriving DecidableEq, Repr

def Severity.name : Severity → String
  | .high => "High"
  | .medium => "Medium"
  | .low => "Low"

structure Code where
  text : String
deriving DecidableEq, Repr, Inhabited

namespace Code

def internalError : Code := ⟨"QFT001"⟩

def initializationFailure : Code := ⟨"QFT002"⟩

def readFailed : Code := ⟨"C001"⟩

def documentTooLarge : Code := ⟨"C002"⟩

def builtinFallback : Code := ⟨"C003"⟩

def entryDropped : Code := ⟨"C004"⟩

def unrecognizedValue : Code := ⟨"C005"⟩

def preferencesInvalid : Code := ⟨"C006"⟩

def mutationFailed : Code := ⟨"M001"⟩

def persistFailed : Code := ⟨"M002"⟩

def activationCancelled : Code := ⟨"M003"⟩

def iconUnavailable : Code := ⟨"M004"⟩

def loggingInitialized : Code := ⟨"S001"⟩

def documentLoaded : Code := ⟨"S002"⟩

def documentReloaded : Code := ⟨"S003"⟩

def activationApplied : Code := ⟨"S004"⟩

def menuBuilt : Code := ⟨"S005"⟩

def genericWarning : Code := ⟨"W000"⟩

def genericInfo : Code := ⟨"I000"⟩

def genericDebug : Code := ⟨"D000"⟩

structure Entry where
  category : String
  severity : Severity
  description : String

/-- The codes with an entry of their own; a generic code has none. -/
def registry : List (Code × Entry) :=
  [ (internalError, ⟨"System", .high, "Internal error"⟩),
    (initializationFailure, ⟨"System", .high, "Logging or service initialization failed"⟩),
    (readFailed, ⟨"Config", .high, "Configuration file could not be read"⟩),
    (documentTooLarge, ⟨"Config", .high, "Configuration document exceeds the size limit"⟩),
    (builtinFallback,
      ⟨"Config", .medium, "No usable menu entries; built-in default document substituted"⟩),
    (entryDropped, ⟨"Config", .low, "Entry dropped because a required key is missing"⟩),
    (unrecognizedValue, ⟨"Config", .low, "Unrecognized enumerated value; default applied"⟩),
    (preferencesInvalid, ⟨"Config", .medium, "Runtime preferences file is invalid"⟩),
    (mutationFailed, ⟨"Menu", .medium, "Mutation failed for one entity; batch continued"⟩),
    (persistFailed, ⟨"Menu", .high, "Persisting the mutated batch failed"⟩),
    (activationCancelled, ⟨"Menu", .low, "Activation was not confirmed"⟩),
    (iconUnavailable, ⟨"Menu", .low, "Icon could not be resolved"⟩),
    (loggingInitialized, ⟨"Success", .low, "Logging initialized"⟩),
    (documentLoaded, ⟨"Success", .low, "Configuration loaded"⟩),
    (documentReloaded, ⟨"Success", .low, "Configuration reloaded"⟩),
    (activationApplied, ⟨"Success", .low, "Activation applied"⟩),
    (menuBuilt, ⟨"Success", .low, "Menu tree built"⟩) ]

def entry? (code : Code) : Option Entry :=
  registry.lookup code

def category (code : Code) : String :=
  (code.entry?.map Entry.category).getD "General"

def severity (code : Code) : Severity :=
  (code.entry?.map Entry.severity).getD .low

def description (code : Code) : String :=
  (code.entry?.map Entry.description).getD "Unknown code"

end Code

end FieldMenu.Log
