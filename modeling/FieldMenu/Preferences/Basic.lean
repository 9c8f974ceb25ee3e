import FieldMenu.Log.Level
import FieldMenu.Publish.Basic
import FieldMenu.Toml.Read

/-!
What the preferences file leaves open comes from environment variables, and then from defaults.
-/

namespace FieldMenu

abbrev Environment := List (String × String)

def Environment.flag? (environment : Environment) (name : String) : Option Bool :=
  (environment.lookup name).bind fun value => [("true", true), ("false", false)].lookup value

def Environment.text? (environment : Environment) (name : String) (accepts : String → Bool) :
    Option String :=
  (environment.lookup name).filter accepts

structure ServicePreferences where
  configPath : Option String := none
  logDroppedEntries : Bool := true
deriving DecidableEq, Repr

structure LoggingPreferences where
  useStructuredLogging : Bool := false
  minLogLevel : String := "info"
deriving DecidableEq, Repr

structure Preferences where
  service : ServicePreferences := {}
  logging : LoggingPreferences := {}
deriving DecidableEq, Repr

namespace ServicePreferences

def ofEnvironment (environment : Environment) : ServicePreferences :=
  { configPath := environment.text? "QFT_CONFIG_PATH" fun path => !Text.isBlankText path
    logDroppedEntries := (environment.flag? "QFT_LOG_DROPPED_ENTRIES").getD true }

def toJson (preferences : ServicePreferences) : Json :=
  .object
    [ ("config_path", .ofOption .string preferences.configPath),
      ("log_dropped_entries", .bool preferences.logDroppedEntries) ]

end ServicePreferences

namespace LoggingPreferences

def ofEnvironment (environment : Environment) : LoggingPreferences :=
  { useStructuredLogging := (environment.flag? "QFT_LOGGING_USE_STRUCTURED").getD false
    minLogLevel :=
      (environment.text? "QFT_LOGGING_MIN_LEVEL" fun level =>
        (Log.Level.parse? level).isSome).getD "info" }

/-- The lowest level that is logged; a word that names no level stands for the usual one. -/
def level (preferences : LoggingPreferences) : Log.Level :=
  (Log.Level.parse? preferences.minLogLevel).getD .info

def toJson (preferences : LoggingPreferences) : Json :=
  .object
    [ ("use_structured_logging", .bool preferences.useStructuredLogging),
      ("min_log_level", .string preferences.minLogLevel) ]

end LoggingPreferences

namespace Toml

/-- The named values of a table, in the order of the names, where each may be missing.  An array
gives them in that order as well, and a date gives none of them. -/
def settings? (names : List String) : Toml → Option (List (Option Toml))
  | .table _ entries => some (names.map fun name => entries.lookup name)
  | .array items => some ((List.range names.length).map fun index => items[index]?)
  | .date _ => some (names.map fun _ => none)
  | _ => none

def readOr? {α : Type} (default : α) (read? : Toml → Option α) : Option Toml → Option α
  | none => some default
  | some value => read? value

def asString? : Toml → Option String
  | .string value => some value
  | _ => none

def asBool? : Toml → Option Bool
  | .boolean value => some value
  | _ => none

end Toml

namespace ServicePreferences

def ofToml? (default : ServicePreferences) (table : Toml) : Option ServicePreferences :=
  match table.settings? ["config_path", "log_dropped_entries"] with
  | some [configPath, logDropped] => do
      some
        { configPath :=
            ← Toml.readOr? default.configPath (fun value => value.asString?.map some) configPath
          logDroppedEntries := ← Toml.readOr? default.logDroppedEntries Toml.asBool? logDropped }
  | _ => none

end ServicePreferences

namespace LoggingPreferences

def ofToml? (default : LoggingPreferences) (table : Toml) : Option LoggingPreferences :=
  match table.settings? ["use_structured_logging", "min_log_level"] with
  | some [structured, level] => do
      some
        { useStructuredLogging :=
            ← Toml.readOr? default.useStructuredLogging Toml.asBool? structured
          minLogLevel := ← Toml.readOr? default.minLogLevel Toml.asString? level }
  | _ => none

end LoggingPreferences

namespace Preferences

def ofEnvironment (environment : Environment) : Preferences :=
  { service := .ofEnvironment environment, logging := .ofEnvironment environment }

/-- The preferences that a text sets, over those of the environment. -/
def read? (environment : Environment) (text : String) : Option Preferences := do
  let default := ofEnvironment environment
  let entries ← Toml.read? text
  some
    { service :=
        ← Toml.readOr? default.service (ServicePreferences.ofToml? default.service)
          (entries.lookup "service")
      logging :=
        ← Toml.readOr? default.logging (LoggingPreferences.ofToml? default.logging)
          (entries.lookup "logging") }

/-- What is wrong with a text that cannot be read, and where, is left out of the reason. -/
def ofFile (environment : Environment) (directory : Directory) (path : String) :
    Logged (Except ConfigError Preferences) :=
  match directory.readText path with
  | .error error => { value := .error (.io path error.message) }
  | .ok text =>
      match read? environment text with
      | some preferences => { value := .ok preferences }
      | none =>
          let reason := "TOML parse error"
          { value := .error (.preferences path reason)
            events :=
              [.error .preferencesInvalid "Invalid preferences file"
                [("path", path), ("error", reason)]] }

end Preferences

end FieldMenu
