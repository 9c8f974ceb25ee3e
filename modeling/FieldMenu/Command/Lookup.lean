import FieldMenu.Command.Run

namespace FieldMenu.Command

/-- The configuration file that an invocation uses, where its preferences can be read. -/
def Invocation.configPath? (invocation : Invocation) (environment : Environment)
    (directory : Directory) : Option String :=
  let preferences :=
    match invocation.preferences with
    | none => some (Preferences.ofEnvironment environment)
    | some path => (Preferences.ofFile environment directory path).value.toOption
  preferences.map fun preferences => invocation.configPath preferences.service

def imagePaths (root configPath library : String) (directory : Directory) : List String :=
  let publisher : Publisher := { source := .file configPath }
  let document := (publisher.load directory).publisher.current
  let records := ((Library.openFile directory library).toOption.map Library.records).getD []
  (menuIcons (document.menu records records)).filterMap fun icon =>
    (Theme.candidate { directory, root } icon).toOption

def Invocation.lookups (invocation : Invocation) (environment : Environment)
    (directory : Directory) : List String :=
  let configPath? := invocation.configPath? environment directory
  invocation.preferences.toList ++ configPath?.toList ++
    match invocation.task with
    | .check _ => []
    | .menu library _ _ icons =>
        library :: match icons, configPath? with
          | some root, some configPath => imagePaths root configPath library directory
          | _, _ => []
    | .activate library _ _ _ => [library, library ++ ".tmp"]

end FieldMenu.Command
