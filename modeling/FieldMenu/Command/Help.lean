import FieldMenu.Command.Arguments

namespace FieldMenu.Command

namespace Flag

def valueName? (flag : Flag) : Option String :=
  if flag.takesValue then
    some (match flag with
      | config => "<CONFIG>"
      | preferences => "<PREFERENCES>"
      | library => "<LIBRARY>"
      | select => "<SELECT>"
      | _ => "<ICONS>")
  else none

def summary (topic : Option Name) : Flag → String
  | config =>
      "Menu configuration document (defaults to QFT_CONFIG_PATH, then ./quickfieldtoggle.json)"
  | preferences => "Engine preferences file (TOML)"
  | verbose => "Debug logging"
  | library => "Library file (JSON array of entries)"
  | select =>
      if topic = some .activate then "Entry ids to target, comma separated (default: all)"
      else "Entry ids to select, comma separated (default: all)"
  | json =>
      if topic = some .check then "Print the resolved document as JSON"
      else "Print the tree as JSON"
  | icons => "Icon theme directory used to resolve node icons"
  | yes => "Answer yes to every confirmation"
  | help => "Print help"
  | version => "Print version"

def shape (flag : Flag) : String :=
  (match flag.short? with
    | some letter => "-" ++ String.singleton letter ++ ", "
    | none => "    ") ++
    "--" ++ flag.long ++ ((flag.valueName?.map fun name => " " ++ name).getD "")

end Flag

def Name.summary : Name → String
  | .check => "Parse the configuration and report what was kept"
  | .menu => "Print the menu for a selection of library entries"
  | .activate => "Activate a menu entry by its key path, e.g. `Status Backlog`"
  | .help => "Print this message or the help of the given subcommand(s)"

def usageLine : Option Name → String
  | none => "Usage: qft [OPTIONS] <COMMAND>"
  | some .check => "Usage: qft check [OPTIONS]"
  | some .menu => "Usage: qft menu [OPTIONS] --library <LIBRARY>"
  | some .activate => "Usage: qft activate [OPTIONS] --library <LIBRARY> <PATH>..."
  | some .help => "Usage: qft help [COMMAND]..."

def columns (width : Nat) (left right : String) : String :=
  "  " ++ left ++ String.ofList (List.replicate (width - left.length) ' ') ++ "  " ++ right ++ "\n"

def listedFlags : Option Name → List Flag
  | none => [.config, .preferences, .verbose, .help, .version]
  | some .check => [.json, .config, .preferences, .verbose, .help]
  | some .menu => [.library, .select, .json, .config, .icons, .preferences, .verbose, .help]
  | some .activate => [.library, .select, .yes, .config, .preferences, .verbose, .help]
  | some .help => []

def listedOperands : Option Name → List (String × String)
  | some .activate => [("<PATH>...", "Keys from the top-level entry down to the one to activate")]
  | some .help => [("[COMMAND]...", "Print help for the subcommand(s)")]
  | none | some .check | some .menu => []

def helpSection (heading : String) (entries : List (String × String)) : String :=
  let width := (entries.map fun entry => entry.1.length).foldl max 0
  if entries.isEmpty then ""
  else
    "\n" ++ heading ++ ":\n" ++
      String.join (entries.map fun entry => columns width entry.1 entry.2)

def helpText (topic : Option Name) : String :=
  let about := (topic.map Name.summary).getD "Quick field toggle menus for a JSON game library"
  let names := if topic.isNone then [Name.check, .menu, .activate, .help] else []
  about ++ "\n\n" ++ usageLine topic ++ "\n" ++
    helpSection "Commands" (names.map fun name => (name.text, name.summary)) ++
    helpSection "Arguments" (listedOperands topic) ++
    helpSection "Options" ((listedFlags topic).map fun flag => (flag.shape, flag.summary topic))

def versionText : String := "qft 0.1.0\n"

def UsageError.text (error : UsageError) : String :=
  "error: " ++ error.message ++ "\n\n" ++ usageLine none ++
    "\n\nFor more information, try '--help'.\n"

end FieldMenu.Command
