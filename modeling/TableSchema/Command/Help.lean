import TableSchema.Command.Arguments

set_option autoImplicit false

namespace TableSchema

def versionText : String := "worldschema 0.1.0\n"

namespace HelpTopic

private def lines (texts : List String) : String :=
  String.join (texts.map (· ++ "\n"))

private def configuredText (about name : String) : String :=
  lines [
    about,
    "",
    "Usage: worldschema " ++ name ++ " [OPTIONS]",
    "",
    "Options:",
    "      --config <CONFIG>  Path to configuration file [default: " ++
      Request.defaultConfig ++ "]",
    "  -h, --help             Print help"]

def text : HelpTopic → String
  | .program => lines [
    "A deterministic table schema compiler for namespaced storage declarations",
    "",
    "Usage: worldschema <COMMAND>",
    "",
    "Commands:",
    "  check    Validate every declared namespace and report all violations",
    "  compile  Validate, then print the normalized schema of every namespace",
    "  catalog  Print the column type catalog",
    "  help     Print this message or the help of the given subcommand(s)",
    "",
    "Options:",
    "  -h, --help     Print help",
    "  -V, --version  Print version"]
  | .check => configuredText "Validate every declared namespace and report all violations" "check"
  | .compile =>
    configuredText "Validate, then print the normalized schema of every namespace" "compile"
  | .catalog => lines [
    "Print the column type catalog",
    "",
    "Usage: worldschema catalog",
    "",
    "Options:",
    "  -h, --help  Print help"]
  | .help => lines [
    "Print this message or the help of the given subcommand(s)",
    "",
    "Usage: worldschema help [COMMAND]...",
    "",
    "Arguments:",
    "  [COMMAND]...  Print help for the subcommand(s)"]

end HelpTopic

end TableSchema
