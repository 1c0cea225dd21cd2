import TableSchema.Command.Basic

set_option autoImplicit false

namespace TableSchema

inductive HelpTopic where
  | program
  | check
  | compile
  | catalog
  | help
  deriving DecidableEq, Repr

inductive Request where
  | run (command : Command)
  | version
  | help (topic : HelpTopic)
  deriving DecidableEq, Repr

namespace Request

def defaultConfig : String := "./worldschema.json"

private def startsWith (text argument : String) : Bool :=
  text.toList.isPrefixOf argument.toList

/-- A short flag counts whatever follows it. -/
private def asksHelp (argument : String) : Bool :=
  argument == "--help" || startsWith "-h" argument

private def asksVersion (argument : String) : Bool :=
  argument == "--version" || startsWith "-V" argument

/-- The value that is attached to the option by an equals sign. -/
private def attached? (argument : String) : Option String :=
  if startsWith "--config=" argument then some (String.ofList (argument.toList.drop 9)) else none

/-- Whether an argument can be the value of the option before it. -/
private def isValue (argument : String) : Bool :=
  !argument.isEmpty && (argument == "-" || !startsWith "-" argument)

private def configured (topic : HelpTopic) (command : String → Command) :
    Option String → List String → Option Request
  | config, [] => some (.run (command (config.getD defaultConfig)))
  | config, argument :: rest =>
    if asksHelp argument then some (.help topic)
    else match attached? argument, config, rest with
      | some value, none, rest =>
        if value.isEmpty then none else configured topic command (some value) rest
      | some _, some _, _ => none
      | none, none, value :: rest =>
        if argument == "--config" && isValue value then configured topic command (some value) rest
        else none
      | none, config, [] =>
        if argument == "--" then some (.run (command (config.getD defaultConfig))) else none
      | none, some _, _ :: _ => none

private def plain (topic : HelpTopic) (command : Command) : List String → Option Request
  | [] | ["--"] => some (.run command)
  | argument :: _ => if asksHelp argument then some (.help topic) else none

private def helpOn : List String → Option Request
  | [] => some (.help .program)
  | ["check"] => some (.help .check)
  | ["compile"] => some (.help .compile)
  | ["catalog"] => some (.help .catalog)
  | ["help"] => some (.help .help)
  | _ => none

/-- What the arguments ask for; `none` where they are misused. -/
def ofArguments : List String → Option Request
  | [] => none
  | "check" :: rest => configured .check .check none rest
  | "compile" :: rest => configured .compile .compile none rest
  | "catalog" :: rest => plain .catalog .catalog rest
  | "help" :: rest => helpOn rest
  | argument :: _ =>
    if asksHelp argument then some (.help .program)
    else if asksVersion argument then some .version
    else none

end Request

end TableSchema
