import CriteriaSql.Cli.Arguments
import CriteriaSql.Config
import CriteriaSql.Json.Reader
import CriteriaSql.Schema.Document
import CriteriaSql.Statement.Basic

/-! What the program does once its arguments, its configuration and its input are read. -/

namespace CriteriaSql.Cli

/-- What the program finds around it. A configuration file that is not where it is looked for by
default is no failure. -/
structure Surroundings where
  configFile : Except String (Option String)
  connection : Option String
  input : String

inductive Failure where
  | configFile (reason : String)
  | config (reason : Config.Unreadable)
  | jsonArgument
  | columnDefinition
  | compilation (fault : Fault)

/-- The reason why a file could not be read stands twice, as the error and as its cause. -/
def Failure.message : Failure → String
  | configFile reason => "loading configuration: IO error: " ++ reason ++ ": " ++ reason
  | config reason => "loading configuration: Configuration error: " ++ reason.message
  | jsonArgument => "parsing JSON argument: not a JSON text"
  | columnDefinition => "parsing column definition: not a column definition"
  | compilation fault => fault.message

structure Output where
  exitCode : Nat
  stdout : String
  stderr : String
  events : List Event

def loadConfig (surroundings : Surroundings) : Except Failure Config := do
  let config ← match surroundings.configFile with
    | .error reason => .error (.configFile reason)
    | .ok none => .ok .empty
    | .ok (some text) => (Config.ofToml text).mapError .config
  return config.withConnection surroundings.connection

/-- A single hyphen stands for the input. -/
def readJson (input argument : String) : Except Failure Json :=
  match Json.ofText? (if argument = "-" then input else argument) with
  | some json => .ok json
  | none => .error .jsonArgument

/-- What is no JSON text is itself the text to be escaped. -/
def escapedLiteral (value : String) : String :=
  (Literal.ofJson ((Json.ofText? value).getD (.string value))).sql

def Command.sql (registry : Registry) (input : String) :
    Command → Except Failure (Logged String)
  | .select collection criteria => do
      let json ← readJson input criteria
      (selectOfJson (registry.tableFor collection) json).mapError .compilation
  | .insert collection values => do
      let values ← (Values.ofJson (← readJson input values)).mapError .compilation
      return ⟨values.insertSql (registry.tableFor collection), []⟩
  | .schema collection => do
      let collection ← (registry.get collection).mapError .compilation
      return collection.attributes.sql
  | .addColumn collection name definition =>
      match Column.ofText? definition with
      | some column => .ok (addColumnSql (registry.tableFor collection) name column)
      | none => .error .columnDefinition
  | .dropColumn collection name =>
      .ok ⟨dropColumnSql (registry.tableFor collection) name, []⟩
  | .updateCriteria _ values => do
      let values ← (Values.ofJson (← readJson input values)).mapError .compilation
      return ⟨values.criteriaSql, []⟩
  | .escape value identifier =>
      .ok ⟨if identifier then bracketed value else escapedLiteral value, []⟩

/-- What a verbose run tells about its configuration. -/
def summary (config : Config) : String :=
  let registry := config.registry
  let collections :=
    if registry.isEmpty then "" else "Config: " ++ toString registry.size ++ " collection(s)\n"
  let connection := match config.connection.redacted with
    | none => ""
    | some text => "Connection: " ++ text ++ "\n"
  collections ++ connection

/-- Faults are reported after the summary, and a run that fails writes no SQL. -/
def Invocation.run (invocation : Invocation) (surroundings : Surroundings) : Output :=
  match loadConfig surroundings with
  | .error failure => failed "" failure
  | .ok config =>
      let told := if invocation.verbose then summary config else ""
      match invocation.command.sql config.registry surroundings.input with
      | .error failure => failed told failure
      | .ok sql =>
          let heading := if invocation.verbose then "Generated SQL:\n" else ""
          { exitCode := 0
            stdout := heading ++ sql.value ++ "\n"
            stderr := told
            events := sql.events }
where
  failed (told : String) (failure : Failure) : Output :=
    { exitCode := 1
      stdout := ""
      stderr := told ++ "Error: " ++ failure.message ++ "\n"
      events := [] }

def versionLine : String := "pervasql 0.3.0\n"

def usageLine : String :=
  "Usage: pervasql [OPTIONS] <select|insert|schema|add-column|drop-column|update-criteria|escape>"

def Refusal.reason : Refusal → String
  | version => "the version is asked for"
  | help => "help is asked for"
  | unknownOption text => "unexpected argument '" ++ text ++ "' found"
  | repeated option => "the argument '" ++ option ++ "' cannot be used multiple times"
  | missingValue option => "a value is required for '" ++ option ++ "' but none was supplied"
  | emptyValue option => "an empty value is no value for '" ++ option ++ "'"
  | unwantedValue option => "unexpected value for '" ++ option ++ "' found"
  | missingCommand => "a command is required"
  | unknownCommand text => "unrecognized subcommand '" ++ text ++ "'"
  | missingArgument command => "an argument of '" ++ command ++ "' was not provided"
  | surplusArgument text => "unexpected argument '" ++ text ++ "' found"

/-- Arguments that make no invocation end the program before anything is read. -/
def Refusal.output : Refusal → Output
  | version => ⟨0, versionLine, "", []⟩
  | help => ⟨0, usageLine ++ "\n", "", []⟩
  | refusal => ⟨2, "", "error: " ++ refusal.reason ++ "\n\n" ++ usageLine ++ "\n", []⟩

end CriteriaSql.Cli
