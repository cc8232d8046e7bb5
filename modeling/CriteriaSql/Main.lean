import CriteriaSql.Cli.Run

/-! The command line. -/

namespace CriteriaSql.Cli

def configVariable : String := "PERVASQL_CONFIG"

def connectionVariable : String := "PERVASQL_CONNECTION_STRING"

def reasonOf : IO.Error → String
  | .noFileOrDirectory .. => "No such file or directory (os error 2)"
  | error => toString error

/-- The configuration folder of the user. -/
def configFolder : IO (Option String) := do
  match ← IO.getEnv "XDG_CONFIG_HOME" with
  | some folder => if folder.startsWith "/" then return some folder else homeFolder
  | none => homeFolder
where
  homeFolder : IO (Option String) := do
    return (← IO.getEnv "HOME").map (· ++ "/.config")

def readDefault : IO (Except String (Option String)) := do
  match ← configFolder with
  | none => return .ok none
  | some folder =>
      match ← (IO.FS.readFile (folder ++ "/pervasql/config.toml")).toBaseIO with
      | .ok text => return .ok (some text)
      | .error (.noFileOrDirectory ..) => return .ok none
      | .error error => return .error (reasonOf error)

def readConfigFile : Option String → IO (Except String (Option String))
  | none => readDefault
  | some path => do
      match ← (IO.FS.readFile path).toBaseIO with
      | .ok text => return .ok (some text)
      | .error error => return .error (reasonOf error)

/-- Events up to the chosen level go to the error stream, one to a line. -/
def tell (verbose : Bool) (event : Event) : IO Unit := do
  let fields := event.fields.map fun field => " " ++ field.1 ++ "=" ++ field.2
  match event.level, verbose with
  | .warn, _ => IO.eprintln (" WARN " ++ event.message ++ String.join fields)
  | .debug, true => IO.eprintln ("DEBUG " ++ event.message ++ String.join fields)
  | .debug, false => return ()

def readsInput : Command → Bool
  | .select _ text | .insert _ text | .updateCriteria _ text => text == "-"
  | _ => false

def outputOf (args : List String) : IO (Bool × Output) := do
  match Invocation.ofArguments (← IO.getEnv configVariable) args with
  | .error refusal => return (false, refusal.output)
  | .ok invocation =>
      let configFile ← readConfigFile invocation.config
      let connection ← IO.getEnv connectionVariable
      let input ←
        if readsInput invocation.command then (← IO.getStdin).readToEnd else pure ""
      return (invocation.verbose, invocation.run { configFile, connection, input })

end CriteriaSql.Cli

open CriteriaSql.Cli in
def main (args : List String) : IO UInt32 := do
  let (verbose, output) ← outputOf args
  IO.eprint output.stderr
  output.events.forM (tell verbose)
  IO.print output.stdout
  return output.exitCode.toUInt32
