/-!
The arguments of the command line. Options may stand before and after the name of the command, and
every one at most once on each side.
-/

namespace CriteriaSql.Cli

inductive Command where
  | select (collection criteria : String)
  | insert (collection values : String)
  | schema (collection : String)
  | addColumn (collection name definition : String)
  | dropColumn (collection name : String)
  | updateCriteria (collection values : String)
  | escape (value : String) (identifier : Bool)

structure Invocation where
  config : Option String
  verbose : Bool
  command : Command

/-- Why arguments do not make an invocation. -/
inductive Refusal where
  /-- The version is asked for. -/
  | version
  /-- Help is asked for. -/
  | help
  | unknownOption (text : String)
  | repeated (option : String)
  | missingValue (option : String)
  | emptyValue (option : String)
  | unwantedValue (option : String)
  | missingCommand
  | unknownCommand (text : String)
  | missingArgument (command : String)
  | surplusArgument (text : String)

inductive Switch where
  | config
  | verbose
  | identifier
  | version
  | help

/-- Where an argument stands: before the command, or after it, where so many plain arguments may
still come. -/
inductive Level where
  | top
  | within (command : String) (room : Nat)

namespace Switch

def name : Switch → String
  | config => "--config"
  | verbose => "--verbose"
  | identifier => "--identifier"
  | version => "--version"
  | help => "--help"

def allowed (level : Level) (switch : Switch) : Bool :=
  match switch, level with
  | .identifier, .within command _ => command == "escape"
  | .identifier, .top => false
  | .version, .top => true
  | .version, .within .. => false
  | _, _ => true

def ofShort? (level : Level) (c : Char) : Option Switch :=
  (match c with
    | 'c' => some config
    | 'v' => some verbose
    | 'i' => some identifier
    | 'V' => some version
    | 'h' => some help
    | _ => none).filter (allowed level)

/-- Long names are not abbreviated. -/
def ofLong? (level : Level) (name : String) : Option Switch :=
  (match name with
    | "config" => some config
    | "verbose" => some verbose
    | "identifier" => some identifier
    | "version" => some version
    | "help" => some help
    | _ => none).filter (allowed level)

end Switch

/-- The options given on one side of the command. -/
structure Options where
  config : Option String
  verbose : Bool
  identifier : Bool

namespace Options

def none : Options := ⟨.none, false, false⟩

def setConfig (options : Options) (path : String) : Except Refusal Options :=
  if options.config.isSome then .error (.repeated "--config")
  else if path = "" then .error (.emptyValue "--config")
  else .ok { options with config := some path }

/-- A switch that takes no value. -/
def set (options : Options) : Switch → Except Refusal Options
  | .config => .error (.missingValue "--config")
  | .verbose =>
      if options.verbose then .error (.repeated "--verbose")
      else .ok { options with verbose := true }
  | .identifier =>
      if options.identifier then .error (.repeated "--identifier")
      else .ok { options with identifier := true }
  | .version => .error .version
  | .help => .error .help

end Options

/-- What an argument has done: given options, or begun one whose value is the next argument. -/
inductive Progress where
  | done (options : Options)
  | awaitingPath (options : Options)

/-- Short options joined in one argument. The value of one may be joined to it. -/
def readCluster (level : Level) (options : Options) : List Char → Except Refusal Progress
  | [] => .ok (.done options)
  | c :: rest =>
      match Switch.ofShort? level c with
      | none => .error (.unknownOption (String.ofList ['-', c]))
      | some .config =>
          match rest with
          | [] => .ok (.awaitingPath options)
          | '=' :: path => return .done (← options.setConfig (String.ofList path))
          | path => return .done (← options.setConfig (String.ofList path))
      | some switch => do readCluster level (← options.set switch) rest

/-- A long option, after its two hyphens. -/
def readLong (level : Level) (options : Options) (cs : List Char) : Except Refusal Progress :=
  let name := String.ofList (cs.takeWhile (· != '='))
  let value := match cs.dropWhile (· != '=') with
    | [] => none
    | _ :: rest => some (String.ofList rest)
  match Switch.ofLong? level name, value with
  | none, _ => .error (.unknownOption ("--" ++ name))
  | some .config, none => .ok (.awaitingPath options)
  | some .config, some path => return .done (← options.setConfig path)
  | some switch, none => return .done (← options.set switch)
  | some switch, some _ => .error (.unwantedValue switch.name)

inductive Argument where
  | plain (text : String)
  | short (cluster : List Char)
  | long (cs : List Char)
  /-- Two hyphens: all that follows is plain. -/
  | endOfOptions

/-- A single hyphen is plain. -/
def Argument.ofText (text : String) : Argument :=
  match text.toList with
  | ['-', '-'] => endOfOptions
  | '-' :: '-' :: rest => long rest
  | '-' :: c :: rest => short (c :: rest)
  | _ => plain text

/-- The plain arguments of one side, or, before the command, its name and what follows it. -/
structure Side where
  options : Options
  plain : List String
  rest : List String

/-- Before the command the plain arguments end with its name. What looks like an option is no value
of another one. The first argument that is out of place is the one refused. -/
def readSide : Level → Progress → List String → Except Refusal Side
  | _, .done options, [] => .ok ⟨options, [], []⟩
  | _, .awaitingPath _, [] => .error (.missingValue "--config")
  | level, .awaitingPath options, arg :: args =>
      match Argument.ofText arg with
      | .plain path => do readSide level (.done (← options.setConfig path)) args
      | _ => .error (.missingValue "--config")
  | level, .done options, arg :: args =>
      match Argument.ofText arg with
      | .short cluster => do readSide level (← readCluster level options cluster) args
      | .long cs => do readSide level (← readLong level options cs) args
      | .plain text =>
          match level with
          | .top => .ok ⟨options, [text], args⟩
          | .within _ 0 => .error (.surplusArgument text)
          | .within command (room + 1) => do
              let side ← readSide (.within command room) (.done options) args
              return { side with plain := text :: side.plain }
      | .endOfOptions =>
          match level, args with
          | .top, first :: _ => .error (.unknownCommand first)
          | .top, [] => .error .missingCommand
          | .within _ room, args =>
              match args.drop room with
              | surplus :: _ => .error (.surplusArgument surplus)
              | [] => .ok ⟨options, args, []⟩

/-- How many plain arguments a command takes at most. -/
def room? : String → Option Nat
  | "schema" | "escape" => some 1
  | "select" | "insert" | "drop-column" | "update-criteria" => some 2
  | "add-column" => some 3
  | _ => none

/-- What a command makes of its plain arguments. -/
def commandOf (name : String) (identifier : Bool) (args : List String) : Except Refusal Command :=
  match name, args with
  | "select", [collection] => .ok (.select collection "\x7b\x7d")
  | "select", [collection, criteria] => .ok (.select collection criteria)
  | "insert", [collection, values] => .ok (.insert collection values)
  | "schema", [collection] => .ok (.schema collection)
  | "add-column", [collection, column, definition] =>
      .ok (.addColumn collection column definition)
  | "drop-column", [collection, column] => .ok (.dropColumn collection column)
  | "update-criteria", [collection, values] => .ok (.updateCriteria collection values)
  | "escape", [value] => .ok (.escape value identifier)
  | _, _ => .error (.missingArgument name)

/-- Help may be asked for about a command, help itself included; commands have none of their own. -/
def helpAbout : List String → Refusal
  | [] => .help
  | name :: others =>
      if name ≠ "help" ∧ room? name = none then .unknownCommand name
      else match others with
        | [] => .help
        | inner :: _ => .unknownCommand inner

/-- Options after the command win over those before it, and both over the environment. -/
def Invocation.ofArguments (environmentConfig : Option String) (args : List String) :
    Except Refusal Invocation := do
  let top ← readSide .top (.done .none) args
  match top.plain with
  | [] => .error .missingCommand
  | name :: _ =>
      if name = "help" then
        .error (helpAbout top.rest)
      else
        match room? name with
        | none => .error (.unknownCommand name)
        | some room => do
            let side ← readSide (.within name room) (.done .none) top.rest
            let command ← commandOf name side.options.identifier side.plain
            return {
              config := (side.options.config.or top.options.config).or environmentConfig
              verbose := top.options.verbose || side.options.verbose
              command }

end CriteriaSql.Cli
