import ShardRouting.Command.Report
import ShardRouting.Log.Filter
import ShardRouting.Settings.Decoding

/-! The program from its arguments to its exit, apart from the files it works on. -/

namespace ShardRouting
namespace Command

/-- What the surroundings answer: the text of a file, and whether a log file can be written to. Faults
    are the words of the system. -/
structure Host where
  read : String → Except String String
  canLog : String → Except String Unit

/-- A log file with the records that are added to it. -/
structure LogFile where
  path : String
  format : Log.Format
  records : List Log.Record
  deriving DecidableEq, Repr

/-- The end of a run. -/
structure Exit where
  code : Nat
  output : String := ""
  /-- What stands behind `Error: ` on the error stream. -/
  failure : Option String := none
  /-- Records written to the error stream. -/
  console : List Log.Record := []
  file : Option LogFile := none
  deriving DecidableEq, Repr

def name : String := "ddal"

def versionText : String := name ++ " 0.3.0\n"

def helpText : String :=
  "Route a SQL statement to its physical shard tables\n\n" ++
  "Usage: " ++ name ++ " [OPTIONS] <SQL>\n\n" ++
  "Arguments:\n" ++
  "  <SQL>  SQL statement to route\n\n" ++
  "Options:\n" ++
  "  -c, --config <CONFIG>       Configuration file path (built-in defaults when omitted)\n" ++
  "  -p, --param <KEY=VALUE>     Bind a placeholder, e.g. 1=42, uid=42 or :region=eu\n" ++
  "      --validate <KEY=VALUE>  Check the route against another set of bindings\n" ++
  "  -s, --schema <SCHEMA>       Logical schema of unqualified tables\n" ++
  "      --disable-sql-routing   Ignore shard values in the SQL and route from overrides only\n" ++
  "  -f, --format <FORMAT>       Output format: text or json\n" ++
  "  -v, --verbose               Enable debug logging\n" ++
  "  -h, --help                  Print help\n" ++
  "  -V, --version               Print version\n"

def Stop.message : Stop → String
  | help => ""
  | version => ""
  | unknownArgument argument => "unexpected argument '" ++ argument ++ "' found"
  | noValue flag => "a value is required for '--" ++ flag.name ++ "' but none was supplied"
  | badValue flag value => "invalid value '" ++ value ++ "' for '--" ++ flag.name ++ "'"
  | badBinding flag fault => "invalid value for '--" ++ flag.name ++ "': " ++ fault.message
  | repeated flag => "the argument '--" ++ flag.name ++ "' cannot be used multiple times"
  | unneededValue flag value => "unexpected value '" ++ value ++ "' for '--" ++ flag.name ++ "' found"
  | noStatement => "the following required arguments were not provided: <SQL>"

/-- The end of a run whose arguments ask for no routing. -/
def Stop.exit : Stop → Exit
  | help => { code := 0, output := helpText }
  | version => { code := 0, output := versionText }
  | _ => { code := 2 }

/-- The settings of a file, or the built-in ones. -/
def loadSettings (host : Host) : Option String → Except SettingsFault Settings
  | none => .ok {}
  | some path => match host.read path with
    | .ok text => Settings.ofToml text
    | .error reason => .error (.unreadable reason)

/-- Lines indented by four blanks. -/
def indented (text : String) : String :=
  String.ofList ("    ".toList ++ text.toList.flatMap fun c => if c = '\n' then "\n    ".toList else [c])

/-- A failure with its cause, as the error stream shows it. -/
def failureText (message : String) (cause : Option String) : String :=
  match cause with
  | some cause => message ++ "\n\nCaused by:\n" ++ indented cause ++ "\n"
  | none => message ++ "\n"

/-- The log level of a run. -/
def levelName (invocation : Invocation) (settings : LoggingSettings) : String :=
  if invocation.verbose then "debug" else settings.level

/-- The first record of every log. -/
def startRecord (level : String) (settings : LoggingSettings) : Log.Record :=
  let file := match settings.filePath with
    | some path => "Some(" ++ Text.quote path ++ ")"
    | none => "None"
  let console := if settings.logToConsole then "true" else "false"
  ⟨.trace, "ddal_cli::logging", "Logging initialized: level=" ++ level ++ ", console=" ++ console ++
    ", file=" ++ file⟩

/-- Runs an invocation with its settings; the log file is known to be sound. -/
def runLogged (invocation : Invocation) (settings : Settings) : Exit :=
  let logging := settings.logging
  let level := levelName invocation logging
  let filter := Log.Filter.ofNames level logging.targets
  let (result, records) := execute invocation settings
  let passed := (startRecord level logging :: records).filter filter.passes
  let console := if logging.logToConsole || invocation.verbose then passed else []
  let file := logging.filePath.map fun path => ⟨path, Log.Format.ofName logging.format, passed⟩
  match result with
  | .ok report => { code := 0, output := report.render invocation.layout, console, file }
  | .error failure =>
    { code := 1, failure := some (failureText (failure.message invocation.sql) failure.cause?), console, file }

/-- Runs an invocation. -/
def runInvocation (host : Host) (invocation : Invocation) : Exit :=
  match loadSettings host invocation.config with
  | .error fault => { code := 1, failure := some (failureText (Failure.message "" (.settings fault)) none) }
  | .ok settings =>
    match settings.logging.filePath.map host.canLog with
    | some (.error reason) => { code := 1, failure := some (failureText reason none) }
    | _ => runLogged invocation settings

/-- Runs the program. -/
def run (host : Host) (arguments : List String) : Exit :=
  match Invocation.ofArguments arguments with
  | .error stop => stop.exit
  | .ok invocation => runInvocation host invocation

end Command
end ShardRouting
