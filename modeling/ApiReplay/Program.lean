import ApiReplay.Command.Arguments
import ApiReplay.Command.Execution
import ApiReplay.Report.LogFilter

/-!
# The program

The program reads its command line and its configuration, carries the command out and tells by its
exit code what became of it. It may be asked to stop while a request is not answered; then it stops
at once.

## Main definitions

* `Program.Outcome`: all that the program leaves behind.
* `Program.run`: the program.
-/

namespace ApiReplay.Program

/-- The text about the version. -/
def versionText : String := "conformance 0.1.0\n"

/-- The text about the use. -/
def helpText : String :=
  "YAML API conformance test runner

Usage: conformance [OPTIONS] <COMMAND>

Commands:
  run    Run YAML test documents against the service
  fetch  Download the test corpus, replacing the tests directory
  help   Print this message or the help of the given subcommand(s)

Options:
      --config <CONFIG>  Configuration file (default: platform config directory)
  -v, --verbose          Enable debug logging
  -h, --help             Print help
  -V, --version          Print version
"

/-- What the program leaves behind. -/
structure Outcome where
  exit : Nat
  output : String := ""
  /-- The last words about an error. -/
  complaint : String := ""
  log : List String := []
  sent : List Http.Request := []
  /-- The directory whose contents were removed before anything was written. -/
  emptied : Option String := none
  disk : Files.Disk

/-- The exit code after a request to stop. -/
def interruptedExit : Nat := 130

/-- Whether the program was asked to stop. -/
def Outcome.isInterrupted (o : Outcome) : Bool :=
  o.exit = interruptedExit

/-- The outcome of a command line that leads to no command. -/
def answer (disk : Files.Disk) : Usage → Outcome
  | .help => { exit := 0, output := helpText, disk }
  | .version => { exit := 0, output := versionText, disk }
  | _ => { exit := 2, complaint := helpText, disk }

/-- The outcome of an error. -/
def failed (disk : Files.Disk) (e : Error) : Outcome :=
  { exit := 1, complaint := "Error: " ++ e.message ++ "\n", disk }

/-- The configuration of an invocation. -/
def configure (m : Machine) (invocation : Invocation) : Except Error Config :=
  match invocation.config with
  | some path => Config.load m.environment m.disk path
  | none => Config.loadStandard m.environment m.disk

/-- The files that the settings may lie in. -/
def settingsFiles (e : Environment) (arguments : List String) : List String :=
  match Arguments.parse arguments with
  | .ok invocation => (invocation.config.or e.configPath?).toList
  | .error _ => []

/-- A command line with its configuration, when there is a command to carry out. -/
def prepared? (m : Machine) (arguments : List String) : Option (Command × Config) :=
  match Arguments.parse arguments with
  | .error _ => none
  | .ok invocation =>
    (configure m invocation).toOption.map fun config => (invocation.command, config)

/-- The files that a command names, also those below the root of the corpus. The root itself, or the
destination, is named too. -/
def namedFiles (m : Machine) (arguments : List String) : List String :=
  match prepared? m arguments with
  | some (.run options, config) =>
    let root := (options.corpus config).root
    root :: options.paths ++ options.paths.map (FilePath.join root)
  | some (.fetch options, config) => [options.destination.getD config.run.testsPath]
  | none => []

/-- Whether more files may belong to a command than it names: a run of tests takes in all that lie
in a directory. -/
def takesMore (m : Machine) (arguments : List String) : Bool :=
  match prepared? m arguments with
  | some (.run _, _) => true
  | _ => false

/-- The address that a command reaches: that of its service, or that of an archive. -/
def address? (m : Machine) (arguments : List String) : Option Http.Url :=
  match prepared? m arguments with
  | some (.run options, config) => Http.Url.parse? (options.service config).url.toList
  | some (.fetch options, _) => Http.Url.parse? (options.url.getD Command.corpusUrl).toList
  | none => none

/-- The filter of the log. -/
def filter (e : Environment) (verbose : Bool) : Log.Filter :=
  ((e.get? "RUST_LOG").bind Log.Filter.parse?).getD (Log.Filter.standard verbose)

/-- The exit code of a command. -/
def exitCode : Except Error Bool → Nat
  | .ok true => 0
  | _ => 1

/-- Carries a command out and tells of its events. -/
def execute (m : Machine) (config : Config) (invocation : Invocation) (interrupt : Bool) :
    Outcome :=
  let done := invocation.command.execute m config
  let told := fun (events : List Event) (outcome : Outcome) =>
    { outcome with
      output := (invocation.command.console m.environment).text events
      log := Log.lines (filter m.environment invocation.verbose) events
      sent := Event.sent events
      emptied := events.findSome? Event.emptied? }
  if interrupt && done.events.any Event.isStalled then
    told (Event.uninterrupted done.events ++ [.interrupted])
      { exit := interruptedExit, disk := m.disk }
  else
    match done.result with
    | .error e => told done.events (failed done.disk e)
    | .ok _ => told done.events { exit := exitCode done.result, disk := done.disk }

/-- The program. It may be asked to stop when a request is not answered. -/
def run (m : Machine) (interrupt : Bool) (arguments : List String) : Outcome :=
  match Arguments.parse arguments with
  | .error usage => answer m.disk usage
  | .ok invocation =>
    match configure m invocation with
    | .error e => failed m.disk e
    | .ok config => execute m config invocation interrupt

end ApiReplay.Program
