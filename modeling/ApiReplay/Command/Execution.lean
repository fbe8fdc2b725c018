import ApiReplay.Command.Basic
import ApiReplay.Config
import ApiReplay.Fetch
import ApiReplay.Http.Client
import ApiReplay.Report.Console
import ApiReplay.Run.Corpus

/-!
# Carrying commands out

What the command line asks for counts more than the environment, and that more than the
configuration. A run succeeds when nothing failed in it; so does fetching a corpus when it comes to
its end.

## Main definitions

* `Machine`: what a command works with.
* `Command.Outcome`, `Command.execute`: carrying a command out.
* `Command.console`: the console that shows a command.
-/

namespace ApiReplay

/-- What a command works with. -/
structure Machine where
  environment : Environment := {}
  disk : Files.Disk := {}
  network : Http.Network
  server : Http.Server
  /-- What is refused about the file that a corpus is downloaded into. -/
  spool : Fetch.Spool := {}
  /-- The seconds that a run of tests takes. -/
  elapsed : Nat := 0

namespace Command

/-- The outcome of a command. -/
structure Outcome where
  /-- Whether the command succeeded, unless an error stopped it. -/
  result : Except Error Bool
  disk : Files.Disk
  events : List Event

/-- The description of the service that tests run against. -/
def RunOptions.service (o : RunOptions) (config : Config) : Config.Service :=
  { config.client with url := o.url.getD config.client.url }

/-- The corpus whose tests run. -/
def RunOptions.corpus (o : RunOptions) (config : Config) : Corpus :=
  { root := o.testsPath.getD config.run.testsPath, excluded := config.run.skip ++ o.skip }

/-- Runs tests. -/
def runTests (m : Machine) (config : Config) (o : RunOptions) : Outcome :=
  let service := o.service config
  let client := Http.client m.network service config.endpoints
  let flavor := (o.flavor.or (config.flavor? m.environment)).getD client.flavor
  let start : List Event := [.connecting service.url]
  match (o.corpus config).run m.disk client flavor o.paths m.server m.elapsed with
  | .error e => { result := .error e, disk := m.disk, events := start }
  | .ok block =>
    { result := .ok block.summary.success, disk := m.disk, events := start ++ block.events }

/-- The address of the corpus. -/
def corpusUrl : String :=
  "https://api.github.com/repos/elastic/serverless-clients-tests/zipball/main"

/-- Fetches a corpus. -/
def fetchCorpus (m : Machine) (config : Config) (o : FetchOptions) : Outcome :=
  let destination := o.destination.getD config.run.testsPath
  let fetched := Fetch.run m.network m.server destination (o.url.getD corpusUrl) m.disk m.spool
  { result := fetched.result.map fun _ => true, disk := fetched.disk, events := fetched.events }

/-- Carries a command out. -/
def execute (m : Machine) (config : Config) : Command → Outcome
  | .run options => runTests m config options
  | .fetch options => fetchCorpus m config options

/-- Whether a command asks for a quiet console. -/
def isQuiet : Command → Bool
  | .run options => options.quiet
  | .fetch _ => false

/-- The console that shows a command. -/
def console (e : Environment) (command : Command) : Report.Console :=
  { quiet := command.isQuiet || e.isQuiet, color := e.isColored }

end Command

end ApiReplay
