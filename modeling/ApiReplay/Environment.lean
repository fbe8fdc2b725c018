import ApiReplay.Files.Path
import ApiReplay.Service.Flavor

/-!
# The environment of a program

A program finds some of its settings in environment variables. Data and configuration lie in
directories of their own below the ones that the user has for all programs.

## Main definitions

* `Environment`: the variables.
* `Environment.testsPath`, `Environment.configPath?`: where the corpus and the configuration lie.
* `Environment.flavor?`, `Environment.isQuiet`, `Environment.isColored`: settings.
-/

namespace ApiReplay

/-- The variables of an environment with their values. -/
structure Environment where
  bindings : List (String × String) := []

namespace Environment

/-- The variables that count. -/
def names : List String :=
  ["HOME", "XDG_DATA_HOME", "XDG_CONFIG_HOME", "TEST_SUITE", "QUIET", "CLICOLOR_FORCE", "RUST_LOG"]

/-- The value of a variable; of several the last. -/
def get? (e : Environment) (name : String) : Option String :=
  e.bindings.reverse.lookup name

/-- The directory that a variable names, if it names one by an absolute path; else one below the
home directory. -/
def directory? (e : Environment) (name below : String) : Option String :=
  match (e.get? name).filter FilePath.isAbsolute with
  | some path => some path
  | none => ((e.get? "HOME").filter (· ≠ "")).map (FilePath.join · below)

/-- The name of the directories for data and configuration. -/
def programName : String := "api-conformance"

/-- The directory of the corpus unless a configuration names one. -/
def testsPath (e : Environment) : String :=
  match e.directory? "XDG_DATA_HOME" ".local/share" with
  | some path => FilePath.join (FilePath.join path programName) "tests"
  | none => "tmp"

/-- The file of the configuration unless the command line names one. -/
def configPath? (e : Environment) : Option String :=
  (e.directory? "XDG_CONFIG_HOME" ".config").map fun path =>
    FilePath.join (FilePath.join path programName) "config.toml"

/-- The flavor that the environment asks for. Other texts ask for none. -/
def flavor? (e : Environment) : Option Flavor :=
  (e.get? "TEST_SUITE").bind Flavor.ofText?

/-- Whether the console is to be quiet. -/
def isQuiet (e : Environment) : Bool :=
  (e.get? "QUIET").any fun value => value ≠ "" && value ≠ "false"

/-- Whether colors are shown although the output is no terminal. -/
def isColored (e : Environment) : Bool :=
  (e.get? "CLICOLOR_FORCE").any (· ≠ "0")

end Environment

end ApiReplay
