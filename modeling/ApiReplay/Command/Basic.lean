import ApiReplay.Service.Flavor

/-!
# Commands

The program runs tests, or fetches the corpus of tests. A command line that asks for neither is
answered with a text about its use.

## Main definitions

* `Command`: what the program can be asked to do.
* `Invocation`: a command with the settings that all commands share.
* `Usage`: why a command line leads to no command.
-/

namespace ApiReplay

/-- What a run of tests is asked for. -/
structure Command.RunOptions where
  /-- Test files or directories, relative to the root of the corpus; none stands for everything. -/
  paths : List String := []
  /-- The root of the corpus. -/
  testsPath : Option String := none
  /-- Patterns of test files that are left out. -/
  skip : List String := []
  /-- The flavor to run as. -/
  flavor : Option Flavor := none
  /-- The address of the service. -/
  url : Option String := none
  /-- Whether actions are shown by marks instead of lines. -/
  quiet : Bool := false

/-- What the fetching of a corpus is asked for. -/
structure Command.FetchOptions where
  /-- The directory whose contents are replaced. -/
  destination : Option String := none
  /-- The address of the archive. -/
  url : Option String := none

/-- What the program can be asked to do. -/
inductive Command where
  | run (options : Command.RunOptions)
  | fetch (options : Command.FetchOptions)

/-- A command with the settings that all commands share. -/
structure Invocation where
  /-- The file of the configuration. -/
  config : Option String := none
  /-- Whether diagnostics are told in detail. -/
  verbose : Bool := false
  command : Command

/-- Why a command line leads to no command. -/
inductive Usage where
  | help
  | version
  /-- The command line is empty. -/
  | nothing
  | noCommand
  | unknownCommand
  | unknownArgument
  /-- An option has no value. -/
  | noValue
  /-- The value of an option means nothing. -/
  | badValue
  /-- A switch has a value. -/
  | extraValue
  /-- An option that may be given once is repeated. -/
  | repeated
deriving DecidableEq

end ApiReplay
