import ApiReplay.Command.Basic

/-!
# Command lines

A command line names a command among options. An option is long, and its value follows it or an
equals sign in it, or it is a letter, and several letters may share a dash. Two dashes end the
options. The options that all commands share may stand in front of the command and behind it, where
they count more. An option takes effect when the next one begins, so an unknown argument is noticed
before a bad value in front of it.

## Main definitions

* `Arguments.Level`, `Arguments.Item`: which options there are in front of a command and behind it.
* `Arguments.Given`, `Arguments.Reading`: what is given so far.
* `Arguments.parse`: the command that a command line asks for.
-/

namespace ApiReplay.Arguments

/-! ### Options -/

/-- What an option sets. -/
inductive Setting where
  | config
  | verbose
  | testsPath
  | skip
  | flavor
  | url
  | quiet
  | destination
deriving DecidableEq

/-- What an option does. -/
inductive Item where
  | value (setting : Setting)
  | switch (setting : Setting)
  | help
  | version

/-- The place of an option: in front of a command, or behind it. -/
inductive Level where
  | top
  | run
  | fetch
deriving DecidableEq

namespace Level

/-- The level behind a command. -/
def ofName? : String → Option Level
  | "run" => some run
  | "fetch" => some fetch
  | _ => none

/-- The long options of a level. -/
def longItems : Level → List (String × Item)
  | top => [("version", .version)]
  | run => [("tests-path", .value .testsPath), ("skip", .value .skip), ("flavor", .value .flavor),
      ("url", .value .url), ("quiet", .switch .quiet)]
  | fetch => [("dest", .value .destination), ("url", .value .url)]

/-- The long option of a name. -/
def long? (level : Level) (name : String) : Option Item :=
  let shared : List (String × Item) :=
    [("config", .value .config), ("verbose", .switch .verbose), ("help", .help)]
  (level.longItems ++ shared).lookup name

/-- The option of a letter. -/
def short? : Level → Char → Option Item
  | _, 'v' => some (.switch .verbose)
  | _, 'h' => some .help
  | top, 'V' => some .version
  | run, 'q' => some (.switch .quiet)
  | _, _ => none

end Level

/-! ### Settings -/

/-- What is given at one level. -/
structure Given where
  config : Option String := none
  verbose : Bool := false
  testsPath : Option String := none
  skip : List String := []
  flavor : Option Flavor := none
  url : Option String := none
  quiet : Bool := false
  destination : Option String := none
  paths : List String := []

namespace Given

/-- A file or a directory, whose name is not empty. -/
def path (text : String) : Except Usage (Option String) :=
  if text = "" then .error .noValue else .ok (some text)

/-- A setting that may be given once. -/
def once {α : Type} (before : Option α) (value : Except Usage (Option α)) :
    Except Usage (Option α) :=
  if before.isSome then .error .repeated else value

/-- Sets a value. -/
def set (g : Given) (text : String) : Setting → Except Usage Given
  | .config => (once g.config (path text)).map fun config => { g with config }
  | .testsPath => (once g.testsPath (path text)).map fun testsPath => { g with testsPath }
  | .destination => (once g.destination (path text)).map fun destination => { g with destination }
  | .url => (once g.url (.ok (some text))).map fun url => { g with url }
  | .flavor =>
    let flavor := (Flavor.ofText? text).elim (.error .badValue) (.ok ∘ some)
    (once g.flavor flavor).map fun flavor => { g with flavor }
  | .skip => .ok { g with skip := g.skip ++ [text] }
  | .verbose | .quiet => .ok g

/-- Turns a switch on. -/
def switch (g : Given) : Setting → Except Usage Given
  | .verbose => if g.verbose then .error .repeated else .ok { g with verbose := true }
  | .quiet => if g.quiet then .error .repeated else .ok { g with quiet := true }
  | _ => .ok g

end Given

/-! ### Reading -/

/-- What is read of a level. -/
structure Reading where
  given : Given := {}
  /-- The option that has not taken effect, with its value. -/
  pending : Option (Setting × Option String) := none
  /-- Whether there are no options any more. -/
  literal : Bool := false

namespace Reading

/-- Whether an option waits for its value. -/
def isWaiting (r : Reading) : Bool :=
  match r.pending with
  | some (_, none) => true
  | _ => false

/-- Lets the option in front take effect. -/
def settle (r : Reading) : Except Usage Reading :=
  match r.pending with
  | none => .ok r
  | some (_, none) => .error .noValue
  | some (setting, some text) =>
    (r.given.set text setting).map fun given => { r with given, pending := none }

/-- Adds an option without a value. -/
def addItem (r : Reading) (item : Item) : Except Usage Reading := do
  let r ← r.settle
  match item with
  | .help => .error .help
  | .version => .error .version
  | .value setting => .ok { r with pending := some (setting, none) }
  | .switch setting => (r.given.switch setting).map fun given => { r with given }

/-- Adds a long option, without its dashes. -/
def addLong (level : Level) (r : Reading) (text : List Char) : Except Usage Reading :=
  let name := text.takeWhile (· ≠ '=')
  match level.long? (String.ofList name), text.drop name.length with
  | none, _ => .error .unknownArgument
  | some item, [] => r.addItem item
  | some (.value setting), _ :: value => do
    let r ← r.settle
    (r.given.set (String.ofList value) setting).map fun given => { r with given }
  | some _, _ => .error .extraValue

/-- Adds letters that share a dash. -/
def addShort (level : Level) (r : Reading) : List Char → Except Usage Reading
  | [] => .ok r
  | letter :: rest =>
    match level.short? letter with
    | none => .error .unknownArgument
    | some item => do addShort level (← r.addItem item) rest

/-- Adds an argument that is no option. -/
def addPlain (level : Level) (r : Reading) (text : String) : Except Usage Reading :=
  match r.pending, r.literal with
  | some (setting, none), false => .ok { r with pending := some (setting, some text) }
  | _, _ =>
    match level with
    | .top =>
      .error (if r.literal ∧ (text = "help" ∨ (Level.ofName? text).isSome) then .unknownArgument
        else .unknownCommand)
    | .fetch => .error .unknownArgument
    | .run => do
      let r ← r.settle
      .ok { r with given := { r.given with paths := r.given.paths ++ [text] } }

/-- Adds an argument. -/
def add (level : Level) (r : Reading) (text : String) : Except Usage Reading :=
  if r.literal then r.addPlain level text
  else
    match text.toList with
    | ['-', '-'] => .ok { r with literal := true }
    | '-' :: '-' :: rest => r.addLong level rest
    | ['-'] => r.addPlain level text
    | '-' :: letters => r.addShort level letters
    | _ => r.addPlain level text

/-- Whether an argument names a command in front of which everything is read. -/
def endsAt (r : Reading) : Bool :=
  !r.literal && !r.isWaiting

end Reading

/-- What is given behind a command. -/
def readInner (level : Level) (arguments : List String) : Except Usage Given := do
  let r ← arguments.foldlM (fun r text => r.add level text) ({} : Reading)
  return (← r.settle).given

/-- Why the arguments behind the command for help lead to no command. -/
def helpOn : List String → Usage
  | [] | ["help"] => .help
  | [name] => if (Level.ofName? name).isSome then .help else .unknownCommand
  | _ => .unknownCommand

/-- What is given in front of a command, and the command with what is given behind it. -/
def readOuter (r : Reading) : List String → Except Usage (Given × Option (Level × Given))
  | [] => do return ((← r.settle).given, none)
  | text :: rest =>
    match r.endsAt, text, Level.ofName? text with
    | true, "help", _ => .error (helpOn rest)
    | true, _, some level => do
      let r ← r.settle
      return (r.given, some (level, ← readInner level rest))
    | _, _, _ => do readOuter (← r.add .top text) rest

/-- The command that a level and its settings stand for. -/
def commandOf (given : Given) : Level → Option Command
  | .top => none
  | .run =>
    some (.run {
      paths := given.paths
      testsPath := given.testsPath
      skip := given.skip
      flavor := given.flavor
      url := given.url
      quiet := given.quiet })
  | .fetch => some (.fetch { destination := given.destination, url := given.url })

/-- The command that a command line asks for. -/
def parse (arguments : List String) : Except Usage Invocation := do
  let (outer, inner) ← readOuter {} arguments
  match inner with
  | none => .error (if outer.config.isNone ∧ !outer.verbose then .nothing else .noCommand)
  | some (level, given) =>
    match commandOf given level with
    | none => .error .noCommand
    | some command =>
      return {
        config := given.config.or outer.config
        verbose := given.verbose || outer.verbose
        command }

end ApiReplay.Arguments
