import Logbook.View.Align

/-!
# Command lines

A command line names one of three tasks. Some options hold for every task and may stand on either
side of its name, where the far side wins; the others follow the name.

* `Opt`: the options, their spellings and what they take;
* `scan`: the options and the files of the arguments on one side of a task's name;
* `Request`, **`Request.parse`**: what a command line asks for, unless it is no command line.
-/

namespace Logbook.Command

/-! ## Options -/

/-- The options. -/
inductive Opt where
  | config
  | verbose
  | quiet
  | color
  | format
  | output
  | filter
  | start
  | finish
  | text
  | id
  | colorBy
  | details
  | shown
  | hidden
  | align
  | help
  | version
  deriving DecidableEq, Repr

/-- How many values an option takes. -/
inductive Arity where
  | none
  | one
  | atMostOne
  deriving DecidableEq, Repr

namespace Opt

/-- The long name of an option. -/
def long : Opt → String
  | .config => "config"
  | .verbose => "verbose"
  | .quiet => "quiet"
  | .color => "color"
  | .format => "format"
  | .output => "output"
  | .filter => "filter"
  | .start => "start"
  | .finish => "end"
  | .text => "text"
  | .id => "id"
  | .colorBy => "color-by"
  | .details => "details"
  | .shown => "show"
  | .hidden => "hide"
  | .align => "align"
  | .help => "help"
  | .version => "version"

/-- The short name of an option. -/
def short? : Opt → Option Char
  | .verbose => some 'v'
  | .quiet => some 'q'
  | .format => some 'F'
  | .output => some 'o'
  | .help => some 'h'
  | .version => some 'V'
  | _ => none

/-- How many values an option takes. -/
def arity : Opt → Arity
  | .verbose | .quiet | .help | .version => .none
  | .details => .atMostOne
  | _ => .one

/-- Whether the value of an option may start with a hyphen. -/
def takesHyphens : Opt → Bool
  | .start | .finish => true
  | _ => false

/-- Whether an option may be given more than once. -/
def repeats : Opt → Bool
  | .verbose | .shown | .hidden | .align => true
  | _ => false

end Opt

/-! ## Values of options -/

/-- When a report is written with colors. -/
inductive ColorMode where
  | auto
  | always
  | never
  deriving DecidableEq, Repr

/-- The mode of that name. -/
def ColorMode.ofName? : String → Option ColorMode
  | "auto" => some .auto
  | "always" => some .always
  | "never" => some .never
  | _ => none

/-- The form of a report. -/
inductive Format where
  | text
  | json
  deriving DecidableEq, Repr

/-- The form of that name. -/
def Format.ofName? : String → Option Format
  | "text" => some .text
  | "json" => some .json
  | _ => none

/-- A log and its alignment, with the last equals sign of the text between them. -/
def logAlign? (s : String) : Option (String × Align) :=
  let reversed := s.toList.reverse
  match reversed.dropWhile (· != '=') with
  | [] => none
  | _ :: log =>
    (Align.ofText? (String.ofList (reversed.takeWhile (· != '=')).reverse)).map fun a =>
      (String.ofList log.reverse, a)

/-- Whether an option accepts a value. -/
def Opt.accepts (o : Opt) (value : String) : Bool :=
  match o with
  | .config | .output => !value.isEmpty
  | .color => (ColorMode.ofName? value).isSome
  | .format => (Format.ofName? value).isSome
  | .align => (logAlign? value).isSome
  | _ => true

/-! ## Scanning -/

/-- The tasks. -/
inductive TaskName where
  | query
  | schema
  | logs
  deriving DecidableEq, Repr

/-- The task of that name. -/
def TaskName.ofName? : String → Option TaskName
  | "query" => some .query
  | "schema" => some .schema
  | "logs" => some .logs
  | _ => none

/-- The options that hold for every task. -/
def sharedOptions : List Opt := [.config, .verbose, .quiet, .color, .format, .output, .help]

/-- The options that may follow the name of a task, or stand ahead of it. -/
def optionsOf : Option TaskName → List Opt
  | none => sharedOptions ++ [.version]
  | some .query =>
    sharedOptions
      ++ [.filter, .start, .finish, .text, .id, .colorBy, .details, .shown, .hidden, .align]
  | some .schema => sharedOptions ++ [.filter, .start, .finish]
  | some .logs => sharedOptions

/-- Why the arguments ask for no task. -/
inductive Stop where
  /-- They are no command line. -/
  | usage
  | help
  | version
  deriving DecidableEq, Repr

/-- The options with their values, and the files, in the order in which they were given. -/
structure Given where
  options : List (Opt × Option String) := []
  files : List String := []

namespace Given

/-- Whether an option was given. -/
def has (g : Given) (o : Opt) : Bool := g.options.any fun p => p.1 == o

/-- One more option. -/
def give (g : Given) (o : Opt) (value : Option String) : Except Stop Given :=
  match o with
  | .help => .error .help
  | .version => .error .version
  | _ =>
    if (g.has o && !o.repeats) || !value.all o.accepts then .error .usage
    else .ok { g with options := g.options ++ [(o, value)] }

/-- One more file. -/
def giveFile (g : Given) (file : String) : Except Stop Given :=
  if file.isEmpty then .error .usage else .ok { g with files := g.files ++ [file] }

/-- Gives up waiting for the value of an option, which is an error unless it may be missing. -/
def settle (g : Given) : Option Opt → Except Stop Given
  | none => .ok g
  | some o => if o.arity = .atMostOne then g.give o none else .error .usage

/-- The value of an option, where it was given with one. -/
def value? (g : Given) (o : Opt) : Option String := (g.options.lookup o).join

/-- All values of an option. -/
def values (g : Given) (o : Opt) : List String :=
  g.options.filterMap fun p => if p.1 == o then p.2 else none

end Given

/-- A state of scanning: what was given, and the option whose value may come next. -/
structure Scan where
  given : Given := {}
  waiting : Option Opt := none

/-- An option with its long name. -/
def longOption? (known : List Opt) (name : String) : Option Opt :=
  known.find? fun o => o.long == name

/-- An option with its short name. -/
def shortOption? (known : List Opt) (c : Char) : Option Opt :=
  known.find? fun o => o.short? == some c

/-- What follows two hyphens: a name, and a value behind an equals sign. -/
def scanLong (known : List Opt) (g : Given) (cs : List Char) : Except Stop Scan :=
  let name := cs.takeWhile (· != '=')
  let value := match cs.dropWhile (· != '=') with
    | _ :: v => some (String.ofList v)
    | [] => none
  match longOption? known (String.ofList name) with
  | none => .error .usage
  | some o =>
    match o.arity, value with
    | .none, none => (g.give o none).map fun g => { given := g }
    | .none, some _ => .error .usage
    | _, none => .ok { given := g, waiting := some o }
    | _, some v => (g.give o (some v)).map fun g => { given := g }

/-- What follows one hyphen: short names, the last of them perhaps with a value behind it. -/
def scanShort (known : List Opt) (g : Given) : List Char → Except Stop Scan
  | [] => .ok { given := g }
  | c :: rest =>
    match shortOption? known c with
    | none => .error .usage
    | some o =>
      if o.arity = .none then
        match g.give o none with
        | .ok g => scanShort known g rest
        | .error e => .error e
      else
        match rest with
        | [] => .ok { given := g, waiting := some o }
        | '=' :: v => (g.give o (some (String.ofList v))).map fun g => { given := g }
        | v => (g.give o (some (String.ofList v))).map fun g => { given := g }

/-- Whether the next argument is a value even if it starts with a hyphen. -/
def Scan.takesAny (s : Scan) : Bool := s.waiting.any Opt.takesHyphens

/-- One argument that is not behind two lone hyphens. -/
def scanArgument (known : List Opt) (takesFiles : Bool) (s : Scan) (argument : String) :
    Except Stop Scan :=
  let plain : Except Stop Scan :=
    match s.waiting with
    | some o => (s.given.give o (some argument)).map fun g => { given := g }
    | none =>
      if takesFiles then (s.given.giveFile argument).map fun g => { given := g }
      else .error .usage
  if s.takesAny then plain
  else
    match argument.toList with
    | '-' :: '-' :: name => do
      let g ← s.given.settle s.waiting
      scanLong known g name
    | '-' :: c :: names => do
      let g ← s.given.settle s.waiting
      scanShort known g (c :: names)
    | _ => plain

/-- All arguments that follow the name of a task. -/
def scan (known : List Opt) (s : Scan) : List String → Except Stop Given
  | [] => s.given.settle s.waiting
  | argument :: rest =>
    if argument = "--" ∧ !s.takesAny then do
      let g ← s.given.settle s.waiting
      rest.foldlM Given.giveFile g
    else do
      let s ← scanArgument known true s argument
      scan known s rest

/-- The arguments up to the name of a task, that name, and the arguments behind it. -/
def scanToTask (s : Scan) : List String → Except Stop (Given × TaskName × List String)
  | [] => .error .usage
  | argument :: rest =>
    match s.waiting, TaskName.ofName? argument with
    | none, some task => .ok (s.given, task, rest)
    | _, _ =>
      if s.waiting.isNone && argument == "help" then
        match rest with
        | [] => .error .help
        | [name] =>
          if (TaskName.ofName? name).isSome || name == "help" then .error .help
          else .error .usage
        | _ => .error .usage
      else if argument = "--" then .error .usage
      else do
        let s ← scanArgument (optionsOf none) false s argument
        scanToTask s rest

/-! ## Requests -/

/-- The options that change what is selected. -/
structure Controls where
  filter : Option String := none
  start : Option String := none
  finish : Option String := none
  deriving DecidableEq, Repr

/-- The options of a query. -/
structure QueryOptions where
  controls : Controls := {}
  text : Option String := none
  id : Option String := none
  color : Option String := none
  /-- The expression for details; the outer option says whether there are any. -/
  details : Option (Option String) := none
  shown : List String := []
  hidden : List String := []
  align : List (String × Align) := []
  deriving DecidableEq, Repr

/-- What is to be done. -/
inductive Task where
  | query (options : QueryOptions)
  | schema (controls : Controls)
  | logs
  deriving DecidableEq, Repr

/-- What a command line asks for. -/
structure Request where
  task : Task
  files : List String
  config : Option String := none
  quiet : Bool := false
  color : ColorMode := .auto
  format : Format := .text
  output : Option String := none
  deriving DecidableEq, Repr

/-- The options that change what is selected. -/
def Controls.ofGiven (g : Given) : Controls :=
  { filter := g.value? .filter, start := g.value? .start, finish := g.value? .finish }

/-- The task with its options. -/
def Task.ofGiven (g : Given) : TaskName → Task
  | .query => .query
    { controls := .ofGiven g
      text := g.value? .text
      id := g.value? .id
      color := g.value? .colorBy
      details := g.options.lookup .details
      shown := g.values .shown
      hidden := g.values .hidden
      align := (g.values .align).filterMap logAlign? }
  | .schema => .schema (.ofGiven g)
  | .logs => .logs

/-- The path of the profile: from the far side of the name of the task, from its near side, or from
the environment. An empty path in the environment is an error on a side that falls back on it. -/
def configPath (ahead behind : Given) (environment : Option String) :
    Except Stop (Option String) :=
  if environment = some "" ∧ !(ahead.has .config && behind.has .config) then .error .usage
  else .ok (((behind.value? .config).or (ahead.value? .config)).or environment)

namespace Request

/-- **What a command line asks for**, with the path of a profile from the environment. -/
def parse (arguments : List String) (environment : Option String) : Except Stop Request := do
  let (ahead, task, rest) ← scanToTask {} arguments
  let behind ← scan (optionsOf (some task)) {} rest
  if behind.files.isEmpty then .error .usage
  let config ← configPath ahead behind environment
  let value? := fun o => (behind.value? o).or (ahead.value? o)
  return {
    task := .ofGiven behind task
    files := behind.files
    config
    quiet := behind.has .quiet || ahead.has .quiet
    color := ((value? .color).bind ColorMode.ofName?).getD .auto
    format := ((value? .format).bind Format.ofName?).getD .text
    output := value? .output }

end Request

end Logbook.Command
