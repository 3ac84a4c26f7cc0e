import ImportRules.Path
import ImportRules.Report
import ImportRules.Text.Blank
/-!
# Command lines

A command line has the form `archgraph [options] command [options] [path]`. Options may be written
long with the value behind an equals sign or as the next argument, and short with the value right
behind the letter, behind an equals sign, or as the next argument; short switches may be gathered
behind one hyphen. Behind two hyphens everything is a path. An option must not be given twice.
-/

namespace ImportRules.Command

/-- How results are printed. -/
inductive OutputFormat where
  | text
  | json
  | compact
  deriving DecidableEq, Repr

def OutputFormat.ofName? : String → Option OutputFormat
  | "text" => some .text
  | "json" => some .json
  | "compact" => some .compact
  | _ => none

/-- What is to be done. -/
inductive Task where
  | check (path : Path) (format : OutputFormat) (only : List String) (failOn : Severity)
  | listChecks (path : Path)
  | init (force : Bool)
  | edges (path : Path)
  deriving DecidableEq, Repr

/-- What a command line asks for. -/
inductive Request where
  | run (task : Task) (config : Option Path) (verbose : Bool)
  /-- Help on the whole program, or on one command. -/
  | help (command : Option String)
  | version
  /-- The command line is not understood. -/
  | usage
  deriving DecidableEq, Repr

/-- Something that an option sets. -/
inductive Setting where
  | verbose
  | config
  | format
  | only
  | failOn
  | force
  | help
  | version
  deriving DecidableEq, Repr

namespace Setting

def longName : Setting → String
  | .verbose => "verbose"
  | .config => "config"
  | .format => "format"
  | .only => "only"
  | .failOn => "fail-on"
  | .force => "force"
  | .help => "help"
  | .version => "version"

def letter? : Setting → Option Char
  | .verbose => some 'v'
  | .config => some 'c'
  | .format => some 'f'
  | .help => some 'h'
  | .version => some 'V'
  | .only | .failOn | .force => none

/-- Whether an option has a value. -/
def takesValue : Setting → Bool
  | .config | .format | .only | .failOn => true
  | .verbose | .force | .help | .version => false

/-- Whether an option may have a given value. -/
def allows : Setting → String → Bool
  | .config, value => !value.isEmpty
  | .format, value => (OutputFormat.ofName? value).isSome
  | .failOn, value => (Severity.ofName? value).isSome
  | _, _ => true

end Setting

/-- What may stand on a part of a command line. -/
structure Level where
  settings : List Setting
  /-- Number of paths that may be given. -/
  paths : Nat := 0
  /-- The first argument that is no option ends this part. -/
  isOuter : Bool := false

/-- What stands on a part of a command line. -/
structure Given where
  values : List (Setting × String) := []
  paths : List String := []

def Given.value? (given : Given) (setting : Setting) : Option String :=
  given.values.lookup setting

def Given.has (given : Given) (setting : Setting) : Bool :=
  (given.value? setting).isSome

/-- What reading a part of a command line came to: what was given and the arguments behind it, or
an answer that makes the rest irrelevant. -/
inductive Reading where
  | done (given : Given) (rest : List String)
  | answer (request : Request)

/-- Puts down an option with its value. -/
def Given.add? (given : Given) (setting : Setting) (value : String) : Option Given :=
  if given.has setting || !setting.allows value then none
  else some { given with values := (setting, value) :: given.values }

/-- Where reading stands behind an argument. -/
inductive State where
  | ready (given : Given)
  /-- The next argument must be a value. -/
  | awaiting (given : Given) (setting : Setting)
  | answer (request : Request)

/-- The state behind an option with its value. -/
def addValue (given : Given) (setting : Setting) (value : String) : State :=
  match given.add? setting value with
  | some given => .ready given
  | none => .answer .usage

/-- The state behind an option without a value. -/
def addSwitch (command : Option String) (given : Given) : Setting → State
  | .help => .answer (.help command)
  | .version => .answer .version
  | setting => addValue given setting ""

/-- Reads a long option behind its two hyphens. -/
def readLong (command : Option String) (level : Level) (given : Given) (text : List Char) : State :=
  let name := String.ofList (text.takeWhile (· != '='))
  match level.settings.find? (·.longName == name), text.dropWhile (· != '=') with
  | none, _ => .answer .usage
  | some setting, [] =>
      if setting.takesValue then .awaiting given setting else addSwitch command given setting
  | some setting, _ :: value =>
      if setting.takesValue then addValue given setting (String.ofList value) else .answer .usage

/-- Reads short options behind their hyphen. -/
def readShort (command : Option String) (level : Level) (given : Given) : List Char → State
  | [] => .ready given
  | letter :: rest =>
      match level.settings.find? (·.letter? == some letter) with
      | none => .answer .usage
      | some setting =>
          if setting.takesValue then
            match rest with
            | [] => .awaiting given setting
            | '=' :: value => addValue given setting (String.ofList value)
            | value => addValue given setting (String.ofList value)
          else
            match addSwitch command given setting with
            | .ready given => readShort command level given rest
            | state => state

/-- Whether an argument looks like an option. A single hyphen does not. -/
def isOption (argument : String) : Bool :=
  match argument.toList with
  | '-' :: _ :: _ => true
  | _ => false

/-- Reads an argument that is no option. -/
def readPath (level : Level) (given : Given) (path : String) : State :=
  if given.paths.length < level.paths && !path.isEmpty then
    .ready { given with paths := given.paths ++ [path] }
  else .answer .usage

/-- Reads a part of a command line. `plain` tells that two hyphens have been read. -/
def readArguments (command : Option String) (level : Level) :
    (plain : Bool) → State → List String → Reading
  | _, .answer request, _ => .answer request
  | _, .awaiting _ _, [] => .answer .usage
  | _, .ready given, [] => .done given []
  | plain, .awaiting given setting, argument :: rest =>
      if isOption argument then .answer .usage
      else readArguments command level plain (addValue given setting argument) rest
  | true, .ready given, argument :: rest =>
      readArguments command level true (readPath level given argument) rest
  | false, .ready given, argument :: rest =>
      if argument = "--" then readArguments command level true (.ready given) rest
      else if isOption argument then
        let state :=
          match argument.toList with
          | '-' :: '-' :: text => readLong command level given text
          | text => readShort command level given text.tail
        readArguments command level false state rest
      else if level.isOuter then .done given (argument :: rest)
      else readArguments command level false (readPath level given argument) rest

/-- What may stand before the command. -/
def outerLevel : Level where
  settings := [.verbose, .config, .help, .version]
  isOuter := true

/-- What may stand behind a command. -/
def levelOf? : String → Option Level
  | "check" => some { settings := [.verbose, .config, .format, .only, .failOn, .help], paths := 1 }
  | "list-checks" | "edges" => some { settings := [.verbose, .config, .help], paths := 1 }
  | "init" => some { settings := [.verbose, .config, .force, .help] }
  | _ => none

/-- The task of a command with what was given behind it. The starting directory is the path unless
there is one. -/
def taskOf? (command : String) (given : Given) : Option Task :=
  let path := given.paths.head?.getD "."
  match command with
  | "check" => do
      let format ← OutputFormat.ofName? ((given.value? .format).getD "text")
      let failOn ← Severity.ofName? ((given.value? .failOn).getD "error")
      let only := ((given.value? .only).map fun names =>
        (Text.pieces ',' names).map fun name => String.ofList (Text.trim name.toList)).getD []
      some (.check path format only failOn)
  | "list-checks" => some (.listChecks path)
  | "init" => some (.init (given.has .force))
  | "edges" => some (.edges path)
  | _ => none

/-- What the arguments behind the word `help` ask for. -/
def readHelp : List String → Request
  | [] => .help none
  | [command] =>
      if (levelOf? command).isSome || command = "help" then .help (some command) else .usage
  | _ => .usage

/-- What a command line asks for. An option that may stand on both parts counts on the later one. -/
def Request.ofArguments (arguments : List String) : Request :=
  match readArguments none outerLevel false (.ready {}) arguments with
  | .answer request => request
  | .done _ [] => .usage
  | .done outer (command :: rest) =>
      if command = "help" then readHelp rest
      else
        match levelOf? command with
        | none => .usage
        | some level =>
            match readArguments (some command) level false (.ready {}) rest with
            | .answer request => request
            | .done inner _ =>
                match taskOf? command inner with
                | some task =>
                    .run task ((inner.value? .config <|> outer.value? .config).map Path.ofText)
                      (inner.has .verbose || outer.has .verbose)
                | none => .usage

end ImportRules.Command
