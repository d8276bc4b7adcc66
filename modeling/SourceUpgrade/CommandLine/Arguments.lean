import SourceUpgrade.Text.Blank

namespace SourceUpgrade.CommandLine

/-!
# Arguments

An invocation names a command and gives it options. An option takes its value after an equals sign
or from the next argument, and only the option for rule files may be given more than once; a switch
takes no value. Arguments are read from left to right, and the first one that settles the request
(help, the version or a mistake) ends the reading.
-/

/-- What the program can be told to do with a repository and an analysis. -/
inductive Command where
  | suggest
  | diff
  | apply
  | run
deriving Repr, DecidableEq

namespace Command

/-- The commands. -/
def all : List Command :=
  [.suggest, .diff, .apply, .run]

/-- The name of a command. -/
def name : Command → String
  | .suggest => "suggest"
  | .diff => "diff"
  | .apply => "apply"
  | .run => "run"

/-- The command with a name. -/
def ofName? (name : String) : Option Command :=
  all.find? fun command => command.name == name

end Command

/-- The options of a command, each as the path that it names. -/
structure Options where
  repository : Option String
  analysis : Option String
  rules : List String
  settings : Option String
  guidance : Option String
  out : Option String
  dryRun : Bool
  json : Bool
  logJson : Bool
deriving Repr, DecidableEq

/-- No options. -/
def Options.none : Options where
  repository := .none
  analysis := .none
  rules := []
  settings := .none
  guidance := .none
  out := .none
  dryRun := false
  json := false
  logJson := false

/-- A command with the files that it works on. -/
structure Invocation where
  command : Command
  repository : String
  analysis : String
  rules : List String
  settings : Option String
  guidance : Option String
  out : Option String
  dryRun : Bool
  json : Bool
deriving Repr, DecidableEq

/-- What arguments ask for. -/
inductive Request where
  | misuse
  | help
  | version
  | invoke (invocation : Invocation)
deriving Repr, DecidableEq

/-! ## Options -/

/-- The options after a switch; a switch that is already on cannot be given again. -/
def Options.withSwitch? (options : Options) (name : String) : Option Options :=
  match name with
  | "dry-run" => if options.dryRun then .none else some { options with dryRun := true }
  | "json" => if options.json then .none else some { options with json := true }
  | "log-json" => if options.logJson then .none else some { options with logJson := true }
  | _ => .none

/-- Set what has not been set before. -/
def setOnce (held : Option String) (value : String) : Option (Option String) :=
  match held with
  | some _ => none
  | none => some (some value)

/-- The options after one with a value. -/
def Options.withValue? (options : Options) (name value : String) : Option Options :=
  match name with
  | "repo" => (setOnce options.repository value).map fun held => { options with repository := held }
  | "artifact" => (setOnce options.analysis value).map fun held => { options with analysis := held }
  | "rule" => some { options with rules := options.rules ++ [value] }
  | "config" => (setOnce options.settings value).map fun held => { options with settings := held }
  | "guidance" => (setOnce options.guidance value).map fun held => { options with guidance := held }
  | "out" => (setOnce options.out value).map fun held => { options with out := held }
  | _ => .none

/-- The names of the options that take a value. -/
def valueNames : List String :=
  ["repo", "artifact", "rule", "config", "guidance", "out"]

/-- The invocation of a command, which needs a repository and an analysis. -/
def Options.request (options : Options) (command : Command) : Request :=
  match options.repository, options.analysis with
  | some repository, some analysis =>
      .invoke
        { command := command
          repository := repository
          analysis := analysis
          rules := options.rules
          settings := options.settings
          guidance := options.guidance
          out := options.out
          dryRun := options.dryRun
          json := options.json }
  | _, _ => .misuse

/-! ## Reading -/

/-- An argument by its form. -/
inductive Form where
  /-- Two hyphens alone, after which there are no more options. -/
  | stop
  /-- A name after two hyphens, and the value after an equals sign if there is one. -/
  | long (name : String) (value : Option String)
  /-- A letter after one hyphen. -/
  | short (letter : Char)
  /-- Any other argument, a hyphen alone included. -/
  | plain (text : String)
deriving Repr, DecidableEq

/-- The form of an argument. -/
def Form.ofArgument (argument : String) : Form :=
  match argument.toList with
  | ['-', '-'] => .stop
  | '-' :: '-' :: rest =>
      let name := String.ofList (rest.takeWhile (· != '='))
      match rest.dropWhile (· != '=') with
      | [] => .long name none
      | _ :: value => .long name (some (String.ofList value))
  | '-' :: letter :: _ => .short letter
  | _ => .plain argument

/-- The value that the next argument gives to an option: it may be neither empty nor an option. -/
def nextValue? (argument : String) : Option String :=
  match Form.ofArgument argument with
  | .plain text => if text.isEmpty then none else some text
  | _ => none

/-- Read the arguments after a command. -/
def readOptions (command : Command) (options : Options) : List String → Request
  | [] => options.request command
  | argument :: rest =>
      match Form.ofArgument argument with
      | .stop => if rest.isEmpty then options.request command else .misuse
      | .short letter => if letter == 'h' then .help else .misuse
      | .plain _ => .misuse
      | .long "help" none => .help
      | .long name value =>
          if valueNames.contains name then
            match value, rest with
            | some value, rest =>
                if value.isEmpty then .misuse
                else
                  match options.withValue? name value with
                  | none => .misuse
                  | some options => readOptions command options rest
            | none, next :: rest =>
                match (nextValue? next).bind (options.withValue? name) with
                | none => .misuse
                | some options => readOptions command options rest
            | none, [] => .misuse
          else
            match value, options.withSwitch? name with
            | none, some options => readOptions command options rest
            | _, _ => .misuse

/-- What a question for help on a topic asks for. -/
def readHelp : List String → Request
  | [] => .help
  | [topic] => if topic == "help" || (Command.ofName? topic).isSome then .help else .misuse
  | _ => .misuse

/-- Read arguments from the first on, given whether the form of log lines has been chosen. -/
def readFrom (logChosen : Bool) : List String → Request
  | [] => .misuse
  | argument :: rest =>
      match Form.ofArgument argument with
      | .long "help" none => .help
      | .long "version" none => .version
      | .long "log-json" none => if logChosen then .misuse else readFrom true rest
      | .long _ _ => .misuse
      | .stop => .misuse
      | .short letter =>
          if letter == 'h' then .help else if letter == 'V' then .version else .misuse
      | .plain name =>
          if name == "help" then
            readHelp rest
          else
            match Command.ofName? name with
            | none => .misuse
            | some command => readOptions command .none rest

/-- Read arguments. -/
def readArguments (arguments : List String) : Request :=
  readFrom false arguments

end SourceUpgrade.CommandLine
