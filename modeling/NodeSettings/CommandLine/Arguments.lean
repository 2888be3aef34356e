-- The command line: two options that may stand before or after the
-- command, four commands, and the environment variables behind the two
-- options. Every option stands at most once on its side of the command.
import NodeSettings.Settings.Override
import NodeSettings.Settings.Required
import NodeSettings.Files.Route

namespace NodeSettings.CommandLine

/-! ## Requests -/

inductive Command
  | init (o : Override)
  | validate
  | display
  | endpoint (name : String)
deriving DecidableEq

structure Invocation where
  repository : String
  mode : Mode
  command : Command
deriving DecidableEq

/-- What the arguments ask for. -/
inductive Request
  | run (i : Invocation)
  | version
  | help
  | misuse
deriving DecidableEq

/-- The environment variables that matter: the repository, standalone mode, the home directory, and
how much is logged. -/
structure Environment where
  repository : Option String := none
  standalone : Option String := none
  home : Option String := none
  verbosity : Option String := none

/-! ## Single arguments -/

/-- An argument by its form. A lone dash is a plain word, two dashes end the options. -/
inductive Argument
  | word (s : String)
  | long (name : String) (value : Option String)
  | short (letter : Char)
  | endOfOptions

def Argument.ofString (s : String) : Argument :=
  match s.toList with
  | ['-', '-'] => .endOfOptions
  | '-' :: '-' :: cs =>
    match cs.dropWhile (· != '=') with
    | '=' :: value => .long (String.ofList (cs.takeWhile (· != '='))) (some (String.ofList value))
    | _ => .long (String.ofList cs) none
  | '-' :: c :: _ => .short c
  | _ => .word s

/-- What may follow an option as its value. -/
def isWord (s : String) : Bool :=
  match Argument.ofString s with
  | .word _ => true
  | _ => false

/-! ## Options -/

/-- The options on one side of the command. -/
structure Options where
  repository : Option String := none
  standalone : Bool := false
  multiAddress : Option String := none
  nodeName : Option String := none
  port : Option UInt16 := none
  words : List String := []

/-- An optional sign and decimal digits, as a number of 16 bits. -/
def portOfText? (s : String) : Option UInt16 := do
  let (negative, digits) := match s.toList with
    | '-' :: cs => (true, cs)
    | '+' :: cs => (false, cs)
    | cs => (false, cs)
  if digits.isEmpty || !digits.all Char.isDigit then none
  else
    let n := digits.foldl (fun n c => n * 10 + (c.toNat - '0'.toNat)) 0
    if n < 65536 && !(negative && n != 0) then some (UInt16.ofNat n) else none

namespace Options

/-- Sets an option that is not set yet. An empty repository is none. -/
def set (o : Options) (isInit : Bool) (name value : String) : Option Options :=
  if name = "repo" then
    if o.repository.isNone && !value.isEmpty then some { o with repository := value } else none
  else if !isInit then none
  else if name = "multi-address" then
    if o.multiAddress.isNone then some { o with multiAddress := value } else none
  else if name = "node-name" then
    if o.nodeName.isNone then some { o with nodeName := value } else none
  else if name = "port" then
    if o.port.isNone then (portOfText? value).map fun p => { o with port := p } else none
  else none

/-- Sets an option without a value. -/
def setFlag (o : Options) (name : String) : Option Options :=
  if name = "standalone" && !o.standalone then some { o with standalone := true } else none

end Options

/-- How the arguments on one side of the command end. -/
inductive Side
  | done (o : Options)
  | command (o : Options) (name : String) (rest : List String)
  | help
  | version
  | misuse

/-- How many words may stand behind a command. -/
def wordRoom (command : String) : Nat := if command = "rpc" then 1 else 0

/-- Reads the options behind a command. The words among them are collected, and one too many ends
the reading; those behind the end of the options are not counted here. -/
def readBehind (command : String) : Options → List String → Side
  | o, [] => .done o
  | o, arg :: args =>
    match Argument.ofString arg with
    | .word s =>
      if o.words.length < wordRoom command then
        readBehind command { o with words := o.words ++ [s] } args
      else .misuse
    | .endOfOptions => .done { o with words := o.words ++ args }
    | .short c => if c == 'h' then .help else .misuse
    | .long "help" none => .help
    | .long name (some value) =>
      match o.set (command == "init") name value with
      | some o => readBehind command o args
      | none => .misuse
    | .long name none =>
      match o.setFlag name with
      | some o => readBehind command o args
      | none =>
        match args with
        | value :: args =>
          if isWord value then
            match o.set (command == "init") name value with
            | some o => readBehind command o args
            | none => .misuse
          else .misuse
        | [] => .misuse

/-- Reads the options in front of the command, up to the command. -/
def readBefore : Options → List String → Side
  | _, [] => .misuse
  | o, arg :: args =>
    match Argument.ofString arg with
    | .word s => .command o s args
    | .endOfOptions => .misuse
    | .short c => if c == 'h' then .help else if c == 'V' then .version else .misuse
    | .long "help" none => .help
    | .long "version" none => .version
    | .long name (some value) =>
      match o.set false name value with
      | some o => readBefore o args
      | none => .misuse
    | .long name none =>
      match o.setFlag name with
      | some o => readBefore o args
      | none =>
        match args with
        | value :: args =>
          if isWord value then
            match o.set false name value with
            | some o => readBefore o args
            | none => .misuse
          else .misuse
        | [] => .misuse

/-! ## The environment -/

/-- A variable counts where the option is not given. An empty repository is not allowed. -/
def withVariable (given : Option String) (fromEnv : Option String) : Option (Option String) :=
  match given, fromEnv with
  | some s, _ => some (some s)
  | none, some "" => none
  | none, v => some v

/-- The variable for standalone mode takes two words only. -/
def withFlagVariable (given : Bool) (fromEnv : Option String) : Option Bool :=
  if given then some true
  else match fromEnv with
    | none => some false
    | some "true" => some true
    | some "false" => some false
    | some _ => none

/-- The repository where nothing names one: below the home directory, or the working directory. -/
def defaultRepository (home : Option String) : String :=
  match home with
  | some h => Files.join (Files.join h ".swan") "computing"
  | none => "."

/-! ## The whole command line -/

/-- The command by its name, with the options and words behind it. -/
def commandOf? (name : String) (o : Options) : Option Command :=
  match name, o.words with
  | "init", [] => some (.init ⟨o.multiAddress.getD "", o.nodeName.getD "", o.port.getD 0⟩)
  | "validate", [] => some .validate
  | "show", [] => some .display
  | "rpc", [] => some (.endpoint defaultEndpoint)
  | "rpc", [s] => some (.endpoint s)
  | _, _ => none

def commandNames : List String := ["init", "validate", "show", "rpc"]

/-- Both sides of the command and the environment together. What stands behind the command comes
first, then what stands before it, then the environment. The environment must be sound wherever one
side leaves it the word. -/
def invocation? (env : Environment) (before behind : Options) (command : Command) :
    Option Invocation := do
  let outer ← withVariable before.repository env.repository
  let inner ← withVariable behind.repository env.repository
  let outerFlag ← withFlagVariable before.standalone env.standalone
  let innerFlag ← withFlagVariable behind.standalone env.standalone
  let repository := behind.repository.or (before.repository.or (inner.or outer))
  let standalone := behind.standalone || before.standalone || innerFlag || outerFlag
  return ⟨repository.getD (defaultRepository env.home), .ofStandalone standalone, command⟩

def Request.ofHelp : List String → Request
  | [] => .help
  | [name] => if name = "help" || commandNames.contains name then .help else .misuse
  | _ => .misuse

def Request.ofArguments (env : Environment) (args : List String) : Request :=
  match readBefore {} args with
  | .help => .help
  | .version => .version
  | .done _ | .misuse => .misuse
  | .command before name rest =>
    if name = "help" then .ofHelp rest
    else if !commandNames.contains name then .misuse
    else match readBehind name {} rest with
      | .help => .help
      | .done behind =>
        match (commandOf? name behind).bind (invocation? env before behind) with
        | some i => .run i
        | none => .misuse
      | _ => .misuse

end NodeSettings.CommandLine
