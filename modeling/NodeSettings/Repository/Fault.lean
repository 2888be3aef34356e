-- What can go wrong with a repository, the wording of it, and the lines
-- that are logged on the way. An action may fail and keeps its log lines
-- either way.
import NodeSettings.Files.Access
import NodeSettings.Settings.Codec
import NodeSettings.Settings.Required

namespace NodeSettings.Repository

open Files (FileError)

/-! ## Faults -/

inductive Fault
  | io (action path : String) (cause : FileError)
  | parse (path : String) (cause : TextError)
  | template (name : String) (cause : TextError)
  | validation (path : String) (missing : MissingField)
  | hostName (cause : FileError)

namespace Fault

/-- The message of what is behind the fault. -/
def cause : Fault → String
  | .io _ _ e => e.message
  | .parse _ e => e.message
  | .template _ e => e.message
  | .validation _ missing => missing.message
  | .hostName e => e.message

def message (f : Fault) : String :=
  match f with
  | .io action path _ => "failed to " ++ action ++ " " ++ path ++ ": " ++ f.cause
  | .parse path _ => "failed to parse config file " ++ path ++ ": " ++ f.cause
  | .template name _ => "failed to parse embedded template " ++ name ++ ": " ++ f.cause
  | .validation path _ => "invalid config file " ++ path ++ ": " ++ f.cause
  | .hostName _ => "failed to determine local host name: " ++ f.cause

/-- The required field that the fault is about, if it is about one. -/
def missing? : Fault → Option FieldPath
  | .validation _ missing => some missing.path
  | _ => none

end Fault

/-! ## Log lines -/

inductive Level
  | error
  | warn
  | info
  | debug
deriving DecidableEq

def Level.name : Level → String
  | .error => "ERROR"
  | .warn => "WARN"
  | .info => "INFO"
  | .debug => "DEBUG"

structure LogLine where
  level : Level
  text : String
deriving DecidableEq

def LogLine.message (l : LogLine) : String := l.level.name ++ " " ++ l.text

/-! ## Actions -/

abbrev Action (m : Type → Type) := ExceptT Fault (StateT (List LogLine) m)

section

variable {m : Type → Type} {α : Type} [Monad m]

/-- The outcome of an action and its log lines, oldest first. -/
def Action.outcome (a : Action m α) : m (Except Fault α × List LogLine) :=
  StateT.run (ExceptT.run a) []

def note (level : Level) (text : String) : Action m Unit :=
  modify (· ++ [⟨level, text⟩])

/-- A call on files that the action fails with. -/
def onFile (action path : String) (call : m (Except FileError α)) : Action m α := do
  match ← (liftM call : Action m (Except FileError α)) with
  | .ok a => return a
  | .error e => throw (.io action path e)

end

end NodeSettings.Repository
