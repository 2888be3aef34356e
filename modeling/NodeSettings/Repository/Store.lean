-- The loaded settings of a repository. A store is made from a file that
-- defines all that its mode requires, and does not change afterwards.
import NodeSettings.Repository.SettingsFile
import NodeSettings.Settings.Override

namespace NodeSettings.Repository

open Files (FileAccess)

structure Store where
  root : String
  mode : Mode
  settings : Settings
  presence : Presence

variable {m : Type → Type} [Monad m] [FileAccess m]

/-- Reads the settings of a repository and checks that all required fields are defined. Unknown keys
are only warned about. -/
def load (root : String) (mode : Mode) : Action m Store := do
  let path := settingsPath root
  let (c, p) ← readSettings path
  match p.missing? mode with
  | some missing => throw (.validation path missing)
  | none =>
    let unknown := p.unknown knownKeys
    unless unknown.isEmpty do
      note .warn ("ignoring unknown keys in " ++ path ++ ": " ++ ", ".intercalate unknown)
    note .info ("loaded " ++ mode.name ++ " node config from " ++ path)
    return ⟨root, mode, c, p⟩

namespace Store

/-- Loads the same repository again in the same mode. -/
def reload (s : Store) : Action m Store := load s.root s.mode

def path (s : Store) : String := settingsPath s.root

def unknownKeys (s : Store) : List String := s.presence.unknown knownKeys

end Store

end NodeSettings.Repository
