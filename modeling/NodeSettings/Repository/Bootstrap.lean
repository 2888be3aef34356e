-- Laying out a fresh repository: two directories, the cache configuration,
-- and default settings. What is there already stays as it is.
import NodeSettings.Repository.Defaults
import NodeSettings.Repository.SettingsFile

namespace NodeSettings.Repository

open Files (FileAccess WriteError join makeDirectories)

variable {m : Type → Type} [Monad m] [FileAccess m]

/-- The settings that a template gives. -/
def settingsOf (name text : String) : Except Fault Settings :=
  match Settings.decode text with
  | .ok (c, _) => .ok c
  | .error e => .error (.template name e)

/-- The settings that a fresh repository starts with. -/
def defaultSettings : Except Fault Settings := settingsOf settingsName template

def noteKept (path : String) : Action m Unit :=
  note .debug (path ++ " already exists, keeping it")

/-- Writes a new file, unless there is an entry of that name. -/
def writeIfAbsent (path text : String) : Action m Unit := do
  match ← (liftM (FileAccess.createNew path text.toUTF8 : m _) : Action m _) with
  | .error (.opening .alreadyThere) => noteKept path
  | outcome =>
    onWrite path outcome
    note .info ("wrote default " ++ path)

/-- Makes a directory of the repository, with those above it. -/
def makeInside (root directory : String) : Action m Unit :=
  let path := join root directory
  onFile "create directory" path (makeDirectories path)

/-- Makes whatever of the repository is missing. -/
def layOut (root : String) : Action m Unit := do
  makeInside root dataDirectory
  makeInside root cacheDirectory
  writeIfAbsent (cachePath root) cacheConfiguration
  let path := settingsPath root
  if ← (liftM (FileAccess.isThere path : m Bool) : Action m Bool) then noteKept path
  else
    let c ← (ExceptT.mk (pure defaultSettings) : Action m Settings)
    writeIfAbsent path c.encode

end NodeSettings.Repository
