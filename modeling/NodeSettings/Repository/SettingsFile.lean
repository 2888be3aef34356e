-- The files of a repository by their paths, and reading and writing the
-- settings file.
import NodeSettings.Repository.Fault

namespace NodeSettings.Repository

open Files (FileAccess WriteError join)

/-! ## Paths -/

def settingsName : String := "config.toml"

def dataDirectory : String := "store_data/data"

def cacheDirectory : String := "store_data/conf"

def cacheName : String := "redis.conf"

def settingsPath (root : String) : String := join root settingsName

def cachePath (root : String) : String := join (join root cacheDirectory) cacheName

/-! ## Reading and writing -/

variable {m : Type → Type} [Monad m] [FileAccess m]

/-- The settings in a file, and the keys it defines. -/
def readSettings (path : String) : Action m (Settings × Presence) := do
  let bytes ← onFile "read" path (FileAccess.read path)
  match String.fromUTF8? bytes with
  | none => throw (.io "read" path .notText)
  | some text =>
    match Settings.decode text with
    | .error e => throw (.parse path e)
    | .ok (c, p) =>
      note .debug ("decoded " ++ toString p.size ++ " keys from " ++ path)
      return (c, p)

/-- Turns the outcome of a write into that of an action. -/
def onWrite (path : String) : Except WriteError Unit → Action m Unit
  | .ok () => pure ()
  | .error (.opening e) => throw (.io "create" path e)
  | .error (.writing e) => throw (.io "write" path e)

/-- Writes the canonical text of settings, in place of what the file held. -/
def writeSettings (path : String) (c : Settings) : Action m Unit := do
  onWrite path (← (liftM (FileAccess.write path c.encode.toUTF8 : m _) : Action m _))

end NodeSettings.Repository
