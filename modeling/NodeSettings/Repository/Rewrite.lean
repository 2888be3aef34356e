-- Changing settings in place. The old file is taken away, so that a link
-- is replaced and not followed, and a new one is written under its name.
import NodeSettings.Repository.Bootstrap
import NodeSettings.Settings.Override

namespace NodeSettings.Repository

open Files (FileAccess FileError)

variable {m : Type → Type} [Monad m] [FileAccess m]

/-- Applies overrides to the settings of a repository and gives what was written. Nothing is written
if the name of the host is needed and not known. -/
def rewrite (root : String) (o : Override) (host : m (Except FileError String)) :
    Action m Settings := do
  let path := settingsPath root
  let (old, _) ← readSettings path
  let (c, named) ← (liftM (o.apply host old) : Action m _)
  match named with
  | .error e => throw (.hostName e)
  | .ok () =>
    onFile "remove" path (FileAccess.removeFile path)
    writeSettings path c
    note .info ("updated " ++ path ++ ": multi-address " ++ c.api.multiAddress ++ ", node name " ++
      c.api.nodeName ++ ", port " ++ toString c.api.port)
    return c

/-- Lays out a repository and gives it its address, name and port. -/
def setUp (root : String) (o : Override) (host : m (Except FileError String)) :
    Action m Settings := do
  layOut root
  rewrite root o host

end NodeSettings.Repository
