-- Overrides of the three settings that are changed in place. Blank texts
-- and a zero port mean no change, except that a blank node name stands for
-- the name of the host.
import NodeSettings.Settings.Schema
import NodeSettings.Text.Blank
import NodeSettings.Text.Lowercase

namespace NodeSettings

structure Override where
  multiAddress : String := ""
  nodeName : String := ""
  port : UInt16 := 0
deriving DecidableEq

/-- An address as it is compared: without blanks at its ends and in lower case. -/
def addressForm (s : String) : List Char := Text.lowercase (Text.trim s.toList)

/-- A new address replaces the old one only if it is not blank and compares as different. -/
def addressChanges (current requested : String) : Bool :=
  !Text.isBlank requested && addressForm requested != addressForm current

namespace Override

/-- The settings with the overrides and the given node name, texts taken as they are. -/
def settings (o : Override) (name : String) (c : Settings) : Settings :=
  { c with api := { c.api with
      multiAddress :=
        if addressChanges c.api.multiAddress o.multiAddress then o.multiAddress
        else c.api.multiAddress
      nodeName := name
      port := if o.port = 0 then c.api.port else o.port } }

/-- The settings afterwards, and the error of the host if its name was needed and is not known. Then
nothing has changed. -/
def apply {m : Type → Type} {ε : Type} [Monad m] (o : Override) (host : m (Except ε String))
    (c : Settings) : m (Settings × Except ε Unit) := do
  if Text.isBlank o.nodeName then
    match ← host with
    | .ok name => return (o.settings name c, .ok ())
    | .error e => return (c, .error e)
  else return (o.settings o.nodeName c, .ok ())

end Override

/-! ## Endpoints -/

/-- The one name of an endpoint that is known. -/
def defaultEndpoint : String := "swan"

/-- The endpoint of that name, empty for a name that is not known. -/
def Settings.endpoint (c : Settings) (name : String) : String :=
  if name = defaultEndpoint then c.rpc.testnet else ""

end NodeSettings
