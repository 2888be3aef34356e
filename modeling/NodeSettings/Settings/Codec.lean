-- The two ways between a text and settings, and the keys that settings
-- know. Reading gives the defined paths along with the settings.
import NodeSettings.Settings.Decode
import NodeSettings.Settings.Encode
import NodeSettings.Settings.Presence
import NodeSettings.Toml.Document

namespace NodeSettings

/-- Why a text gives no settings. The last one is for messages that come from elsewhere. -/
inductive TextError
  | notToml
  | misfit (m : Misfit)
  | other (message : String)

def TextError.message : TextError → String
  | .notToml => "TOML parse error"
  | .misfit m => m.message
  | .other message => message ++ "\n"

namespace Settings

def decode (text : String) : Except TextError (Settings × Presence) :=
  match Toml.readTable text with
  | none => .error .notToml
  | some t =>
    match ofTable t with
    | .ok c => .ok (c, .ofTable t)
    | .error m => .error (.misfit m)

/-- The value that is written under a key. -/
def valueOf (c : Settings) (k : Key) : Toml.Value :=
  match k.kind, c.get k with
  | .port, n => .scalar (.integer n.toNat)
  | .text, s => .scalar (.text s)
  | .flag, b => .scalar (.flag b)
  | .amount, x => .scalar (.number x)

/-- Settings as a table, with every section and key. -/
def toTable (c : Settings) : Toml.Table :=
  Section.all.foldl (fun t s => Sorted.put s.name
    (.table (s.keys.foldl (fun es k => Sorted.put k.name (c.valueOf k) es) [])) t) []

/-- Equality of all settings, amounts being compared as numbers. -/
def sameValues (c d : Settings) : Bool :=
  c.hub.balanceThreshold.sameValue d.hub.balanceThreshold &&
    c == { d with hub.balanceThreshold := c.hub.balanceThreshold }

end Settings

/-- The paths of all sections and keys that settings have. -/
def knownKeys : Presence := .ofTable ({} : Settings).toTable

end NodeSettings
