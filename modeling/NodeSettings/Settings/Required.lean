-- The sections and keys that a document must define, for each way to run a
-- node. What counts is that a key is there, not what it holds. The first
-- missing one is reported.
import NodeSettings.Settings.Presence

namespace NodeSettings

/-! ## Fields -/

/-- A section, or a key in one. -/
structure FieldPath where
  head : String
  key? : Option String := none
deriving DecidableEq

namespace FieldPath

def segments (f : FieldPath) : Path :=
  match f.key? with
  | none => [f.head]
  | some key => [f.head, key]

def dotted (f : FieldPath) : String :=
  match f.key? with
  | none => f.head
  | some key => f.head ++ "." ++ key

end FieldPath

/-! ## Modes -/

/-- How a node runs: on its own, or wired into every outside service. -/
inductive Mode
  | standalone
  | integrated
deriving DecidableEq

namespace Mode

def ofStandalone (standalone : Bool) : Mode := if standalone then .standalone else .integrated

def name : Mode → String
  | .standalone => "standalone"
  | .integrated => "integrated"

/-- The required fields in the order in which they are checked, sections first. -/
def required : Mode → List FieldPath
  | .standalone => [
      ⟨"API", none⟩, ⟨"UBI", none⟩, ⟨"HUB", none⟩,
      ⟨"API", "MultiAddress"⟩, ⟨"API", "RedisUrl"⟩,
      ⟨"UBI", "UbiTask"⟩, ⟨"UBI", "UbiEnginePk"⟩, ⟨"UBI", "UbiUrl"⟩,
      ⟨"RPC", "SWAN_TESTNET"⟩,
      ⟨"CONTRACT", "SWAN_CONTRACT"⟩, ⟨"CONTRACT", "SWAN_COLLATERAL_CONTRACT"⟩]
  | .integrated => [
      ⟨"API", none⟩, ⟨"LOG", none⟩, ⟨"UBI", none⟩, ⟨"HUB", none⟩,
      ⟨"MCS", none⟩, ⟨"Registry", none⟩, ⟨"RPC", none⟩, ⟨"CONTRACT", none⟩,
      ⟨"API", "MultiAddress"⟩, ⟨"API", "Domain"⟩, ⟨"API", "RedisUrl"⟩,
      ⟨"LOG", "CrtFile"⟩, ⟨"LOG", "KeyFile"⟩,
      ⟨"UBI", "UbiTask"⟩, ⟨"UBI", "UbiEnginePk"⟩, ⟨"UBI", "UbiUrl"⟩,
      ⟨"HUB", "ServerUrl"⟩, ⟨"HUB", "AccessToken"⟩, ⟨"HUB", "WalletAddress"⟩,
      ⟨"MCS", "ApiKey"⟩, ⟨"MCS", "BucketName"⟩, ⟨"MCS", "Network"⟩, ⟨"MCS", "FileCachePath"⟩,
      ⟨"RPC", "SWAN_TESTNET"⟩,
      ⟨"CONTRACT", "SWAN_CONTRACT"⟩, ⟨"CONTRACT", "SWAN_COLLATERAL_CONTRACT"⟩]

end Mode

/-! ## The check -/

/-- A required field that a document does not define. -/
structure MissingField where
  path : FieldPath
  mode : Mode
deriving DecidableEq

def MissingField.message (m : MissingField) : String :=
  "required field " ++ m.path.dotted ++ " is missing (mode: " ++ m.mode.name ++ ")"

/-- The first required field that is not defined, if there is one. -/
def Presence.missing? (p : Presence) (mode : Mode) : Option MissingField :=
  (mode.required.find? fun f => !p.defines f.segments).map (⟨·, mode⟩)

/-! ## Laws -/

theorem Presence.missing?_eq_none_iff (p : Presence) (mode : Mode) :
    p.missing? mode = none ↔ ∀ f ∈ mode.required, p.defines f.segments = true := by
  simp [missing?]

end NodeSettings
