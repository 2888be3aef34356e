-- The settings of a compute node: eight sections with thirty keys in all.
-- A key that was not given holds the zero of its kind.
import NodeSettings.Decimal.Binary64

namespace NodeSettings

open Decimal (Binary64)

/-! ## Kinds -/

/-- What a key can hold. -/
inductive Kind
  | port
  | text
  | flag
  | amount
deriving DecidableEq

abbrev Kind.Content : Kind → Type
  | .port => UInt16
  | .text => String
  | .flag => Bool
  | .amount => Binary64

/-! ## Sections -/

/-- Where the node listens, what it is called, and its cache service. -/
structure Api where
  port : UInt16 := 0
  multiAddress : String := ""
  domain : String := ""
  nodeName : String := ""
  redisUrl : String := ""
  redisPassword : String := ""
  walletWhiteList : String := ""
deriving DecidableEq

/-- Task verification. -/
structure Ubi where
  ubiTask : Bool := false
  ubiEnginePk : String := ""
  ubiUrl : String := ""
deriving DecidableEq

/-- Certificate and key of the log server. -/
structure Log where
  crtFile : String := ""
  keyFile : String := ""
deriving DecidableEq

/-- The coordinator that sends jobs. -/
structure Hub where
  walletAddress : String := ""
  serverUrl : String := ""
  accessToken : String := ""
  balanceThreshold : Binary64 := .zero
  orchestratorPk : String := ""
  verifySign : Bool := false
deriving DecidableEq

/-- Object storage. -/
structure Mcs where
  apiKey : String := ""
  accessToken : String := ""
  bucketName : String := ""
  network : String := ""
  fileCachePath : String := ""
deriving DecidableEq

/-- The container registry. -/
structure Registry where
  serverAddress : String := ""
  userName : String := ""
  password : String := ""
deriving DecidableEq

/-- Named chain endpoints. -/
structure Rpc where
  testnet : String := ""
  mainnet : String := ""
deriving DecidableEq

/-- Contract addresses on the chain. -/
structure Contract where
  token : String := ""
  collateral : String := ""
deriving DecidableEq

structure Settings where
  api : Api := {}
  ubi : Ubi := {}
  log : Log := {}
  hub : Hub := {}
  mcs : Mcs := {}
  registry : Registry := {}
  rpc : Rpc := {}
  contract : Contract := {}
deriving DecidableEq

instance : Inhabited Settings := ⟨{}⟩

end NodeSettings
