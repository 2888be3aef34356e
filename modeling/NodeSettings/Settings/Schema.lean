-- The names of the sections and keys as they stand in a file, the kind of
-- each key, and the way from a key to its place in the settings.
import NodeSettings.Settings.Basic

namespace NodeSettings

/-! ## Sections -/

inductive Section
  | api
  | ubi
  | log
  | hub
  | mcs
  | registry
  | rpc
  | contract
deriving DecidableEq

namespace Section

/-- In the order in which they are written. -/
def all : List Section := [.api, .ubi, .log, .hub, .mcs, .registry, .rpc, .contract]

def name : Section → String
  | .api => "API"
  | .ubi => "UBI"
  | .log => "LOG"
  | .hub => "HUB"
  | .mcs => "MCS"
  | .registry => "Registry"
  | .rpc => "RPC"
  | .contract => "CONTRACT"

/-- What a message calls the content of the section. -/
def shape : Section → String
  | .api => "struct ApiConfig"
  | .ubi => "struct UbiConfig"
  | .log => "struct LogConfig"
  | .hub => "struct HubConfig"
  | .mcs => "struct McsConfig"
  | .registry => "struct RegistryConfig"
  | .rpc => "struct RpcConfig"
  | .contract => "struct ContractConfig"

def ofName? (name : String) : Option Section := all.find? (·.name == name)

end Section

/-! ## Keys -/

inductive Key
  | port | multiAddress | domain | nodeName | redisUrl | redisPassword | walletWhiteList
  | ubiTask | ubiEnginePk | ubiUrl
  | crtFile | keyFile
  | walletAddress | serverUrl | hubAccessToken | balanceThreshold | orchestratorPk | verifySign
  | apiKey | mcsAccessToken | bucketName | network | fileCachePath
  | serverAddress | userName | password
  | testnet | mainnet
  | token | collateral
deriving DecidableEq

/-- The keys of a section in the order in which they are written. -/
def Section.keys : Section → List Key
  | .api => [
      .port, .multiAddress, .domain, .nodeName,
      .redisUrl, .redisPassword, .walletWhiteList]
  | .ubi => [.ubiTask, .ubiEnginePk, .ubiUrl]
  | .log => [.crtFile, .keyFile]
  | .hub => [
      .walletAddress, .serverUrl, .hubAccessToken, .balanceThreshold,
      .orchestratorPk, .verifySign]
  | .mcs => [.apiKey, .mcsAccessToken, .bucketName, .network, .fileCachePath]
  | .registry => [.serverAddress, .userName, .password]
  | .rpc => [.testnet, .mainnet]
  | .contract => [.token, .collateral]

namespace Key

def name : Key → String
  | .port => "Port"
  | .multiAddress => "MultiAddress"
  | .domain => "Domain"
  | .nodeName => "NodeName"
  | .redisUrl => "RedisUrl"
  | .redisPassword => "RedisPassword"
  | .walletWhiteList => "WalletWhiteList"
  | .ubiTask => "UbiTask"
  | .ubiEnginePk => "UbiEnginePk"
  | .ubiUrl => "UbiUrl"
  | .crtFile => "CrtFile"
  | .keyFile => "KeyFile"
  | .walletAddress => "WalletAddress"
  | .serverUrl => "ServerUrl"
  | .hubAccessToken => "AccessToken"
  | .balanceThreshold => "BalanceThreshold"
  | .orchestratorPk => "OrchestratorPk"
  | .verifySign => "VerifySign"
  | .apiKey => "ApiKey"
  | .mcsAccessToken => "AccessToken"
  | .bucketName => "BucketName"
  | .network => "Network"
  | .fileCachePath => "FileCachePath"
  | .serverAddress => "ServerAddress"
  | .userName => "UserName"
  | .password => "Password"
  | .testnet => "SWAN_TESTNET"
  | .mainnet => "SWAN_MAINNET"
  | .token => "SWAN_CONTRACT"
  | .collateral => "SWAN_COLLATERAL_CONTRACT"

/-- The section that a key stands in. -/
def home : Key → Section
  | .port | .multiAddress | .domain | .nodeName
  | .redisUrl | .redisPassword | .walletWhiteList => .api
  | .ubiTask | .ubiEnginePk | .ubiUrl => .ubi
  | .crtFile | .keyFile => .log
  | .walletAddress | .serverUrl | .hubAccessToken | .balanceThreshold
  | .orchestratorPk | .verifySign => .hub
  | .apiKey | .mcsAccessToken | .bucketName | .network | .fileCachePath => .mcs
  | .serverAddress | .userName | .password => .registry
  | .testnet | .mainnet => .rpc
  | .token | .collateral => .contract

def kind : Key → Kind
  | .port => .port
  | .ubiTask | .verifySign => .flag
  | .balanceThreshold => .amount
  | _ => .text

end Key

/-- All keys, section by section. -/
def Key.all : List Key := Section.all.flatMap Section.keys

/-- The key of that name in a section. -/
def Section.key? (s : Section) (name : String) : Option Key := s.keys.find? (·.name == name)

@[simp] theorem Section.ofName?_name (s : Section) : Section.ofName? s.name = some s := by
  cases s <;> decide

@[simp] theorem Section.key?_name (k : Key) : k.home.key? k.name = some k := by
  cases k <;> decide

theorem Section.mem_keys_iff {s : Section} {k : Key} : k ∈ s.keys ↔ k.home = s := by
  cases s <;> cases k <;> decide

/-! ## The content under a key -/

namespace Settings

def get (c : Settings) : (k : Key) → k.kind.Content
  | .port => c.api.port
  | .multiAddress => c.api.multiAddress
  | .domain => c.api.domain
  | .nodeName => c.api.nodeName
  | .redisUrl => c.api.redisUrl
  | .redisPassword => c.api.redisPassword
  | .walletWhiteList => c.api.walletWhiteList
  | .ubiTask => c.ubi.ubiTask
  | .ubiEnginePk => c.ubi.ubiEnginePk
  | .ubiUrl => c.ubi.ubiUrl
  | .crtFile => c.log.crtFile
  | .keyFile => c.log.keyFile
  | .walletAddress => c.hub.walletAddress
  | .serverUrl => c.hub.serverUrl
  | .hubAccessToken => c.hub.accessToken
  | .balanceThreshold => c.hub.balanceThreshold
  | .orchestratorPk => c.hub.orchestratorPk
  | .verifySign => c.hub.verifySign
  | .apiKey => c.mcs.apiKey
  | .mcsAccessToken => c.mcs.accessToken
  | .bucketName => c.mcs.bucketName
  | .network => c.mcs.network
  | .fileCachePath => c.mcs.fileCachePath
  | .serverAddress => c.registry.serverAddress
  | .userName => c.registry.userName
  | .password => c.registry.password
  | .testnet => c.rpc.testnet
  | .mainnet => c.rpc.mainnet
  | .token => c.contract.token
  | .collateral => c.contract.collateral

def put (c : Settings) : (k : Key) → k.kind.Content → Settings
  | .port, v => { c with api.port := v }
  | .multiAddress, v => { c with api.multiAddress := v }
  | .domain, v => { c with api.domain := v }
  | .nodeName, v => { c with api.nodeName := v }
  | .redisUrl, v => { c with api.redisUrl := v }
  | .redisPassword, v => { c with api.redisPassword := v }
  | .walletWhiteList, v => { c with api.walletWhiteList := v }
  | .ubiTask, v => { c with ubi.ubiTask := v }
  | .ubiEnginePk, v => { c with ubi.ubiEnginePk := v }
  | .ubiUrl, v => { c with ubi.ubiUrl := v }
  | .crtFile, v => { c with log.crtFile := v }
  | .keyFile, v => { c with log.keyFile := v }
  | .walletAddress, v => { c with hub.walletAddress := v }
  | .serverUrl, v => { c with hub.serverUrl := v }
  | .hubAccessToken, v => { c with hub.accessToken := v }
  | .balanceThreshold, v => { c with hub.balanceThreshold := v }
  | .orchestratorPk, v => { c with hub.orchestratorPk := v }
  | .verifySign, v => { c with hub.verifySign := v }
  | .apiKey, v => { c with mcs.apiKey := v }
  | .mcsAccessToken, v => { c with mcs.accessToken := v }
  | .bucketName, v => { c with mcs.bucketName := v }
  | .network, v => { c with mcs.network := v }
  | .fileCachePath, v => { c with mcs.fileCachePath := v }
  | .serverAddress, v => { c with registry.serverAddress := v }
  | .userName, v => { c with registry.userName := v }
  | .password, v => { c with registry.password := v }
  | .testnet, v => { c with rpc.testnet := v }
  | .mainnet, v => { c with rpc.mainnet := v }
  | .token, v => { c with contract.token := v }
  | .collateral, v => { c with contract.collateral := v }

@[simp] theorem get_put_same (c : Settings) (k : Key) (v : k.kind.Content) :
    (c.put k v).get k = v := by
  cases k <;> rfl

theorem get_put_other (c : Settings) {k k' : Key} (v : k.kind.Content) (h : k' ≠ k) :
    (c.put k v).get k' = c.get k' := by
  cases k <;> cases k' <;> first | rfl | exact absurd rfl h

end Settings

end NodeSettings
