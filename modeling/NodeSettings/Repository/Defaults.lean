-- The files that a fresh repository starts with: a template for the
-- settings, and the configuration of the cache service.
namespace NodeSettings.Repository

/-- The settings template. Its comments and spacing are for readers; a fresh repository gets the
canonical text of the same settings. -/
def template : String := r#"[API]
Port = 8085                                     # The port number that the web server listens on
MultiAddress = "/ip4/<public_ip>/tcp/<port>"    # The multiAddress for libp2p
Domain = ""                                     # The domain name
NodeName = ""                                   # The computing-provider node name
RedisUrl = "redis://127.0.0.1:6379"             # The redis server address
RedisPassword = ""                              # The redis server access password
WalletWhiteList = ""                            # Only wallets on this list may submit jobs

[UBI]
UbiTask = true                                  # Accept UBI ZK-tasks
UbiEnginePk = ""                                # UBI engine public key, used to verify task signatures
UbiUrl = "https://ubi-task-api.swanchain.io/v1" # UBI engine service address

[LOG]
CrtFile = "/etc/ssl/certs/ingress.crt"          # TLS certificate used by the log server
KeyFile = "/etc/ssl/private/ingress.key"        # TLS private key used by the log server

[HUB]
WalletAddress = ""                              # Beneficiary wallet address of the provider
ServerUrl = "https://orchestrator-api.swanchain.io"
AccessToken = ""                                # Orchestrator access token
BalanceThreshold = 1.0                          # Minimum wallet balance before accepting jobs
OrchestratorPk = ""                             # Orchestrator public key
VerifySign = true                               # Verify job signatures issued by the orchestrator

[MCS]
ApiKey = ""                                     # Object storage API key
AccessToken = ""                                # Object storage access token
BucketName = ""                                 # Bucket holding job artifacts
Network = "polygon.mainnet"                     # Object storage network
FileCachePath = "/tmp"                          # Local cache for downloaded artifacts

[Registry]
ServerAddress = ""                              # Container registry address
UserName = ""                                   # Container registry login
Password = ""                                   # Container registry password

[RPC]
SWAN_TESTNET = "https://rpc-proxima.swanchain.io"
SWAN_MAINNET = "https://mainnet-rpc.swanchain.org"

[CONTRACT]
SWAN_CONTRACT = ""                              # Token contract address
SWAN_COLLATERAL_CONTRACT = ""                   # Collateral contract address
"#

/-- The cache service configuration, written as it is. -/
def cacheConfiguration : String := r#"# Redis configuration for the compute node cache service.
# Mounted into the cache container from store_data/conf/redis.conf.

bind 0.0.0.0
protected-mode no
port 6379
tcp-backlog 511
timeout 0
tcp-keepalive 300

daemonize no
loglevel notice
logfile ""
databases 16

# Snapshotting
save 900 1
save 300 10
save 60 10000
stop-writes-on-bgsave-error yes
rdbcompression yes
rdbchecksum yes
dbfilename dump.rdb
dir /data

# Append only file
appendonly yes
appendfilename "appendonly.aof"
appendfsync everysec
no-appendfsync-on-rewrite no
auto-aof-rewrite-percentage 100
auto-aof-rewrite-min-size 64mb

maxmemory-policy noeviction
"#

end NodeSettings.Repository
