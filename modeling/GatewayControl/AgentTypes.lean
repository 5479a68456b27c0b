import GatewayControl.Text

/-!
The values agent and control plane exchange: commands, their payloads and their
results, as the agent's `types` package and executors declare them.

Payloads are kept decoded. Those of the commands whose execution is modelled have a
constructor each; every other payload is its raw text.
-/

namespace GatewayControl.AgentTypes

/-- Nanoseconds since the epoch. -/
abbrev Time := Nat

structure DiagnosticCheck where
  state : String
  detail : String
deriving DecidableEq

structure ConnectorDiagnostic where
  status : String
  error : String
deriving DecidableEq

structure Diagnostics where
  checks : List (String × DiagnosticCheck)
  connectors : List (String × ConnectorDiagnostic)
deriving DecidableEq

structure BackupArtifact where
  type : String
  name : String
  sizeBytes : Int
  sha256 : String
deriving DecidableEq

structure ConnectorSyncPayload where
  connectorId : String
  revision : Int
  name : String := ""
  enabled : Option Bool
  token : String := ""
deriving DecidableEq

structure ConnectorRemovePayload where
  connectorId : String
  revision : Int
deriving DecidableEq

structure RouteSyncPayload where
  routeId : String
  name : String
  hostname : String
  exposure : String
  backends : List String
  enabled : Option Bool
  revision : Option Int
deriving DecidableEq

structure PostgresBackupConfig where
  service : String
  database : String
  user : String
deriving DecidableEq

structure StackRestorePayload where
  restoreId : String
  backupId : String
  stackId : String
  projectName : String
  revision : Int
  target : String
  stackPath : String
  composePath : String
  postgres : Option PostgresBackupConfig
deriving DecidableEq

inductive Payload where
  | connectorSync (p : ConnectorSyncPayload)
  | connectorRemove (p : ConnectorRemovePayload)
  | routeSync (p : RouteSyncPayload)
  | stackRestore (p : StackRestorePayload)
  | raw (text : String)
deriving DecidableEq

structure Command where
  id : String
  type : String
  payload : Payload
deriving DecidableEq

structure CommandResult where
  commandId : String
  type : String
  success : Bool := false
  exitCode : Int
  stdout : String := ""
  stderr : String := ""
  error : String := ""
  code : String := ""
  timedOut : Bool := false
  truncated : Bool := false
  startedAt : Time
  finishedAt : Time
  logs : String := ""
  backupId : String := ""
  restoreId : String := ""
  stackId : String := ""
  target : String := ""
  revision : Int := 0
  sizeBytes : Int := 0
  fileCount : Int := 0
  checksum : String := ""
  diagnostics : Option Diagnostics := none
  runtimeStatus : String := ""
  message : String := ""
  durationMs : Int := 0
  matched : Int := 0
  succeeded : Int := 0
  failed : Int := 0
  artifacts : List BackupArtifact := []
deriving DecidableEq

/-- A failure the agent itself reports. -/
def failedResult (command : Command) (message : String) (now : Time) : CommandResult where
  commandId := command.id
  type := command.type
  exitCode := -1
  error := message
  startedAt := now
  finishedAt := now

def interruptedResult (command : Command) (now : Time) : CommandResult :=
  failedResult command
    "agent restarted while command status was indeterminate; command was not re-executed" now

structure ManifestVolume where
  logicalName : String
  dockerName : String
  archiveName : String
  sizeBytes : Int
  sha256 : String
deriving DecidableEq

structure ManifestDatabase where
  engine : String
  service : String
  database : String
  user : String
  archiveName : String
  sizeBytes : Int
  sha256 : String
deriving DecidableEq

structure BackupManifest where
  version : Int
  backupId : String
  stackId : String
  projectName : String
  revision : Int
  target : String
  createdAt : Time
  volumes : List ManifestVolume
  databases : List ManifestDatabase
deriving DecidableEq

/-! ### Traefik's dynamic configuration -/

structure TraefikRouter where
  entryPoints : List String
  rule : String
  service : String
  middlewares : List String := []
  /-- The certificate resolver, when the router terminates TLS. -/
  tls : Option String := none
deriving DecidableEq

structure TraefikRedirectScheme where
  scheme : String
  permanent : Bool
deriving DecidableEq

structure TraefikDynamicConfiguration where
  routers : List (String × TraefikRouter)
  /-- Each service with the URLs of its servers. -/
  services : List (String × List String)
  middlewares : List (String × TraefikRedirectScheme) := []
deriving DecidableEq

end GatewayControl.AgentTypes
