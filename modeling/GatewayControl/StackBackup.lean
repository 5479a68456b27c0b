import GatewayControl.StackRestore

/-!
`stack.backup.create`: the executor stops a stack, dumps its database, archives every volume
Compose declares, and publishes a manifest of what it wrote.

The database service is started for its dump alone and stopped again whatever comes of it.
-/

namespace GatewayControl.StackBackup

open Text AgentTypes Programs Host StackRestore

structure StackBackupPayload where
  backupId : String
  stackId : String
  projectName : String
  revision : Int
  target : String
  stackPath : String
  composePath : String
  postgres : Option PostgresBackupConfig
deriving DecidableEq

/-- The payload is what the strict decoder makes of the command's JSON, if it accepts it. -/
def decodeStackBackupPayload : Option StackBackupPayload → Except String StackBackupPayload
  | none => .error "invalid backup payload"
  | some p => do
      validateOperationFields p.backupId p.stackId p.projectName p.revision p.target p.stackPath
        p.composePath
      if p.postgres.any (!validPostgres ·) then
        .error "PostgreSQL backup configuration is invalid"
      else .ok p

/-! ### Deferred work -/

/-- Run a program, then what it deferred, and go on as the program ended. -/
def ensure {α : Type} (p : HostFallible α) (deferred : Except String α → HostProg Unit) :
    HostFallible α := do
  let r ← lift p.run
  lift (deferred r)
  attempt (pure r)

/-- Work that is deferred but called off once the program succeeds. -/
def onError {α : Type} (cleanup : HostProg Unit) : Except String α → HostProg Unit
  | .ok _ => pure ()
  | .error _ => cleanup

def discard (o : HostOp) : HostProg Unit := do
  let _ ← eff o

/-! ### The database -/

/-- Ask at most `attempts` times, a second apart, whether the database is ready. -/
def awaitBackupReady (container : String) (config : PostgresBackupConfig) :
    Nat → HostFallible Unit
  | 0 => throw "PostgreSQL service did not become ready for backup"
  | attempts + 1 => do
      let r ← lift (eff (.docker ["container", "exec", container, "pg_isready",
        "--username", config.user, "--dbname", config.database]))
      if r.err.isNone then pure ()
      else do
        attempt (eff .waitSecond)
        awaitBackupReady container config attempts

def containerDump (backupId : String) : String :=
  "/tmp/gateway-control-" ++ toLower backupId ++ ".dump"

def dumpName (config : PostgresBackupConfig) : String :=
  "postgresql-" ++ config.service ++ ".dump"

def temporaryDump (destination : String) (config : PostgresBackupConfig) : String :=
  join destination ("." ++ dumpName config ++ ".tmp")

def removeDump (container backupId : String) : HostOp :=
  .docker ["container", "exec", container, "rm", "-f", containerDump backupId]

/-- The dump leaves the container, and is removed there. -/
def fetchDump (container backupId destination : String) (config : PostgresBackupConfig) :
    HostFallible Unit := do
  let _ ← docker ["container", "cp", container ++ ":" ++ containerDump backupId,
    temporaryDump destination config] "copy PostgreSQL logical dump"
  let _ ← docker ["container", "exec", container, "rm", "-f", containerDump backupId]
    "remove temporary PostgreSQL logical dump"

/-- The dump gets its name, and is measured. -/
def publishDump (base : List String) (destination : String) (config : PostgresBackupConfig) :
    HostFallible (Int × String) := do
  let finalPath := join destination (dumpName config)
  orElse (eff (.renameFile (temporaryDump destination config) finalPath))
    "publish PostgreSQL logical dump"
  let measured ← orElse (eff (.checksum finalPath)) "verify PostgreSQL logical dump"
  let _ ← docker (base ++ ["stop", config.service]) "stop PostgreSQL service after offline backup"
  pure measured

/-- From the moment the service runs. -/
def dumpDatabase (base : List String) (backupId projectName destination : String)
    (config : PostgresBackupConfig) : HostFallible (Int × String) := do
  let container ← composeServiceContainer projectName config.service
  awaitBackupReady container config 30
  let _ ← docker ["container", "exec", container, "pg_dump", "--format=custom", "--no-owner",
    "--no-privileges", "--file", containerDump backupId, "--username", config.user,
    config.database] "PostgreSQL logical dump failed"
  ensure (fetchDump container backupId destination config)
    (onError (discard (removeDump container backupId)))
  ensure (publishDump base destination config)
    fun _ => discard (.remove (temporaryDump destination config))

def backupPostgres (base : List String) (backupId projectName destination : String)
    (config : PostgresBackupConfig) : HostFallible ManifestDatabase :=
  if !validPostgres config then throw "PostgreSQL backup configuration is invalid"
  else do
    let _ ← docker (base ++ ["start", config.service])
      "start PostgreSQL service for offline backup"
    let (size, checksum) ← ensure (dumpDatabase base backupId projectName destination config)
      (onError (discard (.docker (base ++ ["stop", config.service]))))
    pure ⟨"postgresql", config.service, config.database, config.user, dumpName config, size,
      checksum⟩

def backupDatabases (base : List String) (payload : StackBackupPayload) (destination : String) :
    HostFallible (List ManifestDatabase) :=
  match payload.postgres with
  | none => pure []
  | some config => do
      return [← backupPostgres base payload.backupId payload.projectName destination config]

/-! ### The volumes -/

variable (e : Executor)

def backupVolumes (destination hostDestination : String) :
    List (String × String) → HostFallible (List ManifestVolume)
  | [] => pure []
  | (logical, name) :: rest => do
      let archiveName := logical ++ ".tar.gz"
      let _ ← docker (helperArgs e "backup" name hostDestination archiveName)
        "volume backup failed"
      let (size, checksum) ← orElse (eff (.checksum (join destination archiveName)))
        "verify volume archive"
      let volumes ← backupVolumes destination hostDestination rest
      pure (⟨logical, name, archiveName, size, checksum⟩ :: volumes)

/-! ### The command -/

/-- What is settled before the stack is stopped. -/
structure Prepared where
  base : List String
  volumes : List (String × String)
  destination : String
  hostDestination : String
  createdAt : Time
  running : List String

def prepareBackup (payload : StackBackupPayload) : HostFallible Prepared := do
  let base ← prepareStack payload.stackId payload.stackPath payload.composePath
    payload.projectName
  let volumes ← resolveOwnedVolumes e base payload.projectName
  if volumes.isEmpty ∧ payload.postgres.isNone then
    throw "stack has no owned volumes or configured PostgreSQL database to back up"
  else do
    let (backupRoot, hostBackupRoot) ← backupRoots e payload.target
    let elements := [toLower payload.stackId, toLower payload.backupId]
    let destination ← orElse (secureSubdirectory backupRoot elements).run
      "prepare backup destination"
    let createdAt ← lift (eff .now)
    let running ← runningServices base
    pure ⟨base, volumes, destination, elements.foldl join hostBackupRoot, createdAt, running⟩

def manifestOf (payload : StackBackupPayload) (createdAt : Time)
    (volumes : List ManifestVolume) (databases : List ManifestDatabase) : BackupManifest where
  version := 2
  backupId := toLower payload.backupId
  stackId := toLower payload.stackId
  projectName := payload.projectName
  revision := payload.revision
  target := payload.target
  createdAt := createdAt
  volumes := volumes
  databases := databases

/-- The part that runs with the stack stopped; `encoded` is the length of a manifest's
JSON. -/
def writeBackup (encoded : BackupManifest → Nat) (payload : StackBackupPayload)
    (p : Prepared) : HostFallible (BackupManifest × Time) := do
  let databases ← backupDatabases p.base payload p.destination
  let volumes ← backupVolumes e p.destination p.hostDestination p.volumes
  let manifest := manifestOf payload p.createdAt volumes databases
  orElse (writeFileAtomically p.destination "manifest.json"
    (.manifest manifest (encoded manifest))).run "publish backup manifest"
  return (manifest, ← lift (eff .now))

def backupStack (encoded : BackupManifest → Nat) (payload : StackBackupPayload) :
    HostFallible (BackupManifest × Time) := do
  let p ← prepareBackup e payload
  let _ ← docker (p.base ++ ["stop"]) "stop stack for backup"
  ensure (writeBackup e encoded payload p) fun _ => restartServices p.base p.running

/-- `backupSuccess` without a restore. -/
def backupResult (result : CommandResult) (p : StackBackupPayload) (m : BackupManifest)
    (checksum : String) (now : Time) : CommandResult :=
  backupSuccess result
    ⟨"", p.backupId, p.stackId, p.projectName, p.revision, p.target, p.stackPath, p.composePath,
      p.postgres⟩ m checksum now

def executeStackBackup (encoded : BackupManifest → Nat) (digest : BackupManifest → String)
    (result : CommandResult) (raw : Option StackBackupPayload) : HostProg CommandResult :=
  match decodeStackBackupPayload raw with
  | .error err => failure e result err
  | .ok payload => do
      match ← (backupStack e encoded payload).run with
      | .error err => failure e result err
      | .ok (manifest, now) => return backupResult result payload manifest (digest manifest) now

end GatewayControl.StackBackup
