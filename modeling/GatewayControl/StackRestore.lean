import GatewayControl.Host

/-!
`stack.restore.apply`: the executor checks a backup against the stack, stops the stack,
replaces every volume and database, and guards the destructive part with a journal file.
-/

namespace GatewayControl.StackRestore

open Text AgentTypes Programs Host

/-- The executor's configuration. `redact` is the masking of secrets in error texts and
`unmarshalLabels` the JSON decoder on a map of strings. -/
structure Executor where
  stateDir : String
  stateVolume : String
  localBackupRoot : String
  hostLocalBackupRoot : String
  nasBackupRoot : String
  hostNASBackupRoot : String
  nasMarker : String
  agentImage : String
  cloudflaredImage : String
  edgeNetwork : String
  traefikDynamicRoot : String
  redact : String → String
  unmarshalLabels : String → Option (List (String × String))

variable (e : Executor)

/-- The result every executor starts from. -/
def startedResult (command : Command) (startedAt : Time) : CommandResult where
  commandId := command.id
  type := command.type
  exitCode := -1
  startedAt := startedAt
  finishedAt := 0

def failure (result : CommandResult) (err : String) : HostProg CommandResult := do
  return { result with error := e.redact err, finishedAt := ← eff .now }

/-! ### Payload and manifest -/

def validateOperationFields (backupId stackId projectName : String) (revision : Int)
    (target stackPath composePath : String) : Except String Unit :=
  if !connectorUUIDPattern backupId || !connectorUUIDPattern stackId ||
      !composeProjectPattern projectName || revision < 1 then
    .error "invalid backup or stack fields"
  else if target ≠ "local" ∧ target ≠ "nas" then
    .error "target must be local or nas"
  else if stackPath ≠ stackId ∨ composePath ≠ stackId ++ "/compose.yaml" then
    .error "stack paths do not match stackId"
  else .ok ()

def validPostgres (c : PostgresBackupConfig) : Bool :=
  composeServicePattern c.service && composeServicePattern c.database &&
    composeServicePattern c.user

def decodeStackRestorePayload : Payload → Except String StackRestorePayload
  | .stackRestore p =>
      if !connectorUUIDPattern p.restoreId then .error "restoreId must be a UUID"
      else do
        validateOperationFields p.backupId p.stackId p.projectName p.revision p.target
          p.stackPath p.composePath
        if p.postgres.any (!validPostgres ·) then
          .error "PostgreSQL restore configuration is invalid"
        else .ok p
  | _ => .error "invalid restore payload"

/-- The checks on a manifest as a whole. -/
def matchesRequest (m : BackupManifest) (p : StackRestorePayload) (now : Time) : Bool :=
  (m.version = 1 || m.version = 2) && equalFold m.backupId p.backupId &&
    equalFold m.stackId p.stackId && m.projectName = p.projectName &&
    m.revision = p.revision && m.target = p.target && m.createdAt ≠ 0 &&
    m.createdAt ≤ now + 300000000000 && m.volumes.length ≤ 1000 && m.databases.length ≤ 10

def validManifestVolume (v : ManifestVolume) : Bool :=
  composeServicePattern v.logicalName && dockerObjectNamePattern v.dockerName &&
    v.archiveName = v.logicalName ++ ".tar.gz" && v.sha256.utf8ByteSize = 64 &&
    0 ≤ v.sizeBytes

def validManifestDatabase (d : ManifestDatabase) : Bool :=
  d.engine = "postgresql" && composeServicePattern d.service &&
    composeServicePattern d.database && composeServicePattern d.user &&
    d.archiveName = "postgresql-" ++ d.service ++ ".dump"

/-- `ok` when the file has the size and checksum the manifest gives. -/
def checksumMatches (path : String) (sizeBytes : Int) (sha256 : String) : HostProg Bool := do
  match ← eff (.checksum path) with
  | .error _ => pure false
  | .ok (size, checksum) => pure (size = sizeBytes && equalFold checksum sha256)

def checkVolumes (directory : String) : List String → List ManifestVolume → HostFallible Unit
  | _, [] => pure ()
  | seen, v :: vs =>
      if !validManifestVolume v then
        throw "backup manifest contains an invalid volume"
      else if seen.contains v.logicalName then
        throw "backup manifest contains duplicate volumes"
      else do
        let path := join directory v.archiveName
        if ← lift (checksumMatches path v.sizeBytes v.sha256) then
          orElse (eff (.validateArchive path)) "backup archive safety validation failed"
          checkVolumes directory (v.logicalName :: seen) vs
        else
          throw "backup archive checksum validation failed"

def checkDatabases (directory : String) : List ManifestDatabase → HostFallible Unit
  | [] => pure ()
  | d :: ds => do
      let matching ← lift (checksumMatches (join directory d.archiveName) d.sizeBytes d.sha256)
      if validManifestDatabase d && matching then
        checkDatabases directory ds
      else
        throw "backup PostgreSQL artifact validation failed"

def validateManifest (directory : String) (payload : StackRestorePayload) :
    Contents → HostFallible BackupManifest
  | .manifest m _ => do
      if matchesRequest m payload (← lift (eff .now)) then
        checkVolumes directory [] m.volumes
        checkDatabases directory m.databases
        pure m
      else
        throw "backup manifest does not match restore request"
  | _ => throw "backup manifest does not match restore request"

def loadAndValidateManifest (directory : String) (payload : StackRestorePayload) :
    HostFallible BackupManifest := do
  match ← lift (readRegularFile (join directory "manifest.json")).run with
  | .ok (some contents) =>
      if 1048576 < contents.bytes then
        throw "backup manifest is unavailable"
      else
        validateManifest directory payload contents
  | _ => throw "backup manifest is unavailable"

/-! ### Docker commands -/

/-- Run a command for its success only. -/
def docker (args : List String) (message : String) : HostFallible RunOutput := do
  let r ← lift (eff (.docker args))
  if r.err.isNone then pure r.output else throw message

def prepareStack (stackId stackPath composePath projectName : String) :
    HostFallible (List String) :=
  if !connectorUUIDPattern stackId || stackPath ≠ stackId ||
      composePath ≠ stackId ++ "/compose.yaml" then
    throw "invalid stack or compose path"
  else do
    let (resolved, hostDirectory) ← attempt (eff (.composePath composePath))
    let base := ["compose", "--project-name", projectName, "--project-directory",
      hostDirectory, "--file", resolved]
    let _ ← docker (base ++ ["config", "--quiet"]) "stack Compose configuration is invalid"
    pure base

def ownedLabels (projectName logical : String) (output : String) : Bool :=
  match e.unmarshalLabels (trimSpace output) with
  | none => false
  | some labels =>
      labels.lookup "com.docker.compose.project" = some projectName &&
        labels.lookup "com.docker.compose.volume" = some logical

/-- The one volume Docker lists for a logical name, with labels that say the same. -/
def resolveVolume (projectName logical : String) : HostFallible (String × String) :=
  if !composeServicePattern logical then
    throw "Compose returned an invalid logical volume name"
  else do
    let listed ← lift (eff (.docker ["volume", "ls", "--quiet",
      "--filter", "label=com.docker.compose.project=" ++ projectName,
      "--filter", "label=com.docker.compose.volume=" ++ logical]))
    match listed.err, nonemptyUniqueLines listed.output.stdout with
    | none, [name] =>
        if !dockerObjectNamePattern name then
          throw "stack volume is missing, external, or ambiguously owned"
        else do
          let inspected ← lift (eff (.docker ["volume", "inspect",
            "--format", "\x7b\x7bjson .Labels\x7d\x7d", name]))
          if inspected.err.isNone && ownedLabels e projectName logical inspected.output.stdout
          then pure (logical, name)
          else throw "stack volume ownership labels are invalid"
    | _, _ => throw "stack volume is missing, external, or ambiguously owned"

def resolveVolumes (projectName : String) : List String → HostFallible (List (String × String))
  | [] => pure []
  | logical :: rest => do
      let volume ← resolveVolume e projectName logical
      let volumes ← resolveVolumes projectName rest
      pure (volume :: volumes)

def resolveOwnedVolumes (base : List String) (projectName : String) :
    HostFallible (List (String × String)) := do
  let output ← docker (base ++ ["config", "--volumes"]) "list stack volumes"
  let logicalNames := nonemptyUniqueLines output.stdout
  if 1000 < logicalNames.length then
    throw "stack has too many volumes"
  else
    resolveVolumes e projectName logicalNames

/-- The backup root for the target, in the agent and on the host. -/
def backupRoots (target : String) : HostFallible (String × String) :=
  if target = "local" then do
    let _ ← orElse (secureSubdirectory e.localBackupRoot []).run
      "local backup root is unavailable"
    match ← lift (eff (.lstat e.localBackupRoot)) with
    | .ok (some .directory) => pure (e.localBackupRoot, e.hostLocalBackupRoot)
    | _ => throw "local backup root is unsafe"
  else do
    match ← lift (eff (.lstat e.nasBackupRoot)) with
    | .ok (some .directory) =>
        match ← lift (eff (.lstat (join e.nasBackupRoot e.nasMarker))) with
        | .ok (some .regular) => pure (e.nasBackupRoot, e.hostNASBackupRoot)
        | _ => throw "NAS marker is missing or unsafe"
    | _ => throw "NAS backup root is unavailable"

def runningServices (base : List String) : HostFallible (List String) := do
  let output ← docker (base ++ ["ps", "--services", "--filter", "status=running"])
    "inspect running stack services"
  pure (nonemptyUniqueLines output.stdout)

def restartServices (base services : List String) : HostProg Unit :=
  if services.isEmpty then pure ()
  else do
    let _ ← eff (.docker (base ++ ["start"] ++ services))

/-- The arguments of `runHelper`. -/
def helperArgs (mode volume hostDirectory archive : String) : List String :=
  let sourceMount := "type=volume,src=" ++ volume ++ ",dst=/source" ++
    if mode = "backup" then ",readonly" else ""
  ["run", "--rm", "--pull", "never", "--network", "none", "--read-only", "--cap-drop", "ALL",
    "--security-opt", "no-new-privileges", "--cap-add", "DAC_OVERRIDE", "--cap-add", "FOWNER",
    "--cap-add", "CHOWN", "--pids-limit", "64", "--user", "0:0",
    "--entrypoint", "/usr/local/bin/gateway-backup-helper", "--mount", sourceMount,
    "--mount", "type=bind,src=" ++ hostDirectory ++ ",dst=/backup", e.agentImage, mode, archive]

/-- The arguments of the database restore itself. -/
def pgRestoreArgs (container containerPath : String) (d : ManifestDatabase) : List String :=
  ["container", "exec", container, "pg_restore", "--exit-on-error", "--single-transaction",
    "--clean", "--if-exists", "--no-owner", "--no-privileges", "--username", d.user,
    "--dbname", d.database, containerPath]

def composeServiceContainer (projectName service : String) : HostFallible String := do
  let r ← lift (eff (.docker ["container", "ls", "--quiet",
    "--filter", "label=com.docker.compose.project=" ++ projectName,
    "--filter", "label=com.docker.compose.service=" ++ service]))
  match r.err, nonemptyUniqueLines r.output.stdout with
  | none, [container] =>
      if dockerObjectNamePattern container then pure container
      else throw "PostgreSQL Compose service must have exactly one running container"
  | _, _ => throw "PostgreSQL Compose service must have exactly one running container"

/-- Ask at most `attempts` times, a second apart, whether the database is ready. -/
def awaitReady (container : String) (d : ManifestDatabase) : Nat → HostFallible Unit
  | 0 => throw "PostgreSQL service did not become ready"
  | attempts + 1 => do
      let r ← lift (eff (.docker ["container", "exec", container, "pg_isready",
        "--username", d.user, "--dbname", d.database]))
      if r.err.isNone then pure ()
      else do
        attempt (eff .waitSecond)
        awaitReady container d attempts

def restorePostgres (base : List String) (hostDirectory projectName : String)
    (d : ManifestDatabase) : HostFallible Unit := do
  let _ ← docker (base ++ ["up", "--detach", "--no-deps", d.service]) "start service"
  let container ← composeServiceContainer projectName d.service
  awaitReady container d 30
  let containerPath := "/tmp/" ++ d.archiveName
  let _ ← docker ["container", "cp", join hostDirectory d.archiveName,
    container ++ ":" ++ containerPath] "copy dump"
  let restored ← lift (eff (.docker (pgRestoreArgs container containerPath d)))
  let _ ← lift (eff (.docker ["container", "exec", container, "rm", "-f", containerPath]))
  if restored.err.isNone then pure () else throw "restore dump"

/-! ### The command -/

def restoreVolumes (hostDirectory : String) : List ManifestVolume → HostFallible Unit
  | [] => pure ()
  | v :: vs => do
      let _ ← docker (helperArgs e "restore" v.dockerName hostDirectory v.archiveName)
        "volume restore failed; restore journal retained"
      restoreVolumes hostDirectory vs

def restoreDatabases (base : List String) (hostDirectory projectName : String) :
    List ManifestDatabase → HostFallible Unit
  | [] => pure ()
  | d :: ds => do
      orElse (restorePostgres base hostDirectory projectName d).run
        "PostgreSQL logical restore failed; restore journal retained"
      restoreDatabases base hostDirectory projectName ds

/-- What is decided before anything is written. -/
structure Checked where
  base : List String
  hostDirectory : String
  manifest : BackupManifest
  running : List String

/-- Every manifest volume is the stack's, and every stack volume is in the manifest. -/
def sameVolumes (resolved : List (String × String)) (m : BackupManifest) :
    Except String Unit :=
  if m.volumes.any fun v => resolved.lookup v.logicalName ≠ some v.dockerName then
    .error "backup volume ownership no longer matches the stack"
  else if resolved.length ≠ m.volumes.length then
    .error "backup manifest does not contain every stack volume"
  else .ok ()

def checkRestore (payload : StackRestorePayload) : HostFallible Checked := do
  let base ← prepareStack payload.stackId payload.stackPath payload.composePath
    payload.projectName
  let (backupRoot, hostBackupRoot) ← backupRoots e payload.target
  let elements := [toLower payload.stackId, toLower payload.backupId]
  let directory ← orElse (secureSubdirectory backupRoot elements).run
    "backup directory is unsafe"
  let manifest ← loadAndValidateManifest directory payload
  let volumes ← resolveOwnedVolumes e base payload.projectName
  attempt (pure (sameVolumes volumes manifest))
  let running ← runningServices base
  pure ⟨base, elements.foldl join hostBackupRoot, manifest, running⟩

def journalName (payload : StackRestorePayload) : String := toLower payload.stackId ++ ".json"

/-- Refuse when there is a journal, else write this restore's. -/
def claimJournal (payload : StackRestorePayload) : HostFallible String := do
  let directory ← orElse (secureSubdirectory e.stateDir ["restore-journals"]).run
    "prepare restore journal"
  match ← lift (readRegularFile (join directory (journalName payload))).run with
  | .ok none =>
      let journal := { restoreId := payload.restoreId, backupId := payload.backupId,
                       stackId := payload.stackId, phase := "prepared",
                       createdAt := ← lift (eff .now) }
      orElse (writeFileAtomically directory (journalName payload) (.journal journal)).run
        "persist restore journal"
      pure (join directory (journalName payload))
  | _ => throw "an unresolved restore journal blocks destructive work"

/-- The part that runs with the stack stopped. -/
def replaceData (payload : StackRestorePayload) (c : Checked) (journalPath : String) :
    HostFallible Unit := do
  restoreVolumes e c.hostDirectory c.manifest.volumes
  restoreDatabases c.base c.hostDirectory payload.projectName c.manifest.databases
  match ← lift (eff (.remove journalPath)) with
  | .ok true => pure ()
  | _ => throw "clear completed restore journal"

/-- The checks, the journal, the stop; then the data, and the services back up whatever
came of it. -/
def restoreStack (payload : StackRestorePayload) : HostFallible BackupManifest := do
  let c ← checkRestore e payload
  let journalPath ← claimJournal e payload
  let _ ← docker (c.base ++ ["stop"]) "stop stack for restore"
  let replaced ← lift (replaceData e payload c journalPath).run
  lift (restartServices c.base c.running)
  attempt (pure replaced)
  pure c.manifest

def volumeArtifact (v : ManifestVolume) : BackupArtifact :=
  ⟨"volume_archive", v.logicalName, v.sizeBytes, v.sha256⟩

def databaseArtifact (d : ManifestDatabase) : BackupArtifact :=
  ⟨"postgres_dump", d.database, d.sizeBytes, d.sha256⟩

/-- The successful result; `checksum` is the digest of the encoded manifest. -/
def backupSuccess (result : CommandResult) (p : StackRestorePayload) (m : BackupManifest)
    (checksum : String) (now : Time) : CommandResult :=
  let artifacts := m.volumes.map volumeArtifact ++ m.databases.map databaseArtifact
  { result with
    success := true
    exitCode := 0
    finishedAt := now
    backupId := p.backupId
    restoreId := p.restoreId
    stackId := p.stackId
    target := p.target
    revision := p.revision
    sizeBytes := (artifacts.map (·.sizeBytes)).sum
    fileCount := artifacts.length
    checksum := checksum
    durationMs := (now - result.startedAt) / 1000000
    artifacts := artifacts }

def executeStackRestore (digest : BackupManifest → String) (result : CommandResult)
    (raw : Payload) : HostProg CommandResult :=
  match decodeStackRestorePayload raw with
  | .error err => failure e result err
  | .ok payload => do
      match ← (restoreStack e payload).run with
      | .error err => failure e result err
      | .ok manifest =>
          return backupSuccess result payload manifest (digest manifest) (← eff .now)

end GatewayControl.StackRestore
