import GatewayControl.RecoveryRequests

/-!
System backups: how one is created, and how an artifact from another host is imported.

A backup's own row is in the dump the backup is made of, as it was when the dump was taken.
Of the rows only what the recovery programs read is kept.
-/

namespace GatewayControl.SystemBackups

open Programs Staging RecoveryRequests

/-! ### The table -/

inductive BackupStatus where
  | running
  | succeeded
  | failed
  deriving DecidableEq, Repr

/-- A row of `system_backups`. -/
structure StoredSystemBackup where
  id : String
  artifactPath : String
  status : BackupStatus
  sizeBytes : Option ℕ
  checksum : Option String
  deriving DecidableEq, Repr

abbrev Backups := Table StoredSystemBackup String StoredSystemBackup.id

def createSystemBackup (backups : Backups) (id artifactPath : String) : Option Backups :=
  backups.insert? ⟨id, artifactPath, .running, none, none⟩

def isRunning (id : String) (r : StoredSystemBackup) : Bool := r.id = id ∧ r.status = .running

def StoredSystemBackup.succeed (sizeBytes : Option ℕ) (checksum : Option String)
    (r : StoredSystemBackup) : StoredSystemBackup :=
  { r with status := .succeeded, sizeBytes := sizeBytes, checksum := checksum }

def completeSystemBackup (backups : Backups) (id : String) (sizeBytes : ℕ) (checksum : String) :
    Backups :=
  backups.update (isRunning id) (·.succeed (some sizeBytes) (some checksum)) fun _ => rfl

def failSystemBackup (backups : Backups) (id : String) : Backups :=
  backups.update (isRunning id) (fun r => { r with status := .failed }) fun _ => rfl

def getSystemBackup (backups : Backups) (id : String) : Option StoredSystemBackup :=
  (backups.find? id).filter (·.status = .succeeded)

inductive ImportResult where
  | created
  | idempotent
  | conflict
  deriving DecidableEq, Repr

def importSystemBackup (backups : Backups) (id artifactPath : String) (sizeBytes : ℕ)
    (checksum : String) : ImportResult × Backups :=
  match backups.find? id with
  | some existing =>
      if existing.checksum = some checksum ∧ existing.sizeBytes = some sizeBytes then
        (.idempotent, backups)
      else (.conflict, backups)
  | none =>
      match backups.insert?
          ⟨id, artifactPath, .succeeded, some sizeBytes, some checksum⟩ with
      | some created => (.created, created)
      | none => (.conflict, backups)

/-- The update of `finalizeRestoredBackup`, and its row count. -/
def finalizeRestoredBackup (backups : Backups) (metadata : RestoreMarker) : Backups × ℕ :=
  (backups.update (isRunning metadata.backupId)
    (·.succeed metadata.backupSizeBytes metadata.backupChecksum) fun _ => rfl,
    backups.rows.countP (isRunning metadata.backupId))

/-! ### Effects -/

/-- An upload that is claimed for validation. -/
structure ImportRecord where
  id : String
  quarantinePath : String
  sizeBytes : Option ℕ
  checksum : Option String
  validationRevision : ℕ
  deriving DecidableEq, Repr

inductive Claimed where
  | claimed (record : ImportRecord)
  | validating
  | unavailable
  deriving DecidableEq, Repr

inductive ImportOutcome where
  | imported (backupId : String)
  | rejected (code : SystemRecoveryCode)
  deriving DecidableEq, Repr

inductive BackupOp where
  | createSystemBackup (artifactPath : String)
  | ensureTarget
  | pgDump
  | encrypt (path : String) (archive : Archive)
  | rename (source destination : String)
  | artifact (path : String)
  | completeSystemBackup (id : String) (sizeBytes : ℕ) (checksum : String)
  | failSystemBackup (id : String)
  | remove (path : String)
  | claimSystemBackupImport (importId : String)
  | unpack (path : String)
  | listDump
  | getSystemBackup (id : String)
  | lstat (path : String)
  | syncDirectory
  | importSystemBackup (id artifactPath : String) (sizeBytes : ℕ) (checksum : String)
  | finishSystemBackupImport (importId : String) (revision : ℕ) (outcome : ImportOutcome)
  | recordSystemBackupTransferEvent (backupId importId : String)
  deriving DecidableEq

/-- Answers; `none` and `false` stand for a throw. A dump comes as its bytes. -/
abbrev BackupOp.Res : BackupOp → Type
  | createSystemBackup _ => Option String
  | pgDump => Option Bytes
  | artifact _ => Option Artifact
  | claimSystemBackupImport _ => Option Claimed
  | unpack _ => Except Thrown Archive
  | getSystemBackup _ => Option (Option StoredSystemBackup)
  | importSystemBackup _ _ _ _ => Option ImportResult
  | finishSystemBackupImport _ _ _ => Option Bool
  | _ => Bool

abbrev backupInterface : Interface := ⟨BackupOp, BackupOp.Res⟩

abbrev BackupProgram := ExceptT Thrown (Prog backupInterface)

def use (o : BackupOp) : BackupProgram o.Res :=
  ExceptT.lift (Prog.perform (F := backupInterface) o)

def orThrow (p : BackupProgram Bool) (e : Thrown) : BackupProgram Unit := do
  if ← p then pure () else throw e

/-! ### Creating -/

/-- The archive `createBackup` bundles around a dump. -/
def bundle (R : Recovery) (backupId : String) (dump : Bytes) : Archive where
  manifest := ⟨backupId, R.sha256 dump, R.sha256 R.masterKey⟩
  masterKey := R.masterKey
  dump := [dump]

def toolFailure : Thrown := .error "The backup could not be written."

/-- The `try` block of `createBackup`. -/
def writeBackup (R : Recovery) (id artifactPath temporaryArtifact : String) :
    BackupProgram Unit := do
  orThrow (use .ensureTarget) toolFailure
  let some dump ← use .pgDump | throw toolFailure
  orThrow (use (.encrypt temporaryArtifact (bundle R id dump))) toolFailure
  orThrow (use (.rename temporaryArtifact artifactPath)) toolFailure
  let some artifact ← use (.artifact artifactPath)
    | throw (invalid 400 "The encrypted backup artifact is invalid.")
  orThrow (use (.completeSystemBackup id artifact.size artifact.checksum)) toolFailure

/-- `createBackup`, with the time and the two identifiers it draws. -/
def createBackup (R : Recovery) (root time nameId temporaryId : String) :
    BackupProgram String := do
  let artifactPath := root ++ "/system-" ++ time ++ "-" ++ nameId ++ ".gcsb"
  let temporaryArtifact := artifactPath ++ "." ++ temporaryId ++ ".tmp"
  let some id ← use (.createSystemBackup artifactPath)
    | throw (.error "The backup record could not be created.")
  match ← ExceptT.lift (writeBackup R id artifactPath temporaryArtifact).run with
  | .ok () => pure id
  | .error error => do
      let _ ← use (.remove temporaryArtifact)
      let _ ← use (.failSystemBackup id)
      match error with
      | .failure failure => throw (.failure failure)
      | .error _ => throw (invalid 500 "The system backup could not be created.")

/-! ### Importing -/

def importFailure (statusCode : ℕ) (code : SystemRecoveryCode) (message : String) : Thrown :=
  .failure ⟨statusCode, code, message⟩

def otherBackup : Thrown :=
  importFailure 409 .importConflict
    "A different system backup already uses the authenticated backup identifier."

/-- An upload whose size and checksum are known. -/
structure Upload where
  id : String
  quarantinePath : String
  sizeBytes : ℕ
  checksum : String
  revision : ℕ
  deriving DecidableEq, Repr

def finishImport (upload : Upload) (backupId : String) : BackupProgram Unit := do
  match ← use (.finishSystemBackupImport upload.id upload.revision (.imported backupId)) with
  | some true =>
      orThrow (use (.recordSystemBackupTransferEvent backupId upload.id))
        (.error "The transfer event could not be recorded.")
  | _ => throw (.error "The system backup import validation claim was lost.")

/-- What the uploaded artifact unpacks to, once it is checked. -/
def inspectUpload (R : Recovery) (upload : Upload) : BackupProgram Archive := do
  let some artifact ← use (.artifact upload.quarantinePath)
    | throw (invalid 400 "The imported backup artifact is invalid.")
  given (artifact.size ≠ upload.sizeBytes ∨ artifact.checksum ≠ upload.checksum)
    (throw (importFailure 400 .invalidImport "The imported backup artifact is invalid."))
  let archive ← ofExcept (← use (.unpack upload.quarantinePath))
  ofExcept (checkArchive R archive.manifest.backupId archive)
  orThrow (use .listDump) (.error "pg_restore failed.")
  return archive

/-- The backup is already known: the upload is dropped. -/
def importKnown (upload : Upload) (existing : StoredSystemBackup) : BackupProgram String := do
  given (existing.checksum ≠ some upload.checksum ∨ existing.sizeBytes ≠ some upload.sizeBytes)
    (throw otherBackup)
  orThrow (use (.remove upload.quarantinePath)) (.error "The upload could not be removed.")
  finishImport upload existing.id
  return existing.id

/-- `imported-<backupId>.gcsb` under the local root. -/
def importedPath (localRoot backupId : String) : String :=
  localRoot ++ "/imported-" ++ backupId ++ ".gcsb"

def importNew (localRoot : String) (upload : Upload) (backupId : String) :
    BackupProgram String := do
  let destination := importedPath localRoot backupId
  given ((← use (.lstat destination)) = true)
    (throw (importFailure 409 .importConflict
      "The imported backup destination is already occupied."))
  orThrow (use (.rename upload.quarantinePath destination))
    (.error "The upload could not be moved.")
  orThrow (use .syncDirectory) (.error "The local root could not be synchronised.")
  match ← use (.importSystemBackup backupId destination upload.sizeBytes upload.checksum) with
  | none => throw (.error "The imported backup could not be recorded.")
  | some .conflict => do
      orThrow (use (.remove destination)) (.error "The artifact could not be removed.")
      throw otherBackup
  | some result => do
      given (result = .idempotent)
        (orThrow (use (.remove destination)) (.error "The artifact could not be removed."))
      match ← use (.getSystemBackup backupId) with
      | some (some backup) => do
          finishImport upload backup.id
          return backup.id
      | _ => throw (.error "The imported backup record could not be loaded.")

def validateUpload (R : Recovery) (localRoot : String) (upload : Upload) :
    BackupProgram String := do
  let archive ← inspectUpload R upload
  match ← use (.getSystemBackup archive.manifest.backupId) with
  | none => throw (.error "The backup record could not be read.")
  | some (some existing) => importKnown upload existing
  | some none => importNew localRoot upload archive.manifest.backupId

def validateImport (R : Recovery) (localRoot importId : String) : BackupProgram String := do
  match ← use (.claimSystemBackupImport importId) with
  | none => throw (.error "The upload could not be claimed.")
  | some .validating =>
      throw (importFailure 409 .importActive
        "The system backup import is already being validated.")
  | some (.claimed ⟨id, quarantinePath, some sizeBytes, some checksum, revision⟩) => do
      let upload : Upload := ⟨id, quarantinePath, sizeBytes, checksum, revision⟩
      match ← ExceptT.lift (validateUpload R localRoot upload).run with
      | .ok backupId => pure backupId
      | .error error => do
          let failure := recoveryFailure error
          let _ ← use (.remove quarantinePath)
          let _ ← use (.finishSystemBackupImport id revision (.rejected failure.code))
          throw (.failure failure)
  | _ =>
      throw (importFailure 404 .invalidImport "The system backup import is unavailable.")

end GatewayControl.SystemBackups
