import GatewayControl.Programs
import GatewayControl.Text

/-!
Staging a system restore, and the program that applies what is staged.

The control plane publishes a dump and a marker under one root; the recovery container
finds the marker there and replaces the database. They share four file names.
-/

namespace GatewayControl.Staging

open Text Programs

/-! ### The files -/

abbrev Bytes := List UInt8

inductive MarkerName where
  | pending
  | applying
  | applied
  deriving DecidableEq, Repr

/-- `restore.lock`, `restore.<name>`, `database-<backupId>-<token>.dump` and
`restore.pending.<token>.tmp`. -/
inductive StageFile where
  | lock
  | marker (name : MarkerName)
  | dump (backupId token : String)
  | temporary (token : String)
  deriving DecidableEq, Repr

structure RestoreMarker where
  version : Nat
  restoreId : String
  backupId : String
  dump : StageFile
  token : String
  backupSizeBytes : Option Nat
  backupChecksum : Option String
  deriving DecidableEq, Repr

/-- A file of the staging root: a line with a token, a marker, or plain bytes. -/
inductive Content where
  | token (token : String)
  | marker (marker : RestoreMarker)
  | bytes (bytes : Bytes)
  deriving DecidableEq, Repr

/-- `CHECKSUM_PATTERN`. -/
def checksumPattern (s : String) : Bool :=
  s.length = 64 && s.toList.all fun c => ('a' ≤ c ∧ c ≤ 'f') ∨ ('0' ≤ c ∧ c ≤ '9')

def maxSafeInteger : Nat := 2 ^ 53 - 1

/-- What the apply program accepts as a marker. -/
def RestoreMarker.supported (m : RestoreMarker) : Bool :=
  (m.version = 1 ∨ m.version = 2) && commandIDPattern m.restoreId &&
    commandIDPattern m.backupId && commandIDPattern m.token &&
    (m.version ≠ 2 ∨
      ((m.backupSizeBytes.any fun size => 1 ≤ size ∧ size ≤ maxSafeInteger) &&
        m.backupChecksum.any checksumPattern)) &&
    m.dump = .dump m.backupId m.token

/-! ### Backups and failures -/

inductive SystemRecoveryCode where
  | incorrectPassphrase
  | restoreAlreadyStaged
  | backupMismatch
  | invalidBackup
  | importActive
  | importConflict
  | invalidImport
  | recoverySupervisorUnavailable
  | recoveryRequestPending
  deriving DecidableEq, Repr

structure SystemRecoveryFailure where
  statusCode : Nat
  code : SystemRecoveryCode
  message : String
  deriving DecidableEq, Repr

/-- What can be thrown: a failure with a code, or a plain error. -/
inductive Thrown where
  | failure (failure : SystemRecoveryFailure)
  | error (message : String)
  deriving DecidableEq, Repr

def recoveryFailure : Thrown → SystemRecoveryFailure
  | .failure f => f
  | .error _ => ⟨500, .invalidBackup, "The system restore could not be staged."⟩

structure SystemBackup where
  sizeBytes : Option Nat
  checksum : Option String
  deriving DecidableEq, Repr

/-- The encrypted artifact on disk. -/
structure Artifact where
  size : Nat
  checksum : String
  deriving DecidableEq, Repr

structure Manifest where
  backupId : String
  databaseDump : String
  masterKey : String
  deriving DecidableEq, Repr

/-- What an artifact unpacks to; the dump in the pieces it is read in. -/
structure Archive where
  manifest : Manifest
  masterKey : Bytes
  dump : List Bytes
  deriving DecidableEq, Repr

inductive RestoreStatus where
  | staging
  | staged
  | failed
  deriving DecidableEq, Repr

/-! ### Effects -/

/-- What creating a file exclusively answers. -/
inductive Created where
  | ok
  | exists
  | failed
  deriving DecidableEq, Repr

inductive StageOp where
  | getSystemBackup (backupId : String)
  | artifact (backupId : String)
  | unpack (backupId : String)
  | listDump
  | createSystemRestore (backupId : String) (status : RestoreStatus)
      (error : Option SystemRecoveryCode)
  | updateSystemRestore (restoreId : String) (status : RestoreStatus)
      (error : Option SystemRecoveryCode)
  | writeNew (file : StageFile) (content : Content)
  | openNew (file : StageFile)
  | append (file : StageFile) (chunk : Bytes)
  | lstat (file : StageFile)
  | readFile (file : StageFile)
  | rename (source destination : StageFile)
  | remove (file : StageFile)
  | pgRestore (dump : StageFile)
  | finalizeBackup (marker : RestoreMarker)
  deriving DecidableEq

/-- Answers; `false` and `none` stand for a throw where the source's call throws. -/
abbrev StageOp.Res : StageOp → Type
  | getSystemBackup _ => Option (Option SystemBackup)
  | artifact _ => Option Artifact
  | unpack _ => Except Thrown Archive
  | createSystemRestore _ _ _ => Option String
  | writeNew _ _ | openNew _ => Created
  | readFile _ => Option Content
  | listDump | updateSystemRestore _ _ _ | append _ _ | lstat _ | rename _ _ | remove _
  | pgRestore _ | finalizeBackup _ => Bool

abbrev interface : Interface := ⟨StageOp, StageOp.Res⟩

variable {ε : Type}

def call (o : StageOp) : ExceptT ε (Prog interface) o.Res :=
  ExceptT.lift (Prog.perform (F := interface) o)

def perform (o : StageOp) : Prog interface o.Res := Prog.perform (F := interface) o

/-- Go on only if an effect does what it says. -/
def must (p : ExceptT ε (Prog interface) Bool) (e : ε) : ExceptT ε (Prog interface) Unit := do
  if ← p then pure () else throw e

/-- A statement under a condition. -/
def given {m : Type → Type} [Monad m] (c : Prop) [Decidable c] (p : m Unit) : m Unit :=
  if c then p else pure ()

/-! ### Staging -/

/-- What the service is configured with: its hash and its master key. -/
structure Recovery where
  sha256 : Bytes → String
  masterKey : Bytes

def headerSize : Nat := 8 + 1 + 16 + 12

def authTagSize : Nat := 16

def invalidBackup : Thrown :=
  .failure ⟨400, .invalidBackup, "The selected system backup is invalid."⟩

def alreadyStaged : Thrown :=
  .failure ⟨409, .restoreAlreadyStaged, "A system restore is already staged or being staged."⟩

/-- The archive is this installation's, whole, and of the backup asked for. -/
def checkArchive (R : Recovery) (backupId : String) (archive : Archive) :
    Except Thrown Unit := do
  given (archive.manifest.backupId ≠ backupId)
    (throw (.failure ⟨400, .backupMismatch,
      "The selected backup does not match this recovery request."⟩))
  given (archive.masterKey.length ≠ 32 ∨ archive.masterKey ≠ R.masterKey)
    (throw (.failure ⟨400, .backupMismatch,
      "The selected backup belongs to a different GatewayControl instance."⟩))
  given (archive.manifest.masterKey ≠ R.sha256 archive.masterKey ∨
      archive.manifest.databaseDump ≠ R.sha256 archive.dump.flatten)
    (throw invalidBackup)

/-- The artifact is the one the backup's record describes, and long enough to decrypt. -/
def checkArtifact (backup : SystemBackup) (artifact : Artifact) : Except Thrown Unit := do
  given (backup.checksum ≠ some artifact.checksum ∨ checksumPattern artifact.checksum = false ∨
      backup.sizeBytes ≠ some artifact.size)
    (throw invalidBackup)
  given (artifact.size ≤ headerSize + authTagSize) (throw invalidBackup)

/-- `stageRestore` up to the staging area: the artifact is checked and unpacked. -/
def readBackup (R : Recovery) (backupId : String) (backup : SystemBackup) :
    ExceptT Thrown (Prog interface) (Artifact × Archive) := do
  let some artifact ← call (.artifact backupId)
    | throw (.failure ⟨400, .invalidBackup, "The encrypted backup artifact is invalid."⟩)
  ofExcept (checkArtifact backup artifact)
  let archive ← ofExcept (← call (.unpack backupId))
  ofExcept (checkArchive R backupId archive)
  must (call .listDump) (.error "pg_restore failed.")
  return (artifact, archive)

/-- Remove the lock if it is this attempt's. -/
def removeOwnedLock (token : String) : Prog interface Unit := do
  let owner ← perform (.readFile .lock)
  given (owner = some (.token token)) do
    let _ ← perform (.remove .lock)

/-- Take a published marker back; a marker of another attempt is left untouched. -/
def unpublish (token : String) : Prog interface Unit := do
  match ← perform (.readFile (.marker .pending)) with
  | some (.marker metadata) =>
      given (metadata.token = token) do
        let _ ← perform (.remove (.marker .pending))
  | _ => pure ()

def rollback (backupId token : String) (dumpCreated markerPublished : Bool) :
    Prog interface Unit := do
  given markerPublished (unpublish token)
  let _ ← perform (.remove (.temporary token))
  given dumpCreated do
    let _ ← perform (.remove (.dump backupId token))

def takeLock (token : String) : ExceptT Thrown (Prog interface) Unit := do
  match ← call (.writeNew .lock (.token token)) with
  | .ok => pure ()
  | .exists => throw alreadyStaged
  | .failed => throw (.error "The restore lock could not be written.")

def copyDump (file : StageFile) : List Bytes → ExceptT (Thrown × Bool) (Prog interface) Unit
  | [] => pure ()
  | chunk :: rest => do
      must (call (.append file chunk)) (.error "The database dump could not be copied.", true)
      copyDump file rest

/-- The guarded part of `prepareStage`; its errors say whether the dump was created. -/
def fillStage (backupId token : String) (dump : List Bytes) :
    ExceptT (Thrown × Bool) (Prog interface) Unit := do
  let pending ← call (.lstat (.marker .pending))
  let applying ← call (.lstat (.marker .applying))
  let applied ← call (.lstat (.marker .applied))
  given (pending ∨ applying ∨ applied) (throw (alreadyStaged, false))
  match ← call (.openNew (.dump backupId token)) with
  | .ok => copyDump (.dump backupId token) dump
  | _ => throw (.error "The database dump could not be created.", false)

/-- `prepareStage`, from the token it draws. -/
def prepareStage (backupId token : String) (dump : List Bytes) :
    ExceptT Thrown (Prog interface) Unit := do
  given (commandIDPattern backupId = false) (throw invalidBackup)
  takeLock token
  match ← ExceptT.lift (fillStage backupId token dump).run with
  | .ok () => pure ()
  | .error (error, dumpCreated) =>
      ExceptT.lift (rollback backupId token dumpCreated false)
      ExceptT.lift (removeOwnedLock token)
      throw error

/-- The marker `publish` writes. -/
def markerOf (backupId token restoreId : String) (artifact : Artifact) : RestoreMarker where
  version := 2
  restoreId := restoreId
  backupId := backupId
  dump := .dump backupId token
  token := token
  backupSizeBytes := some artifact.size
  backupChecksum := some artifact.checksum

def writeMarker (token : String) (marker : RestoreMarker) :
    ExceptT Thrown (Prog interface) Unit := do
  match ← call (.writeNew (.temporary token) (.marker marker)) with
  | .ok => pure ()
  | _ => throw (.error "The restore marker could not be written.")

def publish (backupId token restoreId : String) (artifact : Artifact) :
    ExceptT Thrown (Prog interface) Unit := do
  given (commandIDPattern restoreId = false)
    (throw (.error "The system restore audit record is invalid."))
  writeMarker token (markerOf backupId token restoreId artifact)
  must (call (.rename (.temporary token) (.marker .pending)))
    (.error "The restore marker could not be published.")

/-- The variables `stageRestore`'s handler reads: `publication`, when it is set, with
`restore` and whether the marker was published. -/
inductive Progress where
  | unpublished
  | prepared (restore : Option String) (markerPublished : Bool)

def during (progress : Progress) {α : Type} (p : ExceptT Thrown (Prog interface) α) :
    ExceptT (Thrown × Progress) (Prog interface) α :=
  p.adapt fun thrown => (thrown, progress)

/-- The `try` block of `stageRestore`. -/
def stage (R : Recovery) (backupId token : String) (backup : SystemBackup) :
    ExceptT (Thrown × Progress) (Prog interface) String := do
  let (artifact, archive) ← during .unpublished (readBackup R backupId backup)
  during .unpublished (prepareStage backupId token archive.dump)
  let some restore ← call (.createSystemRestore backupId .staging none)
    | throw (.error "The restore record could not be created.", .prepared none false)
  during (.prepared (some restore) false) (publish backupId token restore artifact)
  must (call (.updateSystemRestore restore .staged none))
    (.error "The system restore audit record could not be transitioned.",
      .prepared (some restore) true)
  return restore

/-- The `catch` block of `stageRestore`, up to its `throw`. -/
def abandon (backupId token : String) (failure : SystemRecoveryFailure) :
    Progress → Prog interface Unit
  | .unpublished => do
      let _ ← perform (.createSystemRestore backupId .failed (some failure.code))
  | .prepared none markerPublished => do
      rollback backupId token true markerPublished
      removeOwnedLock token
  | .prepared (some restore) markerPublished => do
      rollback backupId token true markerPublished
      let _ ← perform (.updateSystemRestore restore .failed (some failure.code))
      removeOwnedLock token

def stageRestore (R : Recovery) (backupId token : String) :
    ExceptT Thrown (Prog interface) String := do
  let some found ← call (.getSystemBackup backupId)
    | throw (.error "The backup record could not be read.")
  let some backup := found
    | throw (.failure ⟨404, .invalidBackup, "The selected system backup is unavailable."⟩)
  match ← ExceptT.lift (stage R backupId token backup).run with
  | .ok restore => pure restore
  | .error (thrown, progress) =>
      let failure := recoveryFailure thrown
      ExceptT.lift (abandon backupId token failure progress)
      throw (.failure failure)

/-! ### Applying -/

def checkLock (name : MarkerName) (lock : Bool) (token : String) :
    ExceptT String (Prog interface) Unit :=
  given (name ≠ .applied ∨ lock) do
    let owner ← call (.readFile .lock)
    given (lock = false ∨ owner ≠ some (.token token))
      (throw "The staged system restore lock is invalid.")

/-- The database is replaced between two renames of the marker. -/
def replaceDatabase (name : MarkerName) (metadata : RestoreMarker) :
    ExceptT String (Prog interface) Unit := do
  given (name = .pending)
    (must (call (.rename (.marker .pending) (.marker .applying)))
      "The restore marker could not be renamed.")
  must (call (.pgRestore metadata.dump)) "pg_restore failed."
  given (metadata.version = 2)
    (must (call (.finalizeBackup metadata))
      "The restored system backup record could not be finalized.")
  must (call (.rename (.marker .applying) (.marker .applied)))
    "The restore marker could not be renamed."

/-- The lock goes first: the applied marker still blocks publication until it goes too, and
the dump is unreferenced only afterwards. -/
def cleanUp (lock : Bool) (dump : StageFile) : ExceptT String (Prog interface) Unit := do
  given lock (must (call (.remove .lock)) "The restore lock could not be removed.")
  must (call (.remove (.marker .applied))) "The restore marker could not be removed."
  must (call (.remove dump)) "The database dump could not be removed."

def applyMarker (name : MarkerName) (metadata : RestoreMarker) :
    ExceptT String (Prog interface) Bool := do
  let lock ← call (.lstat .lock)
  checkLock name lock metadata.token
  must (call (.lstat metadata.dump)) "The staged system restore database dump is invalid."
  given (name ≠ .applied) (replaceDatabase name metadata)
  cleanUp lock metadata.dump
  return true

/-- The marker of that name, if it is one the program supports. -/
def readMarker (name : MarkerName) : ExceptT String (Prog interface) RestoreMarker := do
  match ← call (.readFile (.marker name)) with
  | some (.marker metadata) =>
      if metadata.supported then pure metadata
      else throw "The staged system restore marker is unsupported."
  | _ => throw "The marker is not JSON."

def applyStagedSystemRestore : ExceptT String (Prog interface) Bool := do
  let pending ← call (.lstat (.marker .pending))
  let applying ← call (.lstat (.marker .applying))
  let applied ← call (.lstat (.marker .applied))
  let found := [(MarkerName.pending, pending), (.applying, applying), (.applied, applied)]
  match (found.filter (·.2)).map (·.1) with
  | [] => return false
  | [name] => applyMarker name (← readMarker name)
  | _ => throw "The system restore staging area contains conflicting state markers."

end GatewayControl.Staging
