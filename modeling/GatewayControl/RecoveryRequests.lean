import GatewayControl.Staging
import GatewayControl.Table

/-!
Requests to apply a staged restore: the control plane records a request and puts its file
into a spool, and a supervisor on the host takes it from there.

One request may be active in the table, and one file may be pending in the spool.
-/

namespace GatewayControl.RecoveryRequests

open Programs Staging

/-! ### The table -/

inductive RequestStatus where
  | publishing
  | published
  | failed
  deriving DecidableEq, Repr

/-- A row of `system_recovery_requests`. -/
structure RecoveryRequest where
  id : String
  restoreId : String
  requestedByUserId : String
  ownershipToken : String
  status : RequestStatus
  error : Option SystemRecoveryCode
  deriving DecidableEq, Repr

/-- The condition of `system_recovery_requests_one_active_idx`. -/
def RecoveryRequest.active (r : RecoveryRequest) : Bool :=
  r.status = .publishing ∨ r.status = .published

abbrev Requests := Table RecoveryRequest String RecoveryRequest.id

/-- The row is inserted unless a unique index refuses it; then the answer is `active`. -/
def createSystemRecoveryRequest (requests : Requests)
    (id restoreId requestedByUserId ownershipToken : String) : Option Requests :=
  if requests.rows.any fun r => r.active ∨ r.ownershipToken = ownershipToken then none
  else requests.insert? ⟨id, restoreId, requestedByUserId, ownershipToken, .publishing, none⟩

def unfinished (id ownershipToken : String) (r : RecoveryRequest) : Bool :=
  r.id = id ∧ r.ownershipToken = ownershipToken ∧ r.status = .publishing

def RecoveryRequest.finish (status : RequestStatus) (error : Option SystemRecoveryCode)
    (r : RecoveryRequest) : RecoveryRequest :=
  { r with status := status, error := error }

/-- The new table, and whether one row was updated. -/
def finishSystemRecoveryRequest (requests : Requests) (id ownershipToken : String)
    (status : RequestStatus) (error : Option SystemRecoveryCode) : Requests × Bool :=
  (requests.update (unfinished id ownershipToken) (RecoveryRequest.finish status error)
    fun _ => rfl, (requests.rows.filter (unfinished id ownershipToken)).length = 1)

/-! ### Effects -/

/-- What `getSystemRestore` answers, as far as it is read. -/
structure SystemRestore where
  id : String
  backupId : String
  status : RestoreStatus
  deriving DecidableEq, Repr

/-- A request file: the restore to apply, signed. -/
structure Request where
  restoreId : String
  signature : String
  deriving DecidableEq, Repr

inductive SpoolOp where
  | getSystemRestore (restoreId : String)
  | getSystemBackup (backupId : String)
  | artifact (backupId : String)
  | unpack (backupId : String)
  | listDump
  | requestRoot
  | createSystemRecoveryRequest (restoreId requestedByUserId ownershipToken : String)
  | writeTemporary (token : String) (request : Request)
  | link (token : String)
  | removeTemporary (token : String)
  | syncDirectory
  | finishSystemRecoveryRequest (id ownershipToken : String) (status : RequestStatus)
      (error : Option SystemRecoveryCode)
  | recordSystemBackupTransferEvent (restoreId backupId : String)
  deriving DecidableEq

/-- Answers; `none` and `false` stand for a throw. A spool that is no directory is `some
false`, an insertion that finds a request active is `some none`. -/
abbrev SpoolOp.Res : SpoolOp → Type
  | getSystemRestore _ => Option (Option SystemRestore)
  | getSystemBackup _ => Option (Option SystemBackup)
  | artifact _ => Option Artifact
  | unpack _ => Except Thrown Archive
  | createSystemRecoveryRequest _ _ _ => Option (Option String)
  | writeTemporary _ _ | link _ => Created
  | requestRoot | finishSystemRecoveryRequest _ _ _ _ => Option Bool
  | listDump | removeTemporary _ | syncDirectory | recordSystemBackupTransferEvent _ _ => Bool

abbrev spool : Interface := ⟨SpoolOp, SpoolOp.Res⟩

variable {ε : Type}

def ask (o : SpoolOp) : ExceptT ε (Prog spool) o.Res :=
  ExceptT.lift (Prog.perform (F := spool) o)

def act (o : SpoolOp) : Prog spool o.Res := Prog.perform (F := spool) o

/-! ### Requesting -/

/-- What the service is configured with. -/
structure Service where
  recovery : Recovery
  recoverySupervisorEnabled : Bool
  recoveryRequestSecret : String
  hmac : String → String → String

structure ApplyInput where
  restoreId : String
  requestedByUserId : String
  confirmation : String
  deriving DecidableEq, Repr

/-- The text that is signed. -/
def unsigned (restoreId : String) : String :=
  "\x7b\"version\":1,\"operation\":\"apply-system-restore\",\"restoreId\":\"" ++ restoreId ++
    "\"\x7d"

def Service.sign (S : Service) (restoreId : String) : Request :=
  ⟨restoreId, S.hmac S.recoveryRequestSecret (unsigned restoreId)⟩

def invalid (statusCode : Nat) (message : String) : Thrown :=
  .failure ⟨statusCode, .invalidBackup, message⟩

def requestPending : SystemRecoveryFailure :=
  ⟨409, .recoveryRequestPending, "A platform recovery request is already pending."⟩

/-- The artifact is the one the backup's record describes. -/
def matchesRecord (backup : SystemBackup) (artifact : Artifact) : Except Thrown Unit :=
  given (backup.checksum ≠ some artifact.checksum ∨ artifact.checksum = "" ∨
      backup.sizeBytes ≠ some artifact.size)
    (throw (invalid 400 "The selected system backup is invalid."))

def inspectArtifact (S : Service) (backupId : String) : ExceptT Thrown (Prog spool) Unit := do
  let archive ← ofExcept (← ask (.unpack backupId))
  ofExcept (checkArchive S.recovery backupId archive)
  given ((← ask .listDump) = false) (throw (.error "pg_restore failed."))

/-- `requestApply` up to the insertion: the restore and its backup are checked. -/
def checkRequest (S : Service) (input : ApplyInput) :
    ExceptT Thrown (Prog spool) SystemRestore := do
  given (S.recoverySupervisorEnabled = false ∨ S.recoveryRequestSecret = "")
    (throw (.failure ⟨409, .recoverySupervisorUnavailable,
      "Platform-assisted recovery is not configured."⟩))
  given (input.confirmation ≠ "APPLY " ++ input.restoreId)
    (throw (invalid 400 "The restore confirmation does not match."))
  let some restore ← ask (.getSystemRestore input.restoreId)
    | throw (.error "The restore record could not be read.")
  match restore.filter (·.status = .staged) with
  | none => throw (invalid 404 "The staged system restore is unavailable.")
  | some restore => do
      let some backup ← ask (.getSystemBackup restore.backupId)
        | throw (.error "The backup record could not be read.")
      let some backup := backup
        | throw (invalid 404 "The selected system backup is unavailable.")
      let some artifact ← ask (.artifact restore.backupId)
        | throw (invalid 400 "The encrypted backup artifact is invalid.")
      ofExcept (matchesRecord backup artifact)
      inspectArtifact S restore.backupId
      match ← ask .requestRoot with
      | some true => return restore
      | some false => throw (invalid 400 "The recovery request spool is invalid.")
      | none => throw (.error "The recovery request spool could not be created.")

/-- What a failed publication says: whether some file was already there. -/
inductive SpoolError where
  | exists
  | other
  deriving DecidableEq, Repr

def created : Created → ExceptT SpoolError (Prog spool) Unit
  | .ok => pure ()
  | .exists => throw .exists
  | .failed => throw .other

def orElse (p : ExceptT SpoolError (Prog spool) Bool) :
    ExceptT SpoolError (Prog spool) Unit := do
  if ← p then pure () else throw .other

/-- The `try` block of `publishRecoveryRequest`. -/
def linkRequest (token : String) (request : Request) :
    ExceptT SpoolError (Prog spool) Unit := do
  created (← ask (.writeTemporary token request))
  created (← ask (.link token))
  orElse (ask (.removeTemporary token))
  orElse (ask .syncDirectory)

def publishRecoveryRequest (token : String) (request : Request) :
    ExceptT SpoolError (Prog spool) Unit := do
  match ← ExceptT.lift (linkRequest token request).run with
  | .ok () => pure ()
  | .error error => do
      let _ ← ask (.removeTemporary token)
      throw error

def publicationFailure : SpoolError → SystemRecoveryFailure
  | .exists => requestPending
  | .other => recoveryFailure (.error "The recovery request could not be published.")

/-- `requestApply` from the insertion on, with the token it draws. -/
def submit (S : Service) (input : ApplyInput) (token : String) (restore : SystemRestore) :
    ExceptT Thrown (Prog spool) Unit := do
  let some audit ←
      ask (.createSystemRecoveryRequest restore.id input.requestedByUserId token)
    | throw (.error "The recovery request could not be recorded.")
  let some id := audit | throw (.failure requestPending)
  match ← ExceptT.lift (publishRecoveryRequest token (S.sign restore.id)).run with
  | .ok () => do
      let _ ← ask (.finishSystemRecoveryRequest id token .published none)
      let _ ← ask (.recordSystemBackupTransferEvent restore.id restore.backupId)
      pure ()
  | .error error => do
      let failure := publicationFailure error
      let _ ← ask (.finishSystemRecoveryRequest id token .failed (some failure.code))
      throw (.failure failure)

def requestApply (S : Service) (input : ApplyInput) (token : String) :
    ExceptT Thrown (Prog spool) Unit := do
  submit S input token (← checkRequest S input)

end GatewayControl.RecoveryRequests
