import GatewayControl.SystemBackups

/-!
A host of the control plane: the database, the encrypted artifacts on its disks, the staging
root and the spool. What a dump restores is a parameter.

The recovery programs find here what each of their effects does, and the apply program what
it can do when it fails.
-/

namespace GatewayControl.RecoveryHost

open Programs Staging RecoveryRequests SystemBackups

/-- The tables the recovery programs read. -/
structure Plane where
  backups : Backups
  restores : Table SystemRestore String SystemRestore.id
  requests : Requests

/-- An encrypted file: its size and checksum, and what it decrypts to. -/
structure EncryptedFile where
  artifact : Artifact
  archive : Archive
  deriving DecidableEq

structure Host where
  plane : Plane
  disk : String → Option EncryptedFile
  files : StageFile → Option Content
  temporary : String → Option Request
  pending : Option Request
  claimed : Option Request

namespace Host

def put (s : Host) (f : StageFile) (c : Option Content) : Host :=
  { s with files := Function.update s.files f c }

def move (s : Host) (f g : StageFile) (c : Content) : Host :=
  { s with files := Function.update (Function.update s.files g (some c)) f none }

def store (s : Host) (path : String) (f : Option EncryptedFile) : Host :=
  { s with disk := Function.update s.disk path f }

def withBackups (s : Host) (backups : Backups) : Host :=
  { s with plane := { s.plane with backups := backups } }

def withRequests (s : Host) (requests : Requests) : Host :=
  { s with plane := { s.plane with requests := requests } }

@[simp] lemma put_self (s : Host) (f : StageFile) (c : Option Content) :
    (s.put f c).files f = c := by simp [put]

lemma put_ne (s : Host) {f g : StageFile} (c : Option Content) (h : g ≠ f) :
    (s.put f c).files g = s.files g := by simp [put, h]

lemma move_target (s : Host) {f g : StageFile} (c : Content) (h : f ≠ g) :
    (s.move f g c).files g = some c := by simp [move, Ne.symm h]

lemma move_source (s : Host) (f g : StageFile) (c : Content) : (s.move f g c).files f = none := by
  simp [move]

lemma move_ne (s : Host) {f g x : StageFile} (c : Content) (hf : x ≠ f) (hg : x ≠ g) :
    (s.move f g c).files x = s.files x := by simp [move, hf, hg]

end Host

open RecoveryHost.Host

/-- `finalizeRestoredBackup`: the host after the update, and whether it was of one row. -/
def finalized (s : Host) (metadata : RestoreMarker) : Host × Bool :=
  let (backups, count) := finalizeRestoredBackup s.plane.backups metadata
  (s.withBackups backups, count = 1)

/-- What the effects of the apply program can do. The restore is one transaction; an answer
can be lost, and any effect can fail. -/
def applyEffect (contents : Bytes → Plane) (s : Host) :
    (o : StageOp) → o.Res → Host → Prop
  | .lstat f, r, t => r = (s.files f).isSome ∧ t = s
  | .readFile f, r, t => (r = s.files f ∨ r = none) ∧ t = s
  | .rename f g, r, t =>
      (∃ c, s.files f = some c ∧ t = s.move f g c) ∨ r = false ∧ t = s
  | .remove f, r, t => t = s.put f none ∨ r = false ∧ t = s
  | .pgRestore f, r, t =>
      (∃ b, s.files f = some (.bytes b) ∧ t = { s with plane := contents b }) ∨
        r = false ∧ t = s
  | .finalizeBackup m, r, t => t = (finalized s m).1 ∧ (r = true → (finalized s m).2) ∨
      r = false ∧ t = s
  | _, _, t => t = s

/-! ### Effects that work -/

/-- The identifiers the database and the service draw next, and the dump `pg_dump` takes. -/
structure Draws where
  id : String
  dump : Bytes
  encrypted : Artifact

/-- The effects of staging and applying, when nothing fails. The archive at a backup's path
is the one of its row. -/
def stageWorks (contents : Bytes → Plane) (draws : Draws) (s : Host) :
    (o : StageOp) → o.Res × Host
  | .getSystemBackup id =>
      (some ((getSystemBackup s.plane.backups id).map fun r => ⟨r.sizeBytes, r.checksum⟩), s)
  | .artifact id =>
      ((s.plane.backups.find? id).bind fun r => (s.disk r.artifactPath).map (·.artifact), s)
  | .unpack id =>
      match (s.plane.backups.find? id).bind fun r => s.disk r.artifactPath with
      | some f => (.ok f.archive, s)
      | none => (.error (.error "The artifact could not be read."), s)
  | .listDump => (true, s)
  | .createSystemRestore backupId status _ =>
      match s.plane.restores.insert? ⟨draws.id, backupId, status⟩ with
      | some restores => (some draws.id, { s with plane := { s.plane with restores := restores } })
      | none => (none, s)
  | .updateSystemRestore id status _ =>
      let restores := s.plane.restores.update (fun r => r.id = id ∧ r.status = .staging)
        (fun r => { r with status := status }) fun _ => rfl
      ((s.plane.restores.find? id).any (·.status = .staging),
        { s with plane := { s.plane with restores := restores } })
  | .writeNew f c => if s.files f = none then (.ok, s.put f (some c)) else (.exists, s)
  | .openNew f => if s.files f = none then (.ok, s.put f (some (.bytes []))) else (.exists, s)
  | .append f chunk =>
      match s.files f with
      | some (.bytes b) => (true, s.put f (some (.bytes (b ++ chunk))))
      | _ => (false, s)
  | .lstat f => ((s.files f).isSome, s)
  | .readFile f => (s.files f, s)
  | .rename f g =>
      match s.files f with
      | some c => (true, s.move f g c)
      | none => (false, s)
  | .remove f => ((s.files f).isSome, s.put f none)
  | .pgRestore f =>
      match s.files f with
      | some (.bytes b) => (true, { s with plane := contents b })
      | _ => (false, s)
  | .finalizeBackup m => ((finalized s m).2, (finalized s m).1)

/-- The effects of creating and importing backups, when nothing fails. -/
def backupWorks (draws : Draws) (record : ImportRecord) (s : Host) :
    (o : BackupOp) → o.Res × Host
  | .createSystemBackup path =>
      match createSystemBackup s.plane.backups draws.id path with
      | some backups => (some draws.id, s.withBackups backups)
      | none => (none, s)
  | .ensureTarget | .listDump | .syncDirectory | .recordSystemBackupTransferEvent _ _ => (true, s)
  | .pgDump => (some draws.dump, s)
  | .encrypt path archive => (true, s.store path (some ⟨draws.encrypted, archive⟩))
  | .rename source destination =>
      match s.disk source with
      | some f => (true, (s.store destination (some f)).store source none)
      | none => (false, s)
  | .artifact path => ((s.disk path).map (·.artifact), s)
  | .completeSystemBackup id size checksum =>
      (true, s.withBackups (completeSystemBackup s.plane.backups id size checksum))
  | .failSystemBackup id => (true, s.withBackups (failSystemBackup s.plane.backups id))
  | .remove path => (true, s.store path none)
  | .claimSystemBackupImport _ => (some (.claimed record), s)
  | .unpack path =>
      match s.disk path with
      | some f => (.ok f.archive, s)
      | none => (.error (.error "The artifact could not be read."), s)
  | .getSystemBackup id => (some (getSystemBackup s.plane.backups id), s)
  | .lstat path => ((s.disk path).isSome, s)
  | .importSystemBackup id path size checksum =>
      let (result, backups) := importSystemBackup s.plane.backups id path size checksum
      (some result, s.withBackups backups)
  | .finishSystemBackupImport _ _ _ => (some true, s)

end GatewayControl.RecoveryHost
