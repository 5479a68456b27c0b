import GatewayControl.ApplyRuns

/-!
What a restored database knows of the backup it was restored from.

The dump holds the backup's own row as the creating host wrote it. Finalizing sets status, size
and checksum; the artifact path stays the one of the creating host.
-/

namespace GatewayControl.RestoredBackup

open Programs Staging SystemBackups RecoveryHost RecoveryHost.Host ApplyRuns

/-- The database knows a backup: its row names a file on this host, with the recorded size and
checksum. -/
def Known (s : Host) (backupId : String) : Prop :=
  ∃ r, s.plane.backups.find? backupId = some r ∧ r.status = .succeeded ∧
    ∃ f, s.disk r.artifactPath = some f ∧ r.sizeBytes = some f.artifact.size ∧
      r.checksum = some f.artifact.checksum

/-- A restore is staged: its marker is pending, with the dump beside it. -/
structure Staged (m : RestoreMarker) (b : Bytes) (s : Host) : Prop where
  supported : m.supported
  pending : s.files (.marker .pending) = some (.marker m)
  alone : ∀ p, p ≠ .pending → s.files (.marker p) = none
  dump : s.files m.dump = some (.bytes b)

/-- The path the dump's own row names is, on the disks of this host, a file with the size and
checksum of the marker. -/
def KeptWhereCreated (contents : Bytes → Plane) (m : RestoreMarker) (b : Bytes) (s : Host) :
    Prop :=
  ∃ r, (contents b).backups.find? m.backupId = some r ∧
    ∃ f, s.disk r.artifactPath = some f ∧ m.backupSizeBytes = some f.artifact.size ∧
      m.backupChecksum = some f.artifact.checksum

variable {contents : Bytes → Plane} {m : RestoreMarker} {b : Bytes} {s t : Host}

lemma dump_eq (hm : m.supported) : m.dump = .dump m.backupId m.token := by
  unfold RestoreMarker.supported at hm
  simp only [Bool.and_eq_true, decide_eq_true_eq] at hm
  exact hm.2

lemma staged_kept (hs : Staged m b s) :
    Kept m b True (Restored contents m b) s.disk s := by
  have hname : ∀ p, s.files (.marker p) ≠ none → p = .pending := by
    intro p hp
    by_contra hne
    exact hp (hs.alone p hne)
  refine ⟨rfl, ?_, ?_, fun p _ _ => ⟨hs.dump, trivial⟩, ?_⟩
  · intro p c hc
    obtain rfl := hname p (by simp [hc])
    rw [hs.pending] at hc
    exact (Option.some.inj hc).symm
  · intro p q hp hq
    rw [hname p hp, hname q hq]
  · intro hnone
    have hthere := hnone .pending (by simp)
    rw [hs.pending] at hthere
    cases hthere

/-- A finalized row is the dump's own row, with another status, size and checksum. -/
lemma finalized_find {backups : Backups} (h : (finalizeRestoredBackup backups m).2 = 1) :
    ∃ r, backups.find? m.backupId = some r ∧
      (finalizeRestoredBackup backups m).1.find? m.backupId =
        some (r.succeed m.backupSizeBytes m.backupChecksum) := by
  unfold finalizeRestoredBackup at h ⊢
  dsimp only at h ⊢
  have hpos : 0 < backups.rows.countP (isRunning m.backupId) := by omega
  obtain ⟨r, hr, hrun⟩ := List.countP_pos_iff.mp hpos
  have hid : r.id = m.backupId := by
    unfold isRunning at hrun
    simp only [decide_eq_true_eq] at hrun
    exact hrun.1
  have hfind := Table.find?_of_mem hr
  rw [hid] at hfind
  refine ⟨r, hfind, (Table.find?_update backups _ _ _ _).trans ?_⟩
  rw [hfind, Option.map_some, if_pos hrun]

lemma restored_known (hv : m.version = 2) (ht : Restored contents m b t.plane) :
    Known t m.backupId ↔ KeptWhereCreated contents m b t := by
  obtain ⟨hplane, hcount⟩ := ht
  obtain ⟨r, hr, hnew⟩ := finalized_find (hcount hv)
  have hbackups : t.plane.backups.find? m.backupId =
      some (r.succeed m.backupSizeBytes m.backupChecksum) := by
    rw [hplane, if_pos hv]
    exact hnew
  constructor
  · rintro ⟨r', hr', -, f, hf, hsize, hsum⟩
    rw [hbackups] at hr'
    obtain rfl := Option.some.inj hr'
    exact ⟨r, hr, f, hf, hsize, hsum⟩
  · rintro ⟨r', hr', f, hf, hsize, hsum⟩
    rw [hr] at hr'
    obtain rfl := Option.some.inj hr'
    exact ⟨_, hbackups, rfl, f, hf, hsize, hsum⟩

/-- Once the staged restore is applied, the database knows the backup exactly if the artifact
is still where it was created. -/
theorem restored_known_iff (hs : Staged m b s) (hv : m.version = 2)
    {c : Config interface Host Unit (Except String Bool)}
    (h : Reach (system contents) (fromHost s) c) (hdone : c.thread () = .pure (.ok true)) :
    Known c.state m.backupId ↔ KeptWhereCreated contents m b s := by
  have hdump : ∃ i x, m.dump = .dump i x := ⟨_, _, dump_eq hs.supported⟩
  obtain ⟨hkept, -, hΦ⟩ := reach_kept (fun _ h => h) hdump (staged_kept hs) h
  rw [restored_known hv (hΦ hdone)]
  unfold KeptWhereCreated
  rw [hkept.disk]

/-! ### Runs on given hosts -/

/-- The effects of the apply program. -/
def applies : StageOp → Bool
  | .lstat _ | .readFile _ | .rename _ _ | .remove _ | .pgRestore _ | .finalizeBackup _ => true
  | _ => false

lemma stageWorks_applies (contents : Bytes → Plane) (draws : Draws) (s : Host) (o : StageOp)
    (ho : applies o) : applyEffect contents s o (stageWorks contents draws s o).1
      (stageWorks contents draws s o).2 := by
  cases o with
  | lstat f => exact ⟨rfl, rfl⟩
  | readFile f => exact ⟨.inl rfl, rfl⟩
  | rename f g =>
      unfold stageWorks
      dsimp only
      cases hf : s.files f with
      | some c => exact .inl ⟨c, hf, rfl⟩
      | none => exact .inr ⟨rfl, rfl⟩
  | remove f => exact .inl rfl
  | pgRestore f =>
      unfold stageWorks
      dsimp only
      match hf : s.files f with
      | some (.bytes b) => exact .inl ⟨b, hf, rfl⟩
      | some (.token _) => exact .inr ⟨rfl, rfl⟩
      | some (.marker _) => exact .inr ⟨rfl, rfl⟩
      | none => exact .inr ⟨rfl, rfl⟩
  | finalizeBackup m => exact .inl ⟨rfl, fun h => h⟩
  | _ => cases ho

/-- Run the apply program for up to `n` effects, none of which fails. -/
def letApply (contents : Bytes → Plane) (draws : Draws) (n : ℕ) (s : Host) :
    Config interface Host Unit (Except String Bool) :=
  let (p, t) := applyStagedSystemRestore.run.runFor (stageWorks contents draws) n s
  ⟨t, fun _ => p⟩

lemma reach_letApply {draws : Draws} {n : ℕ} (h : applyStagedSystemRestore.run.checkFor
    (fun _ => applies) (stageWorks contents draws) n s) :
    Reach (system contents) (fromHost s) (letApply contents draws n s) := by
  have hinit : Reach (system contents) (fromHost s)
      ⟨s, fun _ => .pure (.error "not started")⟩ := .init rfl
  have hstart := hinit.step (Step.start (S := system contents) () rfl ⟨rfl, rfl⟩)
  have hrun := reach_checked (S := system contents) (i := ()) (c := fun _ => applies)
    (fun s o ho => stageWorks_applies contents draws s o ho) n hstart (by simpa using h)
  simp only [Function.update_self, Function.update_idem] at hrun
  have hthread : Function.update (fun _ : Unit => (Prog.pure (.error "not started") :
      Prog interface (Except String Bool))) ()
      (applyStagedSystemRestore.run.runFor (stageWorks contents draws) n s).1 =
      fun _ => (applyStagedSystemRestore.run.runFor (stageWorks contents draws) n s).1 := by
    funext i
    exact Function.update_self _ _ _
  rw [hthread] at hrun
  exact hrun

def sampleId : String := "3f2504e0-4f89-41d3-9a0c-0305e82c3301"

def sampleToken : String := "3f2504e0-4f89-41d3-9a0c-0305e82c3302"

/-- Both hosts belong to one installation: they share the master key. -/
def sampleRecovery : Recovery := ⟨fun b => toString b.length, List.replicate 32 0⟩

def sampleDraws : Draws where
  id := sampleId
  dump := [1]
  encrypted := ⟨100, String.ofList (List.replicate 64 'a')⟩

def sampleRecord : ImportRecord where
  id := "import"
  quarantinePath := "/backups/.imports/upload.gcsb"
  sizeBytes := some 100
  checksum := some (String.ofList (List.replicate 64 'a'))
  validationRevision := 1

def emptyHost : Host := ⟨⟨∅, ∅, ∅⟩, fun _ => none, fun _ => none, fun _ => none, none, none⟩

def sampleBackup : BackupProgram String :=
  createBackup sampleRecovery "/backups" "2026-01-01" "first" "second"

/-- The host a backup was created on. -/
def sampleCreated : Host := (sampleBackup.run.outcome (backupWorks sampleDraws sampleRecord)
  emptyHost).2

/-- What its dump holds: the database after the first two effects, when it is taken. -/
def sampleContents (_ : Bytes) : Plane :=
  (sampleBackup.run.runFor (backupWorks sampleDraws sampleRecord) 2 emptyHost).2.plane

/-- Another host, to which the artifact has been uploaded and validated. -/
def sampleImported : Except Thrown String × Host :=
  (validateImport sampleRecovery "/backups" "import").run.outcome
    (backupWorks sampleDraws sampleRecord)
    (emptyHost.store sampleRecord.quarantinePath
      (sampleCreated.disk "/backups/system-2026-01-01-first.gcsb"))

def sampleStage (s : Host) : Host :=
  ((stageRestore sampleRecovery sampleId sampleToken).run.outcome
    (stageWorks sampleContents { sampleDraws with id := sampleToken }) s).2

def sampleMarker : RestoreMarker :=
  markerOf sampleId sampleToken sampleToken sampleDraws.encrypted

lemma sampleStage_staged (s : Host)
    (h : (sampleStage s).files (.marker .pending) = some (.marker sampleMarker) ∧
      (sampleStage s).files (.marker .applying) = none ∧
      (sampleStage s).files (.marker .applied) = none ∧
      (sampleStage s).files sampleMarker.dump = some (.bytes [1])) :
    Staged sampleMarker [1] (sampleStage s) := by
  refine ⟨by decide, h.1, fun p hp => ?_, h.2.2.2⟩
  cases p with
  | pending => exact absurd rfl hp
  | applying => exact h.2.1
  | applied => exact h.2.2.1

/-- On the host it was created on, the backup is known again. -/
theorem restored_known_sample :
    Known (letApply sampleContents sampleDraws 20 (sampleStage sampleCreated)).state sampleId := by
  have hstaged : Staged sampleMarker [1] (sampleStage sampleCreated) :=
    sampleStage_staged _ (by decide)
  have hdone : (letApply sampleContents sampleDraws 20 (sampleStage sampleCreated)).thread () =
      .pure (.ok true) := rfl
  have hkept : KeptWhereCreated sampleContents sampleMarker [1] (sampleStage sampleCreated) :=
    ⟨⟨sampleId, "/backups/system-2026-01-01-first.gcsb", .running, none, none⟩,
      by decide, ⟨sampleDraws.encrypted, bundle sampleRecovery sampleId [1]⟩,
      by decide, rfl, rfl⟩
  exact (restored_known_iff hstaged rfl (reach_letApply (by decide)) hdone).2 hkept

/-- An imported backup is known before it is staged, and no longer once it is applied. -/
theorem imported_forgotten : sampleImported.1 = .ok sampleId ∧
    Known sampleImported.2 sampleId ∧ Staged sampleMarker [1] (sampleStage sampleImported.2) ∧
    ∃ c, Reach (system sampleContents) (fromHost (sampleStage sampleImported.2)) c ∧
      c.thread () = .pure (.ok true) ∧ ¬ Known c.state sampleId := by
  refine ⟨by decide, ?_, sampleStage_staged _ (by decide),
    letApply sampleContents sampleDraws 20 (sampleStage sampleImported.2),
    reach_letApply (by decide), rfl, ?_⟩
  · exact ⟨⟨sampleId, importedPath "/backups" sampleId, .succeeded, some 100,
      some (String.ofList (List.replicate 64 'a'))⟩, by decide, rfl,
      ⟨sampleDraws.encrypted, bundle sampleRecovery sampleId [1]⟩, by decide, rfl, rfl⟩
  · rintro ⟨r, hr, -, f, hf, -⟩
    have hrow : (letApply sampleContents sampleDraws 20
        (sampleStage sampleImported.2)).state.plane.backups.find? sampleId =
        some ⟨sampleId, "/backups/system-2026-01-01-first.gcsb", .succeeded, some 100,
          some (String.ofList (List.replicate 64 'a'))⟩ := by decide
    rw [hrow] at hr
    obtain rfl := Option.some.inj hr
    have hnone : (letApply sampleContents sampleDraws 20
        (sampleStage sampleImported.2)).state.disk "/backups/system-2026-01-01-first.gcsb" =
        none := by decide
    rw [hnone] at hf
    cases hf

end GatewayControl.RestoredBackup
