import GatewayControl.StackRestore

/-!
The restore journal is fail-closed. A volume or database is replaced only while this
restore's own journal is on disk, never when there was one before, and the journal goes
only once everything the manifest names is restored.
-/

namespace GatewayControl.RestoreJournal

open Text AgentTypes Programs Host StackRestore

/-- A volume restore by the helper, or the database restore itself. -/
def destructive : List String → Bool
  | "run" :: args => args.dropLast.getLast? = some "restore"
  | "container" :: "exec" :: _ :: "pg_restore" :: _ => true
  | _ => false

/-- A restore under way: its request, what was at its journal's path when it began, the
manifest it read, and the Docker commands it started and those that succeeded. -/
structure Underway where
  restore : StackRestorePayload
  before : Option Node
  manifest : Option BackupManifest := none
  started : List (List String) := []
  finished : List (List String) := []

def Underway.observe (u : Underway) : (o : HostOp) → o.Res → Underway
  | .docker args, r =>
      { u with
        started := args :: u.started
        finished := if r.err.isNone then args :: u.finished else u.finished }
  | .readFile _, .ok (.manifest m _) => { u with manifest := some m }
  | _, _ => u

structure RestoreState (D : Type) where
  host : HostState D
  underway : Option Underway := none

/-- Where the journal of a restore stands. -/
def journalPath (e : Executor) (links : String → String) (p : StackRestorePayload) : String :=
  join (join (links e.stateDir) "restore-journals") (journalName p)

/-- The backup's directory as the host names it. -/
def hostDirectory (e : Executor) (p : StackRestorePayload) : String :=
  [toLower p.stackId, toLower p.backupId].foldl join
    (if p.target = "local" then e.hostLocalBackupRoot else e.hostNASBackupRoot)

variable {D : Type}

/-- The journal on disk is this restore's. -/
def JournalOnDisk (e : Executor) (links : String → String) (h : HostState D)
    (p : StackRestorePayload) : Prop :=
  ∃ j, h.files (journalPath e links p) = some (.regular (.journal j)) ∧
    j.restoreId = p.restoreId ∧ j.backupId = p.backupId ∧ j.stackId = p.stackId

/-- Every volume and every database of the manifest was restored. -/
def RestoredAll (e : Executor) (u : Underway) : Prop :=
  ∃ m, u.manifest = some m ∧
    (∀ v ∈ m.volumes, helperArgs e "restore" v.dockerName (hostDirectory e u.restore)
      v.archiveName ∈ u.finished) ∧
    ∀ d ∈ m.databases, ∃ container,
      pgRestoreArgs container ("/tmp/" ++ d.archiveName) d ∈ u.finished

/-- What a command's payload puts under way. -/
def underwayOf (e : Executor) (links : String → String) (h : HostState D) :
    Payload → Option Underway
  | .stackRestore restore => some { restore, before := h.files (journalPath e links restore) }
  | _ => none

/-- Restores one after the other on one agent. A restore may be cut at any effect; while
none is under way an administrator may change any file. -/
def restoreSystem (e : Executor) (links : String → String) (digest : BackupManifest → String)
    (run : D → List String → RunResult → D → Prop) :
    System interface (RestoreState D) Unit CommandResult Unit where
  exec := fun _ s o r t => hostEffect links run s.host o r t.host ∧
    t.underway = s.underway.map (·.observe o r)
  start := fun _ result s p t => t.host = s.host ∧
    (t.underway = none ∧ p = .pure result ∨
      ∃ command startedAt, t.underway = underwayOf e links s.host command.payload ∧
        p = executeStackRestore e digest (startedResult command startedAt) command.payload)
  environment := fun _ s t => s.underway = none ∧ t.underway = none
  crash := fun _ s t p => t.host = s.host.crashed ∧ t.underway = s.underway ∧
    ∃ result, p = .pure result

/-! ### The contract -/

variable {e : Executor} {links : String → String}
  {run : D → List String → RunResult → D → Prop}

/-- Nothing was destroyed, or the journal is there, or everything is restored. -/
def FailClosed (e : Executor) (links : String → String) (h : HostState D) (u : Underway) :
    Prop :=
  (∀ args ∈ u.started, destructive args = false) ∨ JournalOnDisk e links h u.restore ∨
    RestoredAll e u

def contract (e : Executor) (links : String → String)
    (run : D → List String → RunResult → D → Prop) :
    Contract interface (RestoreState D) Unit where
  exec := fun _ s o r t => hostEffect links run s.host o r t.host ∧
    t.underway = s.underway.map (·.observe o r)
  inv := fun s => ∀ u, s.underway = some u → FailClosed e links s.host u
  rely := fun _ s t => t = s ∨ s.underway = none ∧ t.underway = none
  allowed := fun _ s o => ∀ args, o = .docker args → destructive args = true →
    ∃ u, s.underway = some u ∧ u.before = none ∧ JournalOnDisk e links s.host u.restore

lemma contract_lawful : (contract e links run).Lawful where
  refl := fun _ _ => .inl rfl
  trans := by
    rintro - s t u (rfl | ⟨hs, ht⟩) (rfl | ⟨ht', hu⟩)
    · exact .inl rfl
    · exact .inr ⟨ht', hu⟩
    · exact .inr ⟨hs, ht⟩
    · exact .inr ⟨hs, hu⟩

/-- Nothing foreign happens while a restore is under way. -/
lemma stable_underway {P : RestoreState D → Prop} (h : ∀ s, P s → s.underway ≠ none) :
    Stable (contract e links run) () P := by
  rintro s t - - (rfl | ⟨hs, -⟩) hP
  · exact hP
  · exact absurd hs (h s hP)

/-! ### Quiet effects -/

/-- Effects that change no managed file, destroy nothing and read no file. -/
def quiet : HostOp → Prop
  | .docker args => destructive args = false
  | .rename _ | .remove _ | .readFile _ => False
  | _ => True

lemma files_of_quiet {h h' : HostState D} {o : HostOp} {r : o.Res} (ho : quiet o)
    (hs : hostEffect links run h o r h') : h'.files = h.files := by
  cases o with
  | rename _ | remove _ | readFile _ => exact absurd ho id
  | docker args =>
      obtain ⟨d, -, rfl⟩ := hs
      rfl
  | writeTemporary _ c =>
      obtain ⟨-, rfl⟩ | ⟨-, rfl⟩ := hs <;> rfl
  | removeTemporary =>
      obtain rfl := hs
      rfl
  | evalSymlinks _ | lstat _ =>
      obtain ⟨rfl, -⟩ := hs
      rfl
  | mkdirAll _ | mkdir _ | chmod _ | syncDirectory _ | renameFile _ _ | composePath _
  | checksum _ | validateArchive _ | probe _ | waitSecond | contextError | identity | now =>
      obtain rfl := hs
      rfl

/-- What quiet effects leave of a restore's record. -/
structure Later (u v : Underway) : Prop where
  restore : v.restore = u.restore
  before : v.before = u.before
  manifest : v.manifest = u.manifest
  started : ∀ args ∈ v.started, args ∈ u.started ∨ destructive args = false
  finished : ∀ args ∈ u.finished, args ∈ v.finished

lemma later_of_quiet (u : Underway) {o : HostOp} (r : o.Res) (ho : quiet o) :
    Later u (u.observe o r) := by
  cases o with
  | readFile _ => exact absurd ho id
  | docker args =>
      refine ⟨rfl, rfl, rfl, fun x hx => ?_, fun x hx => ?_⟩
      · rcases List.mem_cons.1 hx with rfl | hx
        · exact .inr ho
        · exact .inl hx
      · simp only [Underway.observe]
        split
        · exact List.mem_cons_of_mem _ hx
        · exact hx
  | _ => exact ⟨rfl, rfl, rfl, fun _ hx => .inl hx, fun _ hx => hx⟩

lemma failClosed_later {h h' : HostState D} {u v : Underway} (hf : h'.files = h.files)
    (hv : Later u v) (hu : FailClosed e links h u) : FailClosed e links h' v := by
  rcases hu with hu | ⟨j, hj, hid⟩ | ⟨m, hm, hvol, hdb⟩
  · refine .inl fun args ha => ?_
    rcases hv.started args ha with ha | ha
    · exact hu args ha
    · exact ha
  · refine .inr (.inl ⟨j, ?_, ?_⟩)
    · rw [hf, hv.restore]
      exact hj
    · rw [hv.restore]
      exact hid
  · refine .inr (.inr ⟨m, hv.manifest.trans hm, fun v' hv' => ?_, fun d hd => ?_⟩)
    · rw [hv.restore]
      exact hv.finished _ (hvol v' hv')
    · obtain ⟨container, hc⟩ := hdb d hd
      exact ⟨container, hv.finished _ hc⟩

/-! ### Assertions -/

/-- An assertion that speaks of a restore under way and that quiet effects keep. -/
structure Kept (P : RestoreState D → Prop) : Prop where
  underway : ∀ s, P s → s.underway ≠ none
  later : ∀ s t u v, P s → s.underway = some u → t.underway = some v → Later u v →
    t.host.files = s.host.files → P t

/-- Nothing destroyed yet, and the journal's path as it was when the restore began. -/
def Prepared (e : Executor) (links : String → String) (p : StackRestorePayload)
    (b : Option Node) (M : Option BackupManifest → Prop) (s : RestoreState D) : Prop :=
  ∃ u, s.underway = some u ∧ u.restore = p ∧ u.before = b ∧ M u.manifest ∧
    (∀ args ∈ u.started, destructive args = false) ∧
    s.host.files (journalPath e links p) = b

/-- What the commands that succeeded amount to; more of them never amount to less. -/
structure Progress where
  done : List (List String) → Prop
  mono : ∀ xs ys, (∀ a ∈ xs, a ∈ ys) → done xs → done ys

/-- The journal is this restore's, there was none before, and so much is restored. -/
def Claimed (e : Executor) (links : String → String) (p : StackRestorePayload)
    (m : BackupManifest) (G : Progress) (s : RestoreState D) : Prop :=
  ∃ u, s.underway = some u ∧ u.restore = p ∧ u.before = none ∧ u.manifest = some m ∧
    G.done u.finished ∧ JournalOnDisk e links s.host p

lemma kept_prepared (p : StackRestorePayload) (b : Option Node)
    (M : Option BackupManifest → Prop) :
    Kept (D := D) (Prepared e links p b M) where
  underway := by
    rintro s ⟨u, hu, -⟩
    simp [hu]
  later := by
    rintro s t u v ⟨u', hu', hp, hb, hM, hst, hf⟩ hu hv hl hfiles
    obtain rfl : u' = u := by simpa [hu'] using hu
    refine ⟨v, hv, hl.restore.trans hp, hl.before.trans hb, hl.manifest ▸ hM, ?_,
      by rw [hfiles]; exact hf⟩
    intro args ha
    rcases hl.started args ha with ha | ha
    · exact hst args ha
    · exact ha

lemma kept_claimed (p : StackRestorePayload) (m : BackupManifest) (G : Progress) :
    Kept (D := D) (Claimed e links p m G) where
  underway := by
    rintro s ⟨u, hu, -⟩
    simp [hu]
  later := by
    rintro s t u v ⟨u', hu', hp, hb, hm, hd, j, hj, hid⟩ hu hv hl hfiles
    obtain rfl : u' = u := by simpa [hu'] using hu
    refine ⟨v, hv, hl.restore.trans hp, hl.before.trans hb, hl.manifest.trans hm,
      G.mono _ _ hl.finished hd, j, by rw [hfiles]; exact hj, hid⟩

lemma Kept.stable {P : RestoreState D → Prop} (hP : Kept P) :
    Stable (contract e links run) () P :=
  stable_underway hP.underway

variable {P : RestoreState D → Prop} {α β : Type}

lemma inv_quiet {s t : RestoreState D} {o : HostOp} {r : o.Res} (ho : quiet o)
    (hi : (contract e links run).inv s) (hst : (contract e links run).exec () s o r t) :
    (contract e links run).inv t := by
  obtain ⟨hh, hu⟩ := hst
  intro v hv
  cases hsu : s.underway with
  | none => simp [hsu, hv] at hu
  | some u =>
      obtain rfl : u.observe o r = v := by simpa [hsu, hv, eq_comm] using hu
      exact failClosed_later (files_of_quiet ho hh) (later_of_quiet u r ho) (hi u hsu)

lemma step_quiet {s t : RestoreState D} {o : HostOp} {r : o.Res} (ho : quiet o) (hP : Kept P)
    (hs : P s) (hst : (contract e links run).exec () s o r t) : P t := by
  obtain ⟨hh, hu⟩ := hst
  cases hsu : s.underway with
  | none => exact absurd hsu (hP.underway s hs)
  | some u =>
      rw [hsu] at hu
      exact hP.later s t u _ hs hsu hu (later_of_quiet u r ho) (files_of_quiet ho hh)

lemma allowed_quiet {s : RestoreState D} {o : HostOp} (ho : quiet o) :
    (contract e links run).allowed () s o := by
  rintro args rfl hd
  simp [quiet, hd] at ho

lemma triple_quiet {p : HostProg α} (hp : p.Only quiet) (hP : Kept P) :
    Triple (contract e links run) () P p fun _ => P :=
  triple_only hp hP.stable (fun _ _ ho _ _ => allowed_quiet ho) fun _ _ _ _ ho hi hs hst =>
    ⟨inv_quiet ho hi hst, fun _ hj => absurd rfl hj, step_quiet ho hP hs hst⟩

/-- Quiet programs are safe whatever is under way. -/
lemma triple_idle {p : HostProg α} (hp : p.Only quiet) :
    Triple (contract e links run) () (fun _ => True) p fun _ _ => True :=
  triple_only hp stable_true (fun _ _ ho _ _ => allowed_quiet ho) fun _ _ _ _ ho hi _ hst =>
    ⟨inv_quiet ho hi hst, fun _ hj => absurd rfl hj, trivial⟩

lemma tri_quiet {p : HostFallible α} (hp : p.run.Only quiet) (hP : Kept P) :
    Tri (contract e links run) () P p fun _ => P := by
  refine triple_conseq (triple_quiet hp hP) (fun _ _ h => h) ?_
  rintro (_ | _) s - h
  · trivial
  · exact h

lemma tri_orElse {p : HostFallible α} {message : String} {ok : α → RestoreState D → Prop}
    (hok : ∀ a, Kept (ok a)) (hp : Tri (contract e links run) () P p ok) :
    Tri (contract e links run) () P (orElse p.run message) ok :=
  tri_catch contract_lawful (fun a => (hok a).stable) hp
    (fun a => tri_pure (hok a).stable fun _ _ h => h) fun _ => tri_throw stable_true

/-! ### The checks are quiet -/

def IsCompose (base : List String) : Prop := ∃ args, base = "compose" :: args

lemma docker_quiet {args : List String} (h : destructive args = false) (message : String) :
    (docker args message).run.Only quiet :=
  only_bind (only_lift (only_eff h)) fun r => by split <;> trivial

lemma compose_quiet {base : List String} (h : IsCompose base) (args : List String) :
    destructive (base ++ args) = false := by
  obtain ⟨rest, rfl⟩ := h
  rfl

/-- Effects that ask nothing of Docker and only look at files. -/
def Looks : HostOp → Prop
  | .docker _ | .rename _ | .remove _ | .readFile _ => False
  | _ => True

lemma quiet_of_looks (o : HostOp) (h : Looks o) : quiet o := by
  cases o <;> trivial

lemma subdirectories_looks (root : String) (elements : List String) :
    (subdirectories root elements).run.Only Looks := by
  induction elements generalizing root with
  | nil => trivial
  | cons element elements ih =>
      unfold subdirectories
      split
      · trivial
      · refine only_bind ?_ fun _ =>
          only_bind (only_eff (by trivial)) fun _ => ih _
        refine only_bind (only_lift (only_eff (by trivial))) ?_
        rintro (_ | _ | _ | _ | _) <;> first | trivial | exact only_eff (by trivial)

lemma secureSubdirectory_looks (root : String) (elements : List String) :
    (secureSubdirectory root elements).run.Only Looks :=
  only_bind (only_eff (by trivial)) fun _ =>
    only_bind (only_eff (by trivial)) fun _ => subdirectories_looks _ _

lemma prepareStack_quiet (stackId stackPath composePath projectName : String) :
    (prepareStack stackId stackPath composePath projectName).run.Only quiet := by
  unfold prepareStack
  split
  · trivial
  · exact only_bind (only_eff (by trivial)) fun _ =>
      only_bind (docker_quiet rfl _) fun _ => trivial

lemma prepareStack_ends (stackId stackPath composePath projectName : String) :
    Fallible.Ends IsCompose (prepareStack stackId stackPath composePath projectName) := by
  unfold prepareStack
  split
  · exact Fallible.ends_throw _
  · refine .bind (Fallible.ends_true _) fun _ _ => ?_
    exact .bind (Fallible.ends_true _) fun _ _ => Fallible.ends_pure ⟨_, rfl⟩

lemma resolveVolumes_quiet (projectName : String) (names : List String) :
    (resolveVolumes e projectName names).run.Only quiet := by
  have hone : ∀ logical, (resolveVolume e projectName logical).run.Only quiet := by
    intro logical
    unfold resolveVolume
    split
    · trivial
    · refine only_bind (only_lift (only_eff rfl)) fun listed => ?_
      split
      · split
        · trivial
        · refine only_bind (only_lift (only_eff rfl)) fun inspected => ?_
          split <;> trivial
      · trivial
  induction names with
  | nil => trivial
  | cons name names ih =>
      exact only_bind (hone name) fun _ => only_bind ih fun _ => trivial

lemma resolveOwnedVolumes_quiet {base : List String} (hbase : IsCompose base)
    (projectName : String) : (resolveOwnedVolumes e base projectName).run.Only quiet := by
  refine only_bind (docker_quiet (compose_quiet hbase _) _) fun output => ?_
  dsimp only
  split
  · trivial
  · exact resolveVolumes_quiet projectName _

lemma backupRoots_quiet (target : String) : (backupRoots e target).run.Only quiet := by
  unfold backupRoots
  split
  · refine only_bind (only_orElse ((secureSubdirectory_looks _ _).mono quiet_of_looks) _) fun _ => ?_
    refine only_bind (only_lift (only_eff (by trivial))) fun r => ?_
    split <;> trivial
  · refine only_bind (only_lift (only_eff (by trivial))) fun r => ?_
    split
    · refine only_bind (only_lift (only_eff (by trivial))) fun r => ?_
      split <;> trivial
    · trivial

lemma backupRoots_ends (target : String) :
    Fallible.Ends (fun roots => roots.2 =
      if target = "local" then e.hostLocalBackupRoot else e.hostNASBackupRoot)
      (backupRoots e target) := by
  unfold backupRoots
  split
  · refine .bind (Fallible.ends_true _) fun _ _ => ?_
    refine .bind (Fallible.ends_true _) fun r _ => ?_
    split
    · exact Fallible.ends_pure rfl
    · exact Fallible.ends_throw _
  · refine .bind (Fallible.ends_true _) fun r _ => ?_
    split
    · refine .bind (Fallible.ends_true _) fun r _ => ?_
      split
      · exact Fallible.ends_pure rfl
      · exact Fallible.ends_throw _
    · exact Fallible.ends_throw _

lemma checksumMatches_looks (path : String) (size : Int) (sha256 : String) :
    (checksumMatches path size sha256).Only Looks :=
  .bind (only_eff (by trivial)) fun r => by cases r <;> trivial

lemma checkVolumes_looks (directory : String) (seen : List String)
    (volumes : List ManifestVolume) : (checkVolumes directory seen volumes).run.Only Looks := by
  induction volumes generalizing seen with
  | nil => trivial
  | cons v vs ih =>
      unfold checkVolumes
      split
      · trivial
      split
      · trivial
      refine only_bind (only_lift (checksumMatches_looks _ _ _)) fun matching => ?_
      split
      · exact only_bind (only_orElse (only_eff (by trivial)) _) fun _ => ih _
      · trivial

lemma checkDatabases_looks (directory : String) (databases : List ManifestDatabase) :
    (checkDatabases directory databases).run.Only Looks := by
  induction databases with
  | nil => trivial
  | cons d ds ih =>
      refine only_bind (only_lift (checksumMatches_looks _ _ _)) fun matching => ?_
      split
      · exact ih
      · trivial

lemma validateManifest_looks (directory : String) (p : StackRestorePayload) (c : Contents) :
    (validateManifest directory p c).run.Only Looks := by
  cases c with
  | manifest m _ =>
      refine only_bind (only_lift (only_eff (by trivial))) fun now => ?_
      split
      · exact only_bind (checkVolumes_looks _ _ _) fun _ =>
          only_bind (checkDatabases_looks _ _) fun _ => trivial
      · trivial
  | _ => trivial

lemma validateManifest_ends (directory : String) (p : StackRestorePayload) (c : Contents) :
    Fallible.Ends (fun m => ∃ n, c = .manifest m n) (validateManifest directory p c) := by
  cases c with
  | manifest m n =>
      refine .bind (Fallible.ends_true _) fun now _ => ?_
      split
      · refine .bind (Fallible.ends_true _) fun _ _ => ?_
        exact .bind (Fallible.ends_true _) fun _ _ => Fallible.ends_pure ⟨n, rfl⟩
      · exact Fallible.ends_throw _
  | _ => exact Fallible.ends_throw _

/-! ### Reading the manifest -/

/-- Reading a file makes a manifest in it the one the restore has read. -/
lemma readFile_triple (p : StackRestorePayload) (b : Option Node) (path : String) :
    Tri (contract e links run) () (Prepared e links p b fun _ => True)
      (attempt (eff (.readFile path)))
      fun c => Prepared e links p b fun m => ∀ m' n, c = .manifest m' n → m = some m' := by
  refine triple_perform (kept_prepared p b _).stable ?_ ?_ ?_
  · rintro (_ | c)
    · exact stable_true
    · exact (kept_prepared p b fun m => ∀ m' n, c = .manifest m' n → m = some m').stable
  · rintro s - - args ⟨⟩
  · rintro s r t hi ⟨u, hu, hp, hb, -, hst, hf⟩ ⟨⟨hh, -⟩, hut⟩
    rw [hu] at hut
    have hfields : (u.observe (.readFile path) r).restore = u.restore ∧
        (u.observe (.readFile path) r).before = u.before ∧
        (u.observe (.readFile path) r).started = u.started := by
      cases r with
      | error _ => exact ⟨rfl, rfl, rfl⟩
      | ok c => cases c <;> exact ⟨rfl, rfl, rfl⟩
    refine ⟨fun v hv => .inl ?_, fun j hj => absurd rfl hj, ?_⟩
    · obtain rfl : u.observe (.readFile path) r = v := by simpa [hut] using hv
      rw [hfields.2.2]
      exact hst
    · cases r with
      | error _ => trivial
      | ok c =>
          refine ⟨_, hut, hfields.1.trans hp, hfields.2.1.trans hb, ?_,
            hfields.2.2 ▸ hst, by rw [hh]; exact hf⟩
          rintro m n rfl
          rfl

lemma readRegularFile_triple (p : StackRestorePayload) (b : Option Node) (path : String) :
    Tri (contract e links run) () (Prepared e links p b fun _ => True) (readRegularFile path)
      fun c => Prepared e links p b fun m => ∀ m' n, c = some (.manifest m' n) → m = some m' := by
  have hkept : ∀ M, Kept (D := D) (Prepared e links p b M) := kept_prepared p b
  refine tri_bind contract_lawful (tri_quiet (only_eff (by trivial)) (hkept _)) ?_
  rintro (_ | _ | _ | _)
  · refine tri_pure (hkept _).stable ?_
    rintro s - ⟨u, hu, hp, hb, -, hrest⟩
    exact ⟨u, hu, hp, hb, by simp, hrest⟩
  · refine tri_bind contract_lawful (readFile_triple p b path) fun c => ?_
    refine tri_pure (hkept _).stable ?_
    rintro s - ⟨u, hu, hp, hb, hm, hrest⟩
    exact ⟨u, hu, hp, hb, fun m' n hc => hm m' n (by simpa using hc), hrest⟩
  · exact tri_throw (hkept _).stable
  · exact tri_throw (hkept _).stable

lemma loadAndValidateManifest_triple (p : StackRestorePayload) (b : Option Node)
    (directory : String) :
    Tri (contract e links run) () (Prepared e links p b fun _ => True)
      (loadAndValidateManifest directory p)
      fun m => Prepared e links p b fun m' => m' = some m := by
  have hkept : ∀ M, Kept (D := D) (Prepared e links p b M) := kept_prepared p b
  refine tri_catch contract_lawful (fun _ => (hkept _).stable)
    (readRegularFile_triple p b (join directory "manifest.json")) ?_
    fun _ => tri_throw stable_true
  rintro (_ | c)
  · exact tri_throw (hkept _).stable
  · dsimp only
    split
    · exact tri_throw (hkept _).stable
    · refine tri_conseq (tri_ends (tri_quiet ((validateManifest_looks _ _ _).mono quiet_of_looks)
        (hkept _))
        (validateManifest_ends _ _ _)) (fun _ _ h => h) ?_
      rintro m s - ⟨⟨n, rfl⟩, u, hu, hp, hb, hm, hrest⟩
      exact ⟨u, hu, hp, hb, hm m n rfl, hrest⟩

/-- What the checks leave behind when they pass. -/
lemma checkRestore_triple (p : StackRestorePayload) (b : Option Node) :
    Tri (contract e links run) () (Prepared e links p b fun _ => True) (checkRestore e p)
      fun c s => (IsCompose c.base ∧ c.hostDirectory = hostDirectory e p) ∧
        Prepared e links p b (fun m => m = some c.manifest) s := by
  have hC : (contract e links run).Lawful := contract_lawful
  have hkept : ∀ M, Kept (D := D) (Prepared e links p b M) := kept_prepared p b
  refine tri_bind hC (tri_ends (tri_quiet (prepareStack_quiet _ _ _ _) (hkept _))
    (prepareStack_ends _ _ _ _)) fun base => triple_pre fun hbase => ?_
  refine tri_bind hC (tri_ends (tri_quiet (backupRoots_quiet _) (hkept _))
    (backupRoots_ends _)) fun roots => triple_pre fun hroots => ?_
  refine tri_bind hC (tri_quiet (only_orElse ((secureSubdirectory_looks _ _).mono quiet_of_looks) _) (hkept _))
    fun directory => ?_
  refine tri_bind hC (loadAndValidateManifest_triple p b directory) fun m => ?_
  refine tri_bind hC (tri_quiet (resolveOwnedVolumes_quiet hbase _) (hkept _)) fun volumes => ?_
  refine tri_bind hC (tri_quiet trivial (hkept _)) fun _ => ?_
  refine tri_bind hC (tri_quiet (only_bind (docker_quiet (compose_quiet hbase _) _)
    fun _ => trivial) (hkept _)) fun running => ?_
  refine tri_pure (hkept _).stable fun s _ h => ⟨⟨hbase, ?_⟩, h⟩
  simp only [hostDirectory, hroots]

/-! ### The journal -/

lemma foldl_join_ends (root : String) (elements : List String) :
    Fallible.Ends (fun d => d = elements.foldl join root) (subdirectories root elements) := by
  induction elements generalizing root with
  | nil => exact Fallible.ends_pure rfl
  | cons element elements ih =>
      unfold subdirectories
      split
      · exact Fallible.ends_throw _
      · exact .bind (Fallible.ends_true _) fun _ _ => .bind (Fallible.ends_true _) fun _ _ => ih _

/-- A subdirectory is where the links of its root lead. -/
lemma secureSubdirectory_triple (hP : Kept P) (root : String) (elements : List String) :
    Tri (contract e links run) () P (secureSubdirectory root elements)
      fun d s => d = elements.foldl join (links root) ∧ P s := by
  have hC : (contract e links run).Lawful := contract_lawful
  refine tri_bind hC (tri_quiet (only_eff (by trivial)) hP) fun _ => ?_
  refine tri_bind hC (K := fun r s => r = links root ∧ P s) ?_ fun r =>
    triple_pre fun hr => ?_
  · refine triple_perform hP.stable ?_ (fun s _ _ => allowed_quiet (by trivial)) ?_
    · rintro (_ | r)
      · exact stable_true
      · exact stable_underway fun s h => hP.underway s h.2
    · intro s r t hi hs hst
      refine ⟨inv_quiet (by trivial) hi hst, fun j hj => absurd rfl hj, ?_⟩
      cases r with
      | error _ => trivial
      | ok r => exact ⟨hst.1.2 r rfl, step_quiet (by trivial) hP hs hst⟩
  · subst hr
    exact tri_ends (tri_quiet ((subdirectories_looks _ _).mono quiet_of_looks) hP) (foldl_join_ends _ _)

def noProgress : Progress := ⟨fun _ => True, fun _ _ _ h => h⟩

lemma write_triple (p : StackRestorePayload) (b : Option Node)
    (M : Option BackupManifest → Prop) (directory : String) (c : Contents) :
    Tri (contract e links run) () (Prepared e links p b M)
      (attempt (eff (.writeTemporary directory c)))
      fun _ s => s.host.temporary = some c ∧ Prepared e links p b M s := by
  have hkept : Kept (D := D) (Prepared e links p b M) := kept_prepared p b M
  refine triple_perform hkept.stable ?_ (fun _ _ _ => allowed_quiet (by trivial)) ?_
  · rintro (_ | _)
    · exact stable_true
    · exact stable_underway fun s h => hkept.underway s h.2
  · intro s r t hi hs hst
    refine ⟨inv_quiet (by trivial) hi hst, fun j hj => absurd rfl hj, ?_⟩
    cases r with
    | error _ => trivial
    | ok _ =>
        obtain ⟨-, hh⟩ | ⟨⟨e, ⟨⟩⟩, -⟩ := hst.1
        exact ⟨by rw [hh], step_quiet (by trivial) hkept hs hst⟩

/-- Renaming the temporary file makes it the journal. -/
lemma rename_triple (p : StackRestorePayload) (m : BackupManifest) (j : RestoreJournal)
    (hj : j.restoreId = p.restoreId ∧ j.backupId = p.backupId ∧ j.stackId = p.stackId) :
    Tri (contract e links run) ()
      (fun s => s.host.temporary = some (.journal j) ∧
        Prepared e links p none (fun m' => m' = some m) s)
      (attempt (eff (.rename (journalPath e links p))))
      fun _ => Claimed e links p m noProgress := by
  have hkept : Kept (D := D) (Prepared e links p none fun m' => m' = some m) :=
    kept_prepared p none _
  refine triple_perform (stable_underway fun s h => hkept.underway s h.2) ?_ ?_ ?_
  · rintro (_ | _)
    · exact stable_true
    · exact (kept_claimed p m _).stable
  · rintro s - - args ⟨⟩
  · rintro s r t hi ⟨htmp, u, hu, hp, hb, hm, hst, -⟩ ⟨hh, hut⟩
    rw [hu] at hut
    have hobs : u.observe (.rename (journalPath e links p)) r = u := rfl
    simp only [Option.map_some, hobs] at hut
    refine ⟨fun v hv => .inl ?_, fun j hj => absurd rfl hj, ?_⟩
    · obtain rfl : u = v := by simpa [hut] using hv
      exact hst
    · cases r with
      | error _ => trivial
      | ok _ =>
          obtain ⟨-, hh⟩ | ⟨⟨e, ⟨⟩⟩, -⟩ := hh
          refine ⟨u, hut, hp, hb, hm, trivial, j, ?_, hj⟩
          simp [hh, HostState.renamed, htmp]

/-- A journal is written whole or not at all, and then it is this restore's. -/
lemma writeJournal_triple (p : StackRestorePayload) (m : BackupManifest) (j : RestoreJournal)
    (hj : j.restoreId = p.restoreId ∧ j.backupId = p.backupId ∧ j.stackId = p.stackId)
    (directory : String) (hpath : join directory (journalName p) = journalPath e links p) :
    Tri (contract e links run) () (Prepared e links p none fun m' => m' = some m)
      (writeFileAtomically directory (journalName p) (.journal j))
      fun _ => Claimed e links p m noProgress := by
  have hC : (contract e links run).Lawful := contract_lawful
  have hclaimed : Kept (D := D) (Claimed e links p m noProgress) := kept_claimed p m _
  unfold writeFileAtomically
  rw [hpath]
  refine triple_bind hC (Q := Outcome (fun _ => Claimed e links p m noProgress) fun _ _ => True)
    ?_ ?_
  · refine tri_bind hC (write_triple p none _ directory _) fun _ => ?_
    refine tri_bind hC (rename_triple p m j hj) fun _ => ?_
    refine tri_bind hC (tri_quiet (only_eff (by trivial)) hclaimed) fun _ => ?_
    exact tri_quiet (only_eff (by trivial)) hclaimed
  · rintro (err | _)
    · exact triple_bind hC (triple_idle (only_eff (by trivial))) fun _ =>
        triple_pure stable_true fun _ _ _ => trivial
    · exact triple_bind hC (triple_quiet (only_eff (by trivial)) hclaimed) fun _ =>
        triple_pure hclaimed.stable fun _ _ h => h

lemma lstat_triple (p : StackRestorePayload) (b : Option Node)
    (M : Option BackupManifest → Prop) :
    Tri (contract e links run) () (Prepared e links p b M)
      (attempt (eff (.lstat (journalPath e links p))))
      fun k s => (k = none → b = none) ∧ Prepared e links p b M s := by
  have hkept : Kept (D := D) (Prepared e links p b M) := kept_prepared p b M
  refine triple_perform hkept.stable ?_ (fun _ _ _ => allowed_quiet (by trivial)) ?_
  · rintro (_ | _)
    · exact stable_true
    · exact stable_underway fun s h => hkept.underway s h.2
  · intro s r t hi hs hst
    refine ⟨inv_quiet (by trivial) hi hst, fun j hj => absurd rfl hj, ?_⟩
    cases r with
    | error _ => trivial
    | ok k =>
        refine ⟨?_, step_quiet (by trivial) hkept hs hst⟩
        rintro rfl
        obtain ⟨u, -, -, -, -, -, hf⟩ := hs
        have hd := hst.1.2 none rfl
        rw [hf] at hd
        rcases b with _ | _ | _ <;> simp [Describes] at hd ⊢

/-- Nothing is read at the journal's path only when nothing was there. -/
lemma readJournal_triple (p : StackRestorePayload) (b : Option Node)
    (M : Option BackupManifest → Prop) :
    Tri (contract e links run) () (Prepared e links p b M)
      (readRegularFile (journalPath e links p))
      fun c s => c = none → Prepared e links p none M s := by
  have hC : (contract e links run).Lawful := contract_lawful
  have hkept : Kept (D := D) (Prepared e links p b M) := kept_prepared p b M
  refine tri_bind hC (lstat_triple p b M) fun k => ?_
  have hstable : Stable (contract e links run) ()
      fun s => (k = none → b = none) ∧ Prepared e links p b M s :=
    stable_underway fun s h => hkept.underway s h.2
  rcases k with _ | _ | _ | _
  · exact tri_pure hstable fun s _ ⟨hb, h⟩ _ => hb rfl ▸ h
  · refine tri_bind hC (K := fun _ _ => True) (tri_conseq (readFile_triple p b _) ?_
      fun _ _ _ _ => trivial) fun _ => tri_pure stable_true fun _ _ _ => by simp
    rintro s - ⟨-, u, hu, hp, hb, -, hrest⟩
    exact ⟨u, hu, hp, hb, trivial, hrest⟩
  · exact tri_throw hstable
  · exact tri_throw hstable

/-- The journal is claimed only where there was none. -/
lemma claimJournal_triple (p : StackRestorePayload) (b : Option Node) (m : BackupManifest) :
    Tri (contract e links run) () (Prepared e links p b fun m' => m' = some m)
      (claimJournal e p)
      fun path s => path = journalPath e links p ∧ Claimed e links p m noProgress s := by
  have hC : (contract e links run).Lawful := contract_lawful
  have hkept : ∀ b, Kept (D := D) (Prepared e links p b fun m' => m' = some m) :=
    fun b => kept_prepared p b _
  have hclaimed : Kept (D := D) (Claimed e links p m noProgress) := kept_claimed p m _
  refine tri_bind hC (K := fun d s => d = ["restore-journals"].foldl join (links e.stateDir) ∧
    Prepared e links p b (fun m' => m' = some m) s) ?_ fun directory => triple_pre fun hd => ?_
  · exact tri_catch hC (fun _ => stable_underway fun s h => (hkept b).underway s h.2)
      (secureSubdirectory_triple (hkept b) _ _)
      (fun _ => tri_pure (stable_underway fun s h => (hkept b).underway s h.2) fun _ _ h => h)
      fun _ => tri_throw stable_true
  have hpath : join directory (journalName p) = journalPath e links p := by
    rw [hd]
    rfl
  rw [hpath]
  refine tri_catch hC ?_ (readJournal_triple p b _) ?_ fun _ => tri_throw stable_true
  · rintro (_ | _)
    · exact fun s t hs ht hr h _ => (hkept none).stable s t hs ht hr (h rfl)
    · exact fun _ _ _ _ _ _ h => absurd h (by simp)
  rintro (_ | c)
  · refine triple_conseq (P := Prepared e links p none fun m' => m' = some m) ?_
      (fun s _ h => h rfl) fun _ _ _ h => h
    refine tri_bind hC (tri_quiet (only_lift (only_eff (by trivial))) (hkept none)) fun now => ?_
    refine tri_bind hC (K := fun _ => Claimed e links p m noProgress)
      (tri_orElse (fun _ => hclaimed) ?_) fun _ => ?_
    · exact writeJournal_triple p m _ ⟨rfl, rfl, rfl⟩ directory hpath
    · exact tri_pure hclaimed.stable fun _ _ h => ⟨rfl, h⟩
  · exact tri_throw fun _ _ _ _ _ _ h => absurd h (by simp)

/-! ### The destructive part -/

/-- While the journal is claimed any command may run, and what succeeds is progress. -/
lemma docker_claimed (p : StackRestorePayload) (m : BackupManifest) (G : Progress)
    (args : List String) :
    Triple (contract e links run) () (Claimed e links p m G) (eff (.docker args))
      fun r s => Claimed e links p m G s ∧
        ∀ u, s.underway = some u → r.err.isNone = true → args ∈ u.finished := by
  have hkept : Kept (D := D) (Claimed e links p m G) := kept_claimed p m G
  refine triple_perform hkept.stable
    (fun _ => stable_underway fun s h => hkept.underway s h.1) ?_ ?_
  · rintro s - ⟨u, hu, hp, hb, -, -, hj⟩ args' - -
    exact ⟨u, hu, hb, hp ▸ hj⟩
  · rintro s r t hi ⟨u, hu, hp, hb, hm, hG, j, hj, hid⟩ ⟨⟨d, -, hh⟩, hut⟩
    rw [hu] at hut
    have hj' : JournalOnDisk e links t.host p := ⟨j, by rw [hh]; exact hj, hid⟩
    refine ⟨fun v hv => .inr (.inl ?_), fun j hj => absurd rfl hj,
      ⟨_, hut, hp, hb, hm, G.mono _ _ ?_ hG, hj'⟩, fun v hv hr => ?_⟩
    · obtain rfl : u.observe (.docker args) r = v := by simpa [hut] using hv
      simpa [Underway.observe, hp] using hj'
    · intro a ha
      simp only [Underway.observe]
      split
      · exact List.mem_cons_of_mem _ ha
      · exact ha
    · obtain rfl : u.observe (.docker args) r = v := by simpa [hut] using hv
      simp [Underway.observe, hr]

/-- The effects a claimed restore is made of. -/
def busy : HostOp → Prop
  | .docker _ => True
  | o => quiet o

lemma triple_busy {p : HostProg α} (r : StackRestorePayload) (m : BackupManifest)
    (G : Progress) (hp : p.Only busy) :
    Triple (contract e links run) () (Claimed e links r m G) p
      fun _ => Claimed e links r m G := by
  have hkept : Kept (D := D) (Claimed e links r m G) := kept_claimed r m G
  induction p with
  | pure a => exact triple_pure hkept.stable fun _ _ h => h
  | op o k ih =>
      refine triple_bind (p := eff o) contract_lawful (Q := fun _ => Claimed e links r m G) ?_
        fun x => ih x (hp.2 x)
      cases o with
      | docker args =>
          exact triple_conseq (docker_claimed r m G args) (fun _ _ h => h) fun _ _ _ h => h.1
      | _ => exact triple_quiet (only_eff hp.1) hkept

lemma tri_busy {p : HostFallible α} (r : StackRestorePayload) (m : BackupManifest)
    (G : Progress) (hp : p.run.Only busy) :
    Tri (contract e links run) () (Claimed e links r m G) p
      fun _ => Claimed e links r m G := by
  refine triple_conseq (triple_busy r m G hp) (fun _ _ h => h) ?_
  rintro (_ | _) s - h
  · trivial
  · exact h

def Progress.add (G : Progress) (args : List String) : Progress where
  done := fun fin => G.done fin ∧ args ∈ fin
  mono := fun xs ys h ⟨hG, ha⟩ => ⟨G.mono xs ys h hG, h _ ha⟩

def Progress.volumes (G : Progress) (e : Executor) (directory : String)
    (vs : List ManifestVolume) : Progress where
  done := fun fin => G.done fin ∧
    ∀ v ∈ vs, helperArgs e "restore" v.dockerName directory v.archiveName ∈ fin
  mono := fun xs ys h ⟨hG, hv⟩ => ⟨G.mono xs ys h hG, fun v hvs => h _ (hv v hvs)⟩

def Progress.databases (G : Progress) (ds : List ManifestDatabase) : Progress where
  done := fun fin => G.done fin ∧
    ∀ d ∈ ds, ∃ container, pgRestoreArgs container ("/tmp/" ++ d.archiveName) d ∈ fin
  mono := fun xs ys h ⟨hG, hd⟩ => ⟨G.mono xs ys h hG, fun d hds =>
    (hd d hds).imp fun _ hc => h _ hc⟩

lemma claimed_mono {r : StackRestorePayload} {m : BackupManifest} {G G' : Progress}
    (h : ∀ fin, G.done fin → G'.done fin) {s : RestoreState D}
    (hs : Claimed e links r m G s) : Claimed e links r m G' s := by
  obtain ⟨u, hu, hp, hb, hm, hG, hj⟩ := hs
  exact ⟨u, hu, hp, hb, hm, h _ hG, hj⟩

lemma claimed_add {r : StackRestorePayload} {m : BackupManifest} {G : Progress}
    {s : RestoreState D} {args : List String} (hs : Claimed e links r m G s)
    (ha : ∀ u, s.underway = some u → args ∈ u.finished) :
    Claimed e links r m (G.add args) s := by
  obtain ⟨u, hu, hp, hb, hm, hG, hj⟩ := hs
  exact ⟨u, hu, hp, hb, hm, ⟨hG, ha u hu⟩, hj⟩

lemma docker_triple (r : StackRestorePayload) (m : BackupManifest) (G : Progress)
    (args : List String) (message : String) :
    Tri (contract e links run) () (Claimed e links r m G) (docker args message)
      fun _ => Claimed e links r m (G.add args) := by
  have hkept : ∀ G, Kept (D := D) (Claimed e links r m G) := kept_claimed r m
  refine tri_bind contract_lawful (tri_lift contract_lawful
    (fun _ => stable_underway fun s h => (hkept G).underway s h.1)
    (docker_claimed r m G args)) fun x => ?_
  have hstable : Stable (contract e links run) () fun s => Claimed e links r m G s ∧
      ∀ u, s.underway = some u → x.err.isNone = true → args ∈ u.finished :=
    stable_underway fun s h => (hkept G).underway s h.1
  split
  · next hx => exact tri_pure hstable fun s _ h => claimed_add h.1 fun u hu => h.2 u hu hx
  · exact tri_throw hstable

lemma restoreVolumes_triple (r : StackRestorePayload) (m : BackupManifest) (G : Progress)
    (directory : String) (vs : List ManifestVolume) :
    Tri (contract e links run) () (Claimed e links r m G) (restoreVolumes e directory vs)
      fun _ => Claimed e links r m (G.volumes e directory vs) := by
  induction vs generalizing G with
  | nil =>
      refine tri_pure (kept_claimed r m G).stable fun s _ h => claimed_mono ?_ h
      exact fun fin hG => ⟨hG, by simp⟩
  | cons v vs ih =>
      refine tri_bind contract_lawful (docker_triple r m G _ _) fun _ => ?_
      refine tri_conseq (ih _) (fun _ _ h => h) fun _ _ _ h => claimed_mono ?_ h
      rintro fin ⟨⟨hG, hv⟩, hvs⟩
      refine ⟨hG, fun v' hv' => ?_⟩
      rcases List.mem_cons.1 hv' with rfl | hv'
      · exact hv
      · exact hvs v' hv'

lemma docker_busy (args : List String) (message : String) :
    (docker args message).run.Only busy :=
  only_bind (only_lift (only_eff (by trivial))) fun r => by split <;> trivial

lemma awaitReady_busy (container : String) (d : ManifestDatabase) (attempts : Nat) :
    (awaitReady container d attempts).run.Only busy := by
  induction attempts with
  | zero => trivial
  | succ n ih =>
      refine only_bind (only_lift (only_eff (by trivial))) fun r => ?_
      split
      · trivial
      · exact only_bind (only_eff (by trivial)) fun _ => ih

lemma composeServiceContainer_busy (projectName service : String) :
    (composeServiceContainer projectName service).run.Only busy := by
  refine only_bind (only_lift (only_eff (by trivial))) fun r => ?_
  split
  · split <;> trivial
  · trivial

lemma restorePostgres_triple (r : StackRestorePayload) (m : BackupManifest) (G : Progress)
    (base : List String) (directory projectName : String) (d : ManifestDatabase) :
    Tri (contract e links run) () (Claimed e links r m G)
      (restorePostgres base directory projectName d)
      fun _ => Claimed e links r m (G.databases [d]) := by
  have hC : (contract e links run).Lawful := contract_lawful
  have hkept : ∀ G, Kept (D := D) (Claimed e links r m G) := kept_claimed r m
  refine tri_bind hC (tri_busy r m G (docker_busy _ _)) fun _ => ?_
  refine tri_bind hC (tri_busy r m G (composeServiceContainer_busy _ _)) fun container => ?_
  refine tri_bind hC (tri_busy r m G (awaitReady_busy _ _ _)) fun _ => ?_
  refine tri_bind hC (tri_busy r m G (docker_busy _ _)) fun _ => ?_
  refine tri_bind hC (tri_lift hC
    (fun _ => stable_underway fun s h => (hkept G).underway s h.1)
    (docker_claimed r m G _)) fun restored => ?_
  cases hr : restored.err with
  | none =>
      let args := pgRestoreArgs container ("/tmp/" ++ d.archiveName) d
      refine triple_conseq (P := Claimed e links r m (G.add args)) ?_
        (fun s _ h => claimed_add h.1 fun u hu => h.2 u hu rfl) fun _ _ _ h => h
      refine tri_bind hC (tri_busy r m _ (only_lift (only_eff (by trivial)))) fun _ => ?_
      refine tri_pure (hkept _).stable fun s _ h => claimed_mono ?_ h
      rintro fin ⟨hG, hd⟩
      exact ⟨hG, by simpa using ⟨container, hd⟩⟩
  | some err =>
      refine triple_conseq (P := Claimed e links r m G) ?_ (fun s _ h => h.1) fun _ _ _ h => h
      refine tri_bind hC (tri_busy r m _ (only_lift (only_eff (by trivial)))) fun _ => ?_
      exact tri_throw (hkept _).stable

lemma restoreDatabases_triple (r : StackRestorePayload) (m : BackupManifest) (G : Progress)
    (base : List String) (directory projectName : String) (ds : List ManifestDatabase) :
    Tri (contract e links run) () (Claimed e links r m G)
      (restoreDatabases base directory projectName ds)
      fun _ => Claimed e links r m (G.databases ds) := by
  induction ds generalizing G with
  | nil =>
      refine tri_pure (kept_claimed r m G).stable fun s _ h => claimed_mono ?_ h
      exact fun fin hG => ⟨hG, by simp⟩
  | cons d ds ih =>
      refine tri_bind contract_lawful (tri_orElse (fun _ => kept_claimed r m _)
        (restorePostgres_triple r m G base directory projectName d)) fun _ => ?_
      refine tri_conseq (ih _) (fun _ _ h => h) fun _ _ _ h => claimed_mono ?_ h
      rintro fin ⟨⟨hG, hd⟩, hds⟩
      refine ⟨hG, fun d' hd' => ?_⟩
      rcases List.mem_cons.1 hd' with rfl | hd'
      · exact hd d' (by simp)
      · exact hds d' hd'

/-- The journal goes last: by then everything is restored. -/
lemma remove_triple (p : StackRestorePayload) (m : BackupManifest) (path : String) :
    Triple (contract e links run) ()
      (Claimed e links p m
        ((noProgress.volumes e (hostDirectory e p) m.volumes).databases m.databases))
      (eff (.remove path)) fun _ _ => True := by
  refine triple_perform (kept_claimed p m _).stable (fun _ => stable_true) ?_ ?_
  · rintro s - - args ⟨⟩
  · rintro s r t hi ⟨u, hu, hp, -, hm, ⟨⟨-, hvol⟩, hdb⟩, -⟩ ⟨-, hut⟩
    have hobs : u.observe (.remove path) r = u := rfl
    rw [hu, Option.map_some, hobs] at hut
    refine ⟨fun v hv => .inr (.inr ?_), fun j hj => absurd rfl hj, trivial⟩
    obtain rfl : u = v := by simpa [hut] using hv
    exact ⟨m, hm, by rw [hp]; exact hvol, hdb⟩

lemma replaceData_triple (p : StackRestorePayload) (c : Checked) (path : String)
    (hdir : c.hostDirectory = hostDirectory e p) :
    Tri (contract e links run) () (Claimed e links p c.manifest noProgress)
      (replaceData e p c path) fun _ _ => True := by
  have hC : (contract e links run).Lawful := contract_lawful
  unfold replaceData
  rw [hdir]
  refine tri_bind hC (restoreVolumes_triple p c.manifest noProgress _ _) fun _ => ?_
  refine tri_bind hC (restoreDatabases_triple p c.manifest _ _ _ _ _) fun _ => ?_
  refine tri_bind hC (tri_lift hC (fun _ => stable_true) (remove_triple p c.manifest path)) ?_
  rintro (_ | _ | _)
  · exact tri_throw stable_true
  · exact tri_throw stable_true
  · exact tri_pure stable_true fun _ _ h => h

lemma restoreStack_triple (p : StackRestorePayload) (b : Option Node) :
    Tri (contract e links run) () (Prepared e links p b fun _ => True) (restoreStack e p)
      fun _ _ => True := by
  have hC : (contract e links run).Lawful := contract_lawful
  have hclaimed : ∀ m, Kept (D := D) (Claimed e links p m noProgress) :=
    fun m => kept_claimed p m _
  refine tri_bind hC (checkRestore_triple p b) fun c => triple_pre fun ⟨hbase, hdir⟩ => ?_
  refine tri_bind hC (claimJournal_triple p b c.manifest) fun path => triple_pre fun _ => ?_
  refine tri_bind hC (tri_quiet (docker_quiet (compose_quiet hbase _) _) (hclaimed _))
    fun _ => ?_
  have hrestart : (restartServices c.base c.running).Only quiet := by
    unfold restartServices
    split
    · trivial
    · refine .bind (only_eff ?_) fun _ => trivial
      rw [List.append_assoc]
      exact compose_quiet hbase _
  have hrest : ∀ replaced, Tri (contract e links run) () (fun _ => True)
      (do lift (restartServices c.base c.running); attempt (pure replaced); pure c.manifest)
      fun _ _ => True := by
    intro replaced
    refine triple_conseq (triple_idle ?_) (fun _ _ h => h) ?_
    · exact only_bind (only_lift hrestart) fun _ => only_bind trivial fun _ => trivial
    · rintro (_ | _) _ - - <;> trivial
  exact tri_catch hC (fun _ => stable_true) (replaceData_triple p c path hdir)
    (fun _ => hrest _) fun _ => hrest _

lemma payload_of_decode {payload : Payload} {restore : StackRestorePayload}
    (h : decodeStackRestorePayload payload = .ok restore) : payload = .stackRestore restore := by
  cases payload with
  | stackRestore p =>
      simp only [decodeStackRestorePayload] at h
      split at h
      · cases h
      · simp only [bind, Except.bind] at h
        split at h
        · cases h
        · split at h
          · cases h
          · cases h
            rfl
  | _ => cases h

lemma executeStackRestore_triple (digest : BackupManifest → String) (result : CommandResult)
    (payload : Payload) :
    Triple (contract e links run) ()
      (fun s => s.underway = underwayOf e links s.host payload)
      (executeStackRestore e digest result payload) fun _ _ => True := by
  have hC : (contract e links run).Lawful := contract_lawful
  have hfailure : ∀ err, (failure e result err).Only quiet := fun err =>
    .bind (only_eff (by trivial)) fun _ => trivial
  unfold executeStackRestore
  split
  · exact triple_conseq (triple_idle (hfailure _)) (fun _ _ _ => trivial) fun _ _ _ h => h
  · next restore hdecode =>
    obtain rfl := payload_of_decode hdecode
    refine triple_conseq (P := fun s => ∃ b, Prepared e links restore b (fun _ => True) s)
      (triple_exists fun b => ?_) ?_ fun _ _ _ h => h
    · refine triple_bind hC (restoreStack_triple restore b) ?_
      rintro (err | m)
      · exact triple_idle (hfailure err)
      · exact triple_idle (.bind (only_eff (by trivial)) fun _ => trivial)
    · intro s _ hs
      exact ⟨_, _, hs, rfl, rfl, trivial, by simp, rfl⟩

lemma keeps_restoreSystem (digest : BackupManifest → String) :
    Keeps (restoreSystem e links digest run) (contract e links run) fun _ _ _ => True where
  lawful := contract_lawful
  exec := fun _ _ _ _ _ h => h
  start := by
    rintro _ result s p t ⟨hh, ⟨ht, rfl⟩ | ⟨command, startedAt, ht, rfl⟩⟩ hi -
    · exact ⟨fun u hu => by simp [ht] at hu, fun j hj => absurd rfl hj,
        fun _ _ _ => trivial⟩
    · have hinv : (contract e links run).inv t := by
        intro u hu
        rw [ht] at hu
        cases hp : command.payload with
        | stackRestore restore =>
            rw [hp] at hu
            obtain rfl := Option.some.inj hu
            exact .inl (by simp)
        | _ => simp [hp, underwayOf] at hu
      refine ⟨hinv, fun j hj => absurd rfl hj,
        executeStackRestore_triple digest _ command.payload t hinv ?_⟩
      show t.underway = underwayOf e links t.host command.payload
      rw [ht, hh]
  environment := by
    rintro _ s t ⟨hs, ht⟩ -
    exact ⟨fun u hu => by simp [ht] at hu, fun _ => .inr ⟨hs, ht⟩⟩
  crash := by
    rintro _ s t p ⟨hh, hu, result, rfl⟩ hi
    refine ⟨fun u hut => ?_, fun j hj => absurd rfl hj, fun _ _ _ => trivial⟩
    rcases hi u (hu ▸ hut) with h | ⟨j, hj, hid⟩ | h
    · exact .inl h
    · exact .inr (.inl ⟨j, by rw [hh]; exact hj, hid⟩)
    · exact .inr (.inr h)

/-- An agent between two commands. -/
def Idle (c : Config interface (RestoreState D) Unit CommandResult) : Prop :=
  c.state.underway = none ∧ ∃ result, c.thread () = .pure result

/-- **The restore journal is fail-closed.** Over any number of restores, with any Docker
or file error and a crash at any effect: a destructive command runs only while the journal
of its own restore is on disk and only if there was none when the restore began; and where
there is no journal, nothing was destroyed or everything in the manifest is restored. -/
theorem restore_fail_closed (e : Executor) (links : String → String)
    (digest : BackupManifest → String) (run : D → List String → RunResult → D → Prop)
    (c : Config interface (RestoreState D) Unit CommandResult)
    (h : Reach (restoreSystem e links digest run) Idle c) :
    (∀ args k, c.thread () = .op (.docker args) k → destructive args = true →
      ∃ u, c.state.underway = some u ∧ u.before = none ∧
        JournalOnDisk e links c.state.host u.restore) ∧
    ∀ u, c.state.underway = some u →
      c.state.host.files (journalPath e links u.restore) = none →
      (∀ args ∈ u.started, destructive args = false) ∨ RestoredAll e u := by
  have hsound : Sound (contract e links run) (fun _ _ _ => True) c := by
    refine reach_sound (keeps_restoreSystem digest) ?_ h
    rintro c ⟨hu, result, hth⟩
    refine ⟨fun u hu' => by simp [hu] at hu', fun i => ?_⟩
    rw [show i = () from rfl, hth]
    exact fun _ _ _ => trivial
  refine ⟨fun args k hop hd => ?_, fun u hu hnone => ?_⟩
  · exact hsound.allowed contract_lawful hop args rfl hd
  · rcases hsound.1 u hu with h | ⟨j, hj, -⟩ | h
    · exact .inl h
    · simp [hnone] at hj
    · exact .inr h

/-! ### A restore up to its first volume -/

def sampleExecutor : Executor where
  stateDir := "/state"
  stateVolume := "gateway_state"
  localBackupRoot := "/backups"
  hostLocalBackupRoot := "/srv/backups"
  nasBackupRoot := "/nas"
  hostNASBackupRoot := "/mnt/nas"
  nasMarker := ".marker"
  agentImage := "agent:1"
  cloudflaredImage := "cloudflared:1"
  edgeNetwork := "edge"
  traefikDynamicRoot := "/traefik"
  redact := id
  unmarshalLabels := fun _ =>
    some [("com.docker.compose.project", "shop"), ("com.docker.compose.volume", "data")]

def sampleRestore : StackRestorePayload where
  restoreId := "11111111-1111-4111-8111-111111111111"
  backupId := "22222222-2222-4222-8222-222222222222"
  stackId := "33333333-3333-4333-8333-333333333333"
  projectName := "shop"
  revision := 1
  target := "local"
  stackPath := "33333333-3333-4333-8333-333333333333"
  composePath := "33333333-3333-4333-8333-333333333333/compose.yaml"
  postgres := none

def sampleChecksum : String :=
  "0123456789abcdef0123456789abcdef0123456789abcdef0123456789abcdef"

def sampleManifest : BackupManifest where
  version := 2
  backupId := sampleRestore.backupId
  stackId := sampleRestore.stackId
  projectName := "shop"
  revision := 1
  target := "local"
  createdAt := 1
  volumes := [⟨"data", "shop_data", "data.tar.gz", 7, sampleChecksum⟩]
  databases := []

def sampleAnswers : HostAnswers Unit where
  docker := fun d args =>
    ({ output :=
        { stdout := if args.getLast? = some "--volumes" then "data"
            else if args.head? = some "volume" then "shop_data" else "" } }, d)
  isDirectory := fun path => path = "/backups"
  checksum := fun _ => (7, sampleChecksum)

def sampleState : RestoreState Unit where
  host :=
    { files := fun path =>
        if path = "/backups/33333333-3333-4333-8333-333333333333/" ++
            "22222222-2222-4222-8222-222222222222/manifest.json"
        then some (.regular (.manifest sampleManifest 512)) else none
      docker := () }

def sampleCommand : Command :=
  ⟨"44444444-4444-4444-8444-444444444444", "stack.restore.apply", .stackRestore sampleRestore⟩

def sampleAnswer (s : RestoreState Unit) (o : HostOp) : o.Res × RestoreState Unit :=
  let r := respond sampleAnswers id s.host o
  (r.1, { host := r.2, underway := s.underway.map (·.observe o r.1) })

def sampleStart : RestoreState Unit :=
  { sampleState with underway := underwayOf sampleExecutor id sampleState.host sampleCommand.payload }

def sampleProgram : HostProg CommandResult :=
  executeStackRestore sampleExecutor (fun _ => "") (startedResult sampleCommand 1)
    sampleCommand.payload

/-- The sample restore about to run its first volume restore. -/
def sampleConfig : Config interface (RestoreState Unit) Unit CommandResult :=
  let p := sampleProgram.runFor sampleAnswer 35 sampleStart
  ⟨p.2, fun _ => p.1⟩

/-- Docker answers as the sample answers say. -/
def sampleRun (d : Unit) (args : List String) (r : RunResult) (d' : Unit) : Prop :=
  (r, d') = sampleAnswers.docker d args

lemma sampleConfig_reach :
    Reach (restoreSystem sampleExecutor id (fun _ => "") sampleRun) Idle sampleConfig := by
  have h0 : Reach (restoreSystem sampleExecutor id (fun _ => "") sampleRun) Idle
      ⟨sampleState, fun _ => .pure (startedResult sampleCommand 1)⟩ := .init ⟨rfl, _, rfl⟩
  have h1 := h0.step (.start () (p := sampleProgram) (t := sampleStart) rfl
    ⟨rfl, .inr ⟨sampleCommand, 1, rfl, rfl⟩⟩)
  simp only [Function.update_eq_const_of_subsingleton] at h1
  have hrespond : ∀ s o, (restoreSystem sampleExecutor id (fun _ => "") sampleRun).exec () s o
      (sampleAnswer s o).1 (sampleAnswer s o).2 :=
    fun s o => ⟨hostEffect_respond (A := sampleAnswers) (fun _ _ => rfl) s.host o, rfl⟩
  have h2 := reach_runFor hrespond 35 h1
  simp only [Function.update_eq_const_of_subsingleton] at h2
  exact h2

theorem restore_fail_closed_sample :
    (sampleConfig.thread ()).next = some (.docker (helperArgs sampleExecutor "restore"
      "shop_data" (hostDirectory sampleExecutor sampleRestore) "data.tar.gz")) ∧
    (∀ args k, sampleConfig.thread () = .op (.docker args) k → destructive args = true →
      ∃ u, sampleConfig.state.underway = some u ∧ u.before = none ∧
        JournalOnDisk sampleExecutor id sampleConfig.state.host u.restore) ∧
    ∀ u, sampleConfig.state.underway = some u →
      sampleConfig.state.host.files (journalPath sampleExecutor id u.restore) = none →
      (∀ args ∈ u.started, destructive args = false) ∨ RestoredAll sampleExecutor u :=
  ⟨by decide, restore_fail_closed sampleExecutor id (fun _ => "") sampleRun sampleConfig
    sampleConfig_reach⟩

end GatewayControl.RestoreJournal
