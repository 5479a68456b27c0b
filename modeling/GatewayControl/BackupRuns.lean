import GatewayControl.BackupRoundTrip
import GatewayControl.LimitedOutput
import GatewayControl.StackBackup

/-!
Runs of a stack backup. Docker prints what it likes to every command and the agent reads it
through its limited buffers; the helper and the copied dump leave files in the backup directory.

What is printed in full is kept for the statements only.
-/

namespace GatewayControl.BackupRuns

open Text AgentTypes Programs Host StackRestore StackBackup LimitedOutput

/-! ### The host -/

/-- A command and what it printed, before the limit. -/
structure Asked where
  args : List String
  stdout : String
  stderr : String

inductive BackupFile where
  | archive (stored : BackupHelper.Stored)
  | dump (bytes : FileTree.Bytes)

/-- The commands so far, the last one first, and the archives and dumps on the agent's disks. -/
structure Docker where
  log : List Asked
  archives : String → Option BackupFile

/-- How the agent is set up: its executor, where links lead, which of its directories is mounted
at a directory of the host, its output limit, and what `checksumRegularFile` says of a file. -/
structure Setup where
  e : Executor
  links : String → String
  shared : String → String
  maxOutput : ℕ
  measure : BackupFile → Int × String

variable (S : Setup)

/-- A stored archive is what the helper makes of some volume. -/
def Created (archiveName : String) (stored : BackupHelper.Stored) : Prop :=
  ∃ host source backup m m', BackupRoundTrip.outcome
      (BackupHelper.run host "backup" source backup archiveName) m = (.ok (), m') ∧
    (∃ volume : FileTree.Volume, m.files = volume.files) ∧
    m'.archives.lookup archiveName = some stored

/-- The path a command can write in the backup directories: the helper its archive, a copy its
destination. -/
def Touches (args : List String) (path : String) : Prop :=
  (∃ volume directory archive, args = helperArgs S.e "backup" volume directory archive ∧
    path = join (S.shared directory) archive) ∨
  ∃ source, args = ["container", "cp", source, path]

/-- Any command can print anything and fail; a helper that succeeds has made its archive. -/
structure Ran (d : Docker) (args : List String) (r : RunResult) (d' : Docker) : Prop where
  printed : ∃ stdout stderr, r.output.stdout = received S.maxOutput stdout ∧
    (r.output.truncated = true ↔ Truncated S.maxOutput stdout ∨ Truncated S.maxOutput stderr) ∧
    d'.log = ⟨args, stdout, stderr⟩ :: d.log
  untouched : ∀ path, ¬ Touches S args path → d'.archives path = d.archives path
  created : r.err = none → ∀ volume directory archive,
    args = helperArgs S.e "backup" volume directory archive →
    ∃ stored, d'.archives (join (S.shared directory) archive) = some (.archive stored) ∧
      Created archive stored

def Docker.moved (d : Docker) (source destination : String) (f : BackupFile) : Docker :=
  let placed := Function.update d.archives destination (some f)
  { d with archives := Function.update placed source none }

def Docker.removed (d : Docker) (path : String) : Docker :=
  { d with archives := Function.update d.archives path none }

/-- The effects, over that Docker; the clock is never at its zero. -/
def backupEffect (h : HostState Docker) : (o : HostOp) → o.Res → HostState Docker → Prop
  | .checksum path, r, h' =>
      h' = h ∧ ∀ x, r = .ok x → ∃ f, h.docker.archives path = some f ∧ x = S.measure f
  | .renameFile source destination, r, h' =>
      (∃ f, h.docker.archives source = some f ∧
        h' = { h with docker := h.docker.moved source destination f }) ∨
      (∃ e, r = .error e) ∧ h' = h
  | .remove path, r, h' =>
      (∃ found, r = .ok found ∧
        h' = { h.removed path with docker := h.docker.removed path }) ∨
      (∃ e, r = .error e) ∧ h' = h
  | .now, r, h' => h' = h ∧ r ≠ (0 : Time)
  | o, r, h' => hostEffect S.links (Ran S) h o r h'

/-- One backup, from the state the agent finds. -/
def backupSystem : System interface (HostState Docker) Unit CommandResult Unit where
  exec := fun _ => backupEffect S
  start := fun _ _ _ _ _ => False
  environment := fun _ _ _ => False
  crash := fun _ _ _ _ => False

def Begun (encoded : BackupManifest → ℕ) (digest : BackupManifest → String)
    (result : CommandResult) (raw : Option StackBackupPayload)
    (c : Config interface (HostState Docker) Unit CommandResult) : Prop :=
  c.state.docker.log = [] ∧ result.success = false ∧
    c.thread () = executeStackBackup S.e encoded digest result raw

def contract : Contract interface (HostState Docker) Unit where
  exec := fun _ => backupEffect S
  inv := fun _ => True
  rely := fun _ s t => t = s
  allowed := fun _ _ _ => True

variable {S} {α β : Type} {h h' : HostState Docker} {P : HostState Docker → Prop}
  {K : α → HostState Docker → Prop}

lemma contract_lawful : (contract S).Lawful :=
  ⟨fun _ _ => rfl, fun _ _ _ _ h h' => h'.trans h⟩

lemma stable_any {P : HostState Docker → Prop} : Stable (contract S) () P := by
  rintro s t - - rfl h
  exact h

/-! ### Steps -/

abbrev Gives (S : Setup) (P : HostState Docker → Prop) (p : HostFallible α)
    (K : α → HostState Docker → Prop) : Prop := Tri (contract S) () P p K

lemma gives_pure {a : α} (h : ∀ s, P s → K a s) : Gives S P (pure a) K :=
  tri_pure stable_any fun s _ hs => h s hs

lemma gives_throw {e : String} : Gives S P (throw e) K := tri_throw stable_any

lemma gives_bind {p : HostFallible α} {f : α → HostFallible β}
    {K' : β → HostState Docker → Prop} (hp : Gives S P p K)
    (hf : ∀ a, Gives S (K a) (f a) K') : Gives S P (p >>= f) K' :=
  tri_bind contract_lawful hp hf

lemma gives_conseq {p : HostFallible α} {P' : HostState Docker → Prop}
    {K' : α → HostState Docker → Prop} (h : Gives S P p K) (hP : ∀ s, P' s → P s)
    (hK : ∀ a s, K a s → K' a s) : Gives S P' p K' :=
  tri_conseq h (fun s _ => hP s) fun a s _ => hK a s

lemma gives_trivial (p : HostFallible α) : Gives S P p fun _ _ => True := by
  refine triple_conseq (triple_only (P := fun _ => True) (Prog.only_true p.run) stable_true
    (fun _ _ _ _ _ => trivial) ?_) (fun _ _ _ => trivial) ?_
  · exact fun _ _ _ _ _ _ _ _ => ⟨trivial, fun j hj => absurd rfl hj, trivial⟩
  · rintro (e | a) s - -
    · trivial
    · trivial

/-- An effect, by what it does. -/
lemma gives_eff {o : HostOp} {K : o.Res → HostState Docker → Prop}
    (hstep : ∀ s r t, P s → backupEffect S s o r t → K r t) : Gives S P (lift (eff o)) K := by
  refine tri_lift contract_lawful (fun _ => stable_any)
    (triple_perform stable_any (fun _ => stable_any) (fun _ _ _ => trivial) ?_)
  exact fun s r t _ hs hexec => ⟨trivial, fun j hj => absurd rfl hj, hstep s r t hs hexec⟩

lemma gives_orElse {p : HostProg (Except String α)} {e : String}
    {K : Except String α → HostState Docker → Prop} (hp : Gives S P (lift p) K) :
    Gives S P (orElse p e) fun a s => K (.ok a) s := by
  refine gives_bind hp fun r => ?_
  cases r with
  | ok a => exact gives_pure fun _ h => h
  | error e => exact gives_throw

/-- What a command prints is in the log, and read through the limit. -/
lemma gives_docker {args : List String} {message : String}
    (hkeep : ∀ s r t, P s → Ran S s.docker args r t.docker → t.files = s.files → P t) :
    Gives S P (docker args message) fun output s => P s ∧
      ∃ a ∈ s.docker.log, a.args = args ∧ output.stdout = received S.maxOutput a.stdout := by
  refine gives_bind (K := fun r s => P s ∧ ∃ a ∈ s.docker.log, a.args = args ∧
    r.output.stdout = received S.maxOutput a.stdout) (gives_eff fun s r t hs hexec => ?_)
    fun r => ?_
  · obtain ⟨d, hrun, rfl⟩ := hexec
    refine ⟨hkeep s r _ hs hrun rfl, ?_⟩
    obtain ⟨stdout, stderr, hout, -, hlog⟩ := hrun.printed
    exact ⟨⟨args, stdout, stderr⟩, by simp [hlog], rfl, hout⟩
  · split_ifs
    · exact gives_pure fun _ h => h
    · exact gives_throw

/-! ### What lasts -/

/-- An assertion no effect falsifies. -/
def Lasting (S : Setup) (P : HostState Docker → Prop) : Prop :=
  ∀ s o r t, P s → backupEffect S s o r t → P t

lemma gives_lasting {P' : HostState Docker → Prop} {p : HostFallible α} (hP' : Lasting S P')
    (h : Gives S P p K) : Gives S (fun s => P s ∧ P' s) p fun a s => K a s ∧ P' s :=
  tri_frame h (Prog.only_true p.run) stable_any fun s o r t _ _ hs hexec => hP' s o r t hs hexec

/-- The log only grows. -/
lemma log_grows {o : HostOp} {r : o.Res} (hexec : backupEffect S h o r h') {a : Asked}
    (ha : a ∈ h.docker.log) : a ∈ h'.docker.log := by
  cases o with
  | docker args =>
      obtain ⟨d, hrun, rfl⟩ := hexec
      obtain ⟨stdout, stderr, -, -, hlog⟩ := hrun.printed
      rw [hlog]
      exact List.mem_cons_of_mem _ ha
  | checksum _ | now | evalSymlinks _ | lstat _ | readFile _ =>
      obtain ⟨rfl, -⟩ := hexec
      exact ha
  | renameFile _ _ =>
      rcases hexec with ⟨f, -, rfl⟩ | ⟨-, rfl⟩ <;> exact ha
  | remove _ =>
      rcases hexec with ⟨f, -, rfl⟩ | ⟨-, rfl⟩ <;> exact ha
  | writeTemporary _ _ =>
      rcases hexec with ⟨-, rfl⟩ | ⟨-, rfl⟩ <;> exact ha
  | rename _ =>
      rcases hexec with ⟨-, rfl⟩ | ⟨-, rfl⟩
      · unfold HostState.renamed
        split <;> exact ha
      · exact ha
  | removeTemporary =>
      obtain rfl := hexec
      exact ha
  | mkdirAll _ | mkdir _ | chmod _ | syncDirectory _ | composePath _ | validateArchive _
  | probe _ | waitSecond | contextError | identity =>
      obtain rfl := hexec
      exact ha

lemma lasting_logged (φ : Asked → Prop) : Lasting S fun s => ∃ a ∈ s.docker.log, φ a := by
  rintro s o r t ⟨a, ha, hφ⟩ hexec
  exact ⟨a, log_grows hexec ha, hφ⟩

lemma lasting_and {P P' : HostState Docker → Prop} (h : Lasting S P) (h' : Lasting S P') :
    Lasting S fun s => P s ∧ P' s :=
  fun s o r t hs hexec => ⟨h s o r t hs.1 hexec, h' s o r t hs.2 hexec⟩

end GatewayControl.BackupRuns
