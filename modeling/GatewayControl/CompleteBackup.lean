import GatewayControl.BackupCompleteness
import GatewayControl.RestoreJournal
import Mathlib.Data.String.Basic

/-!
When a successful stack backup is complete. The agent takes Docker's listings as its buffers hold
them, and does not ask whether they were cut.
-/

namespace GatewayControl.CompleteBackup

open Text AgentTypes Programs Host StackRestore StackBackup LimitedOutput BackupRuns
  BackupCompleteness

variable {S : Setup} {encoded : BackupManifest → ℕ} {digest : BackupManifest → String}
  {result : CommandResult} {raw : Option StackBackupPayload}

/-! ### The command -/

/-- What a finished backup is known to leave. -/
structure Backed (S : Setup) (encoded : BackupManifest → ℕ) (payload : StackBackupPayload)
    (p : Prepared) (m : BackupManifest) (s : HostState Docker) : Prop where
  written : Written S payload p m s
  published : Published encoded p m s
  settled : Settled S payload p s

/-- Compose commands leave the files of a backup alone. -/
lemma backed_of_compose {payload : StackBackupPayload} {p : Prepared} {m : BackupManifest}
    {rest : List String} {h h' : HostState Docker} {r : RunResult}
    (hb : Backed S encoded payload p m h)
    (hexec : backupEffect S h (.docker ("compose" :: rest)) r h') :
    Backed S encoded payload p m h' := by
  have hleaves : ∀ path, Leaves S path (.docker ("compose" :: rest)) :=
    fun path => touches_compose
  refine ⟨written_of_leaves hleaves hb.written hexec, ?_,
    lasting_settled payload p _ _ _ _ hb.settled hexec⟩
  obtain ⟨d, -, rfl⟩ := hexec
  exact hb.published

lemma restartServices_keeps {payload : StackBackupPayload} {p : Prepared} {m : BackupManifest}
    {base : List String} (hbase : ∃ rest, base = "compose" :: rest) (services : List String) :
    Triple (contract S) () (Backed S encoded payload p m) (restartServices base services)
      fun _ => Backed S encoded payload p m := by
  obtain ⟨rest, rfl⟩ := hbase
  unfold restartServices
  split_ifs
  · exact triple_pure stable_any fun _ _ h => h
  · refine triple_bind contract_lawful (gives_step fun s r t hs hexec => ?_)
      fun _ => triple_pure stable_any fun _ _ h => h
    exact backed_of_compose hs hexec

lemma backupStack_gives (encoded : BackupManifest → ℕ) (payload : StackBackupPayload) :
    Gives S (fun _ => True) (backupStack S.e encoded payload)
      fun x s => ∃ p, Backed S encoded payload p x.1 s := by
  unfold backupStack
  refine gives_bind (prepareBackup_gives payload) fun p => ?_
  refine gives_given (φ := ∃ rest, p.base = "compose" :: rest) (fun s hs => hs.base) fun hbase => ?_
  refine bind_ends (lasting_settled payload p) (Fallible.ends_true _) fun _ _ => ?_
  refine gives_conseq (ensure_gives (K := fun x => Backed S encoded payload p x.1)
    (gives_conseq (writeBackup_gives encoded payload p) (fun _ h => h) fun x s h =>
      ⟨h.1.1, h.1.2, h.2⟩) fun x => restartServices_keeps hbase p.running)
    (fun _ h => h) fun x s h => ⟨p, h⟩

/-- The files a successful result stands for. -/
def Reported (S : Setup) (encoded : BackupManifest → ℕ) (raw : Option StackBackupPayload)
    (result : CommandResult) (s : HostState Docker) : Prop :=
  result.success = true → ∃ payload p m, decodeStackBackupPayload raw = .ok payload ∧
    Backed S encoded payload p m s

lemma failure_reports (hresult : result.success = false) (err : String)
    {P : HostState Docker → Prop} :
    Triple (contract S) () P (StackRestore.failure S.e result err) (Reported S encoded raw) := by
  unfold StackRestore.failure
  refine triple_bind contract_lawful (gives_step (K := fun _ _ => True) fun _ _ _ _ _ => trivial)
    fun now => triple_pure stable_any fun s _ _ hsuccess => ?_
  rw [hresult] at hsuccess
  cases hsuccess

lemma executeStackBackup_reports (hresult : result.success = false) :
    Triple (contract S) () (fun _ => True) (executeStackBackup S.e encoded digest result raw)
      (Reported S encoded raw) := by
  unfold executeStackBackup
  cases hdecode : decodeStackBackupPayload raw with
  | error err => exact failure_reports hresult err
  | ok payload =>
      refine triple_bind contract_lawful (backupStack_gives encoded payload) ?_
      rintro (err | ⟨m, now⟩)
      · exact failure_reports hresult err
      · refine triple_pure stable_any fun s _ hs _ => ?_
        obtain ⟨p, hp⟩ := hs
        exact ⟨payload, p, m, hdecode, hp⟩

/-! ### Runs -/

lemma keeps_backupSystem : Keeps (backupSystem S) (contract S) fun _ => Reported S encoded raw where
  lawful := contract_lawful
  exec := fun _ _ _ _ _ h => h
  start := fun _ _ _ _ _ h => h.elim
  environment := fun _ _ _ h => h.elim
  crash := fun _ _ _ _ h => h.elim

/-- In every run, a successful result stands for the files of its backup. -/
theorem reported_of_reach {c : Config interface (HostState Docker) Unit CommandResult}
    (h : Reach (backupSystem S) (Begun S encoded digest result raw) c) {r : CommandResult}
    (hend : c.thread () = .pure r) : Reported S encoded raw r c.state := by
  have hsound : Sound (contract S) (fun _ => Reported S encoded raw) c := by
    refine reach_sound keeps_backupSystem ?_ h
    rintro c ⟨-, hresult, hthread⟩
    refine ⟨trivial, fun i => ?_⟩
    rw [show i = () from rfl, hthread]
    exact executeStackBackup_reports hresult c.state trivial trivial
  have hsafe := hsound.2 ()
  rw [hend] at hsafe
  exact hsafe c.state rfl trivial

/-! ### Completeness -/

/-- The listings a backup reads. -/
def Listing (args : List String) : Prop :=
  ["config", "--volumes"] <:+ args ∨ ["volume", "ls"] <+: args ∨
    ["ps", "--services", "--filter", "status=running"] <:+ args ∨ ["container", "ls"] <+: args

instance (args : List String) : Decidable (Listing args) :=
  inferInstanceAs (Decidable (_ ∨ _ ∨ _ ∨ _))

/-- None of them is longer than the output limit. -/
def ListingsFit (S : Setup) (s : HostState Docker) : Prop :=
  ∀ a ∈ s.docker.log, Listing a.args → ¬ Truncated S.maxOutput a.stdout

/-- Docker lists one volume of the stack for the logical name, and its labels say the same. -/
def OwnedInFull (S : Setup) (projectName : String) (v : ManifestVolume) (s : HostState Docker) :
    Prop :=
  (∃ a ∈ s.docker.log, a.args = volumeListing projectName v.logicalName ∧
    nonemptyUniqueLines a.stdout = [v.dockerName]) ∧
  ∃ a ∈ s.docker.log, a.args = volumeLabels v.dockerName ∧
    ownedLabels S.e projectName v.logicalName (received S.maxOutput a.stdout) = true

/-- The published manifest lists every volume Compose printed, owned and with the size and
checksum of its archive, and the dump of the configured database. -/
structure Complete (S : Setup) (encoded : BackupManifest → ℕ) (payload : StackBackupPayload)
    (m : BackupManifest) (s : HostState Docker) : Prop where
  published : s.files (join (backupDirectory (S.links (backupRoot S.e payload.target)) payload)
    "manifest.json") = some (.regular (.manifest m (encoded m)))
  listed : ∃ base, ∃ a ∈ s.docker.log, a.args = base ++ ["config", "--volumes"] ∧
    m.volumes.map (·.logicalName) = nonemptyUniqueLines a.stdout
  owned : ∀ v ∈ m.volumes, OwnedInFull S payload.projectName v s
  archived : ∀ v ∈ m.volumes,
    Archived S (backupDirectory (S.links (backupRoot S.e payload.target)) payload)
      (backupDirectory (hostBackupRoot S.e payload.target) payload) v s
  databases : databasesOf payload m.databases
  dumped : ∀ d ∈ m.databases,
    Dumped S (backupDirectory (S.links (backupRoot S.e payload.target)) payload) d s

/-- The manifest is complete, and no listing it was made from was cut. -/
def CompleteInFull (S : Setup) (encoded : BackupManifest → ℕ) (raw : Option StackBackupPayload)
    (s : HostState Docker) : Prop :=
  (∃ payload m, decodeStackBackupPayload raw = .ok payload ∧ Complete S encoded payload m s) ∧
    ∀ a ∈ s.docker.log, Listing a.args → ¬ Truncated S.maxOutput a.stdout

lemma linesRead_of_fits {a : Asked} (h : ¬ Truncated S.maxOutput a.stdout) :
    linesRead S a = nonemptyUniqueLines a.stdout := by
  unfold linesRead
  rw [received_of_fits h]

lemma complete_of_backed {payload : StackBackupPayload} {p : Prepared} {m : BackupManifest}
    {s : HostState Docker} (hb : Backed S encoded payload p m s) (hfit : ListingsFit S s) :
    Complete S encoded payload m s := by
  obtain ⟨hw, hpublished, hs⟩ := hb
  unfold Published at hpublished
  have hdir := hs.destination
  refine ⟨hdir ▸ hpublished, ?_, fun v hv => ?_, fun v hv => ?_, hw.databases, fun d hd => ?_⟩
  · obtain ⟨a, ha, hargs, hnames⟩ := hs.listed.names
    have hlisting : Listing a.args := .inl ⟨p.base, hargs.symm⟩
    refine ⟨p.base, a, ha, hargs, ?_⟩
    rw [← linesRead_of_fits (hfit a ha hlisting), ← hnames, ← hw.volumes, List.map_map]
    rfl
  · have hmem : (v.logicalName, v.dockerName) ∈ p.volumes :=
      hw.volumes ▸ List.mem_map_of_mem (f := fun v => (v.logicalName, v.dockerName)) hv
    obtain ⟨-, -, ⟨a, ha, hargs, hlines⟩, hlabelled⟩ := hs.listed.owned _ hmem
    refine ⟨⟨a, ha, hargs, ?_⟩, hlabelled⟩
    have hlisting : Listing a.args := .inr (.inl (hargs ▸ ⟨_, rfl⟩))
    rw [← linesRead_of_fits (hfit a ha hlisting), hlines]
  · exact hdir ▸ hs.hostDestination ▸ hw.archived v hv
  · exact hdir ▸ hw.dumped d hd

/-! ### A cut listing stops nothing -/

/-- Docker has not been asked for a volume's archive, and there are no managed files. -/
def Clear (s : HostState Docker) : Prop := ∀ path, s.files path = none

abbrev Backs (S : Setup) (p : HostFallible α) (K : α → HostState Docker → Prop) : Prop :=
  Works (backupEffect S) Clear p fun a s => Clear s ∧ K a s

variable {α β : Type} {K : α → HostState Docker → Prop}

lemma backs_pure {a : α} (h : ∀ s, K a s) : Backs S (pure a) K :=
  works_pure fun s hs => ⟨hs, h s⟩

/-- What is known of a value does not depend on the state. -/
lemma backs_bind {ψ : α → Prop} {p : HostFallible α} {f : α → HostFallible β}
    {K : β → HostState Docker → Prop} (hp : Backs S p fun a _ => ψ a)
    (hf : ∀ a, ψ a → Backs S (f a) K) : Backs S (p >>= f) K := by
  refine works_bind hp fun a => ?_
  rintro s ⟨hs, ha⟩
  exact hf a ha s hs

lemma backs_then {ψ : α → Prop} {p : HostFallible α} {f : α → HostFallible β}
    {K : β → HostState Docker → Prop} (hp : Backs S p fun a _ => ψ a)
    (hf : ∀ a, ψ a → Works (backupEffect S) Clear (f a) K) :
    Works (backupEffect S) Clear (p >>= f) K := by
  refine works_bind hp fun a => ?_
  rintro s ⟨hs, ha⟩
  exact hf a ha s hs

lemma backs_attempt {p : HostProg (Except String α)} {ψ : α → Prop}
    (h : Possible (backupEffect S) Clear p fun r s => Clear s ∧ ∃ a, r = .ok a ∧ ψ a) :
    Backs S (attempt p) fun a _ => ψ a := by
  refine possible_conseq h (fun _ hs => hs) ?_
  rintro r s ⟨hs, a, rfl, ha⟩
  exact ⟨a, rfl, hs, ha⟩

lemma backs_orElse {p : HostProg (Except String α)} {ψ : α → Prop} {message : String}
    (h : Possible (backupEffect S) Clear p fun r s => Clear s ∧ ∃ a, r = .ok a ∧ ψ a) :
    Backs S (orElse p message) fun a _ => ψ a := by
  refine works_bind (works_lift h) fun r => ?_
  rintro s ⟨hs, a, rfl, ha⟩
  exact works_pure (P := Clear) (fun s hs => ⟨hs, ha⟩) s hs

lemma possible_run {p : HostFallible α} {ψ : α → Prop} (h : Backs S p fun a _ => ψ a) :
    Possible (backupEffect S) Clear p.run fun r s => Clear s ∧ ∃ a, r = .ok a ∧ ψ a := by
  refine possible_conseq h (fun _ hs => hs) ?_
  rintro r s ⟨a, rfl, hs, ha⟩
  exact ⟨hs, a, rfl, ha⟩

/-- An effect that can be answered so, and changes nothing. -/
lemma possible_answer {o : HostOp} {r : o.Res} {K : o.Res → Prop} (hr : K r)
    (h : ∀ s, Clear s → backupEffect S s o r s) :
    Possible (backupEffect S) Clear (eff o) fun r s => Clear s ∧ K r :=
  possible_perform fun s hs => ⟨r, s, h s hs, hs, hr⟩

/-- Docker prints a text to a command that writes no archive. -/
lemma ran_printing {d : Docker} {args : List String} (stdout : String)
    (h : args.head? ≠ some "run") :
    Ran S d args ⟨⟨received S.maxOutput stdout, received S.maxOutput "", 0,
      decide (Truncated S.maxOutput stdout ∨ Truncated S.maxOutput "")⟩, none⟩
      ⟨⟨args, stdout, ""⟩ :: d.log, d.archives⟩ := by
  refine ⟨⟨stdout, "", rfl, decide_eq_true_iff, rfl⟩, fun _ _ => rfl, ?_⟩
  rintro - volume directory archive rfl
  exact absurd rfl h

lemma possible_printing {args : List String} (stdout : String) (h : args.head? ≠ some "run") :
    Possible (backupEffect S) Clear (eff (.docker args)) fun r s => Clear s ∧
      r.err = none ∧ r.output.stdout = received S.maxOutput stdout ∧
      ∃ a ∈ s.docker.log, a.args = args ∧ a.stdout = stdout := by
  refine possible_perform fun s hs => ⟨_, _, ⟨_, ran_printing stdout h, rfl⟩, hs, rfl, rfl, ?_⟩
  exact ⟨⟨args, stdout, ""⟩, List.mem_cons_self, rfl, rfl⟩

lemma backs_docker {args : List String} {message : String} (stdout : String)
    (h : args.head? ≠ some "run") : Backs S (docker args message) fun output s =>
      output.stdout = received S.maxOutput stdout ∧
      ∃ a ∈ s.docker.log, a.args = args ∧ a.stdout = stdout := by
  refine works_bind (works_lift (possible_printing stdout h)) fun r => ?_
  rintro s ⟨hs, herr, hout⟩
  rw [if_pos (Option.isNone_iff_eq_none.mpr herr)]
  exact ⟨.ok r.output, s, ⟨rfl, rfl⟩, r.output, rfl, hs, hout⟩

/-- Docker and the labels it prints, such that every one of the names is a volume of the
stack. -/
structure Readable (S : Setup) (projectName : String) (names : List String)
    (dockerName labels : String → String) : Prop where
  some : names ≠ []
  few : names.length ≤ 1000
  service : ∀ n ∈ names, composeServicePattern n = true
  name : ∀ n ∈ names, dockerObjectNamePattern (dockerName n) = true
  listed : ∀ n ∈ names,
    nonemptyUniqueLines (received S.maxOutput (dockerName n)) = [dockerName n]
  labelled : ∀ n ∈ names,
    ownedLabels S.e projectName n (received S.maxOutput (labels n)) = true

variable {projectName : String} {names : List String} {dockerName labels : String → String}

lemma resolveVolume_backs {logical : String}
    (h : Readable S projectName names dockerName labels) (hmem : logical ∈ names) :
    Backs S (resolveVolume S.e projectName logical)
      fun v _ => v = (logical, dockerName logical) := by
  unfold resolveVolume
  rw [if_neg (by simp [h.service _ hmem])]
  refine backs_bind (ψ := fun r => r.err = none ∧
    r.output.stdout = received S.maxOutput (dockerName logical)) (works_lift (possible_conseq
      (possible_printing (dockerName logical) (by simp)) (fun _ h => h) fun r s h =>
        ⟨h.1, h.2.1, h.2.2.1⟩)) ?_
  rintro listed ⟨herr, hout⟩
  rw [herr, hout, h.listed _ hmem]
  dsimp only
  rw [if_neg (by simp [h.name _ hmem])]
  refine backs_bind (ψ := fun r => r.err = none ∧
    r.output.stdout = received S.maxOutput (labels logical)) (works_lift (possible_conseq
      (possible_printing (labels logical) (by simp)) (fun _ h => h) fun r s h =>
        ⟨h.1, h.2.1, h.2.2.1⟩)) ?_
  rintro inspected ⟨herr, hout⟩
  rw [herr, hout, h.labelled _ hmem]
  exact backs_pure fun _ => rfl

lemma resolveVolumes_backs (h : Readable S projectName names dockerName labels)
    (l : List String) (hl : ∀ n ∈ l, n ∈ names) :
    Backs S (resolveVolumes S.e projectName l)
      fun vs _ => vs = l.map fun n => (n, dockerName n) := by
  induction l with
  | nil => exact backs_pure fun _ => rfl
  | cons logical rest ih =>
    refine backs_bind (resolveVolume_backs h (hl _ List.mem_cons_self)) ?_
    rintro _ rfl
    refine backs_bind (ih fun n hn => hl n (List.mem_cons_of_mem _ hn)) ?_
    rintro _ rfl
    exact backs_pure fun _ => rfl

/-- The listing that was read, in full. -/
def Printed (text : String) (s : HostState Docker) : Prop :=
  ∃ a ∈ s.docker.log, (∃ base, a.args = base ++ ["config", "--volumes"]) ∧ a.stdout = text

lemma resolveOwnedVolumes_backs (rest : List String) {text : String}
    (h : Readable S projectName names dockerName labels)
    (htext : nonemptyUniqueLines (received S.maxOutput text) = names) :
    Backs S (resolveOwnedVolumes S.e ("compose" :: rest) projectName)
      fun vs s => (vs = names.map fun n => (n, dockerName n)) ∧ Printed text s := by
  unfold resolveOwnedVolumes
  refine works_bind (backs_docker text (by simp)) fun output => ?_
  rintro s ⟨hs, hout, a, ha, hargs, hstdout⟩
  rw [hout, htext, if_neg (not_lt.mpr h.few)]
  have hprinted : Printed text s := ⟨a, ha, ⟨"compose" :: rest, hargs⟩, hstdout⟩
  have hrest := works_frame (resolveVolumes_backs h names fun n hn => hn)
    (lasting_logged (S := S) fun a => (∃ base, a.args = base ++ ["config", "--volumes"]) ∧
      a.stdout = text)
  exact works_conseq hrest (fun _ h => h) (fun vs s hv => ⟨hv.1.1, hv.1.2, hv.2⟩) s
    ⟨hs, hprinted⟩

lemma backs_eff {o : HostOp} {r : o.Res} {ψ : o.Res → Prop} (hr : ψ r)
    (h : ∀ s, Clear s → backupEffect S s o r s) : Backs S (lift (eff o)) fun a _ => ψ a :=
  works_lift (possible_answer hr h)

def samplePayload : StackBackupPayload where
  backupId := "22222222-2222-4222-8222-222222222222"
  stackId := "33333333-3333-4333-8333-333333333333"
  projectName := "shop"
  revision := 1
  target := "local"
  stackPath := "33333333-3333-4333-8333-333333333333"
  composePath := "33333333-3333-4333-8333-333333333333/compose.yaml"
  postgres := none

lemma prepareStack_backs : Backs S (prepareStack samplePayload.stackId samplePayload.stackPath
    samplePayload.composePath samplePayload.projectName)
    fun base _ => ∃ rest, base = "compose" :: rest := by
  unfold prepareStack
  rw [if_neg (by decide)]
  refine backs_bind (ψ := fun _ => True) (backs_attempt (possible_answer
    (o := .composePath samplePayload.composePath) (r := .ok ("/compose.yaml", "/"))
    (K := fun r : Except String (String × String) => ∃ a, r = .ok a ∧ True)
    ⟨_, rfl, trivial⟩ fun s _ => rfl)) ?_
  rintro ⟨resolved, hostDirectory⟩ -
  refine backs_bind (ψ := fun _ => True) (works_conseq (backs_docker "" (by simp))
    (fun _ h => h) fun _ _ h => ⟨h.1, trivial⟩) fun _ _ => ?_
  exact backs_pure fun _ => ⟨_, rfl⟩

lemma lstat_directory {path : String} {s : HostState Docker} (hs : Clear s) :
    backupEffect S s (.lstat path) (.ok (some .directory)) s := by
  refine ⟨rfl, ?_⟩
  rintro _ ⟨⟩
  rw [hs path]
  exact .inr rfl

lemma subdirectories_backs (elements : List String)
    (hplain : ∀ a ∈ elements, plainElement a = true) (directory : String) :
    Backs S (subdirectories directory elements)
      fun d _ => d = elements.foldl join directory := by
  induction elements generalizing directory with
  | nil => exact backs_pure fun _ => rfl
  | cons a elements ih =>
    unfold subdirectories
    rw [if_neg (by simp [hplain a List.mem_cons_self])]
    refine backs_bind (ψ := fun _ => True) ?_ fun _ _ => ?_
    · unfold ensureDirectory
      refine backs_bind (ψ := fun r => r = .ok (some .directory)) (backs_eff
        (o := .lstat (join directory a)) (r := .ok (some .directory)) rfl
        fun s hs => lstat_directory hs) ?_
      rintro _ rfl
      exact backs_pure fun _ => trivial
    · refine backs_bind (ψ := fun _ => True) (backs_attempt (possible_answer
        (o := .chmod (join directory a)) (r := .ok ())
        (K := fun r : Except String Unit => ∃ a, r = .ok a ∧ True) ⟨(), rfl, trivial⟩
        fun s _ => rfl)) fun _ _ => ?_
      exact ih (fun b hb => hplain b (List.mem_cons_of_mem _ hb)) _

lemma secureSubdirectory_backs (root : String) (elements : List String)
    (hplain : ∀ a ∈ elements, plainElement a = true) :
    Backs S (secureSubdirectory root elements)
      fun d _ => d = elements.foldl join (S.links root) := by
  unfold secureSubdirectory
  refine backs_bind (ψ := fun _ => True) (backs_attempt (possible_answer
    (o := .mkdirAll root) (r := .ok ())
    (K := fun r : Except String Unit => ∃ a, r = .ok a ∧ True) ⟨(), rfl, trivial⟩
    fun s _ => rfl)) fun _ _ => ?_
  refine backs_bind (backs_attempt (possible_answer (o := .evalSymlinks root)
    (r := .ok (S.links root)) (K := fun r : Except String String =>
      ∃ a, r = .ok a ∧ a = S.links root) ⟨_, rfl, rfl⟩ fun s _ => ⟨rfl, ?_⟩)) ?_
  · rintro _ ⟨⟩
    rfl
  · rintro _ rfl
    exact subdirectories_backs elements hplain _

lemma backupRoots_backs : Backs S (backupRoots S.e "local")
    fun roots _ => roots = (backupRoot S.e "local", hostBackupRoot S.e "local") := by
  unfold backupRoots
  rw [if_pos rfl]
  refine backs_bind (ψ := fun _ => True) (backs_orElse (possible_conseq (possible_run
    (secureSubdirectory_backs S.e.localBackupRoot [] (by simp))) (fun _ h => h)
    fun r s h => ⟨h.1, h.2.choose, h.2.choose_spec.1, trivial⟩)) fun _ _ => ?_
  refine backs_bind (ψ := fun r => r = .ok (some .directory)) (backs_eff
    (o := .lstat S.e.localBackupRoot) (r := .ok (some .directory)) rfl
    fun s hs => lstat_directory hs) ?_
  rintro _ rfl
  exact backs_pure fun _ => rfl

/-- Where an agent directory is one the helper writes to. -/
def Shared (S : Setup) : Prop :=
  S.shared (backupDirectory (hostBackupRoot S.e "local") samplePayload) =
    backupDirectory (S.links (backupRoot S.e "local")) samplePayload

/-- The value does not depend on the state, and what lasts holds at the end. -/
lemma backs_bind_lasting {ψ : α → Prop} {χ : β → Prop} {L : HostState Docker → Prop}
    {p : HostFallible α} {f : α → HostFallible β} (hL : Lasting S L)
    (hp : Backs S p fun a s => ψ a ∧ L s) (hf : ∀ a, ψ a → Backs S (f a) fun b _ => χ b) :
    Backs S (p >>= f) fun b s => χ b ∧ L s := by
  refine works_bind hp fun a => ?_
  rintro s ⟨hs, ha, hl⟩
  exact works_conseq (works_frame (hf a ha) hL) (fun _ h => h)
    (fun b s hb => ⟨hb.1.1, hb.1.2, hb.2⟩) s ⟨hs, hl⟩

lemma lasting_printed (text : String) : Lasting S (Printed text) :=
  lasting_logged fun a => (∃ base, a.args = base ++ ["config", "--volumes"]) ∧ a.stdout = text

/-- What the rest of the backup needs of what was settled. -/
def Ready (S : Setup) (names : List String) (dockerName : String → String) (p : Prepared) : Prop :=
  (∃ rest, p.base = "compose" :: rest) ∧ p.volumes = names.map (fun n => (n, dockerName n)) ∧
    p.destination = backupDirectory (S.links (backupRoot S.e "local")) samplePayload ∧
    p.hostDestination = backupDirectory (hostBackupRoot S.e "local") samplePayload

lemma prepareBackup_backs {text : String}
    (h : Readable S samplePayload.projectName names dockerName labels)
    (htext : nonemptyUniqueLines (received S.maxOutput text) = names) :
    Backs S (prepareBackup S.e samplePayload)
      fun p s => Ready S names dockerName p ∧ Printed text s := by
  unfold prepareBackup
  refine backs_bind prepareStack_backs ?_
  rintro _ ⟨rest, rfl⟩
  refine backs_bind_lasting (lasting_printed text) (resolveOwnedVolumes_backs _ h htext) ?_
  rintro _ rfl
  rw [if_neg (by simp [h.some])]
  refine backs_bind backupRoots_backs ?_
  rintro _ rfl
  refine backs_bind (backs_orElse (possible_run (secureSubdirectory_backs _ _ ?_))) ?_
  · decide
  rintro _ rfl
  refine backs_bind (ψ := fun _ => True) (backs_eff (o := .now) (r := (1 : Time)) trivial
    fun s _ => ⟨rfl, by decide⟩) fun createdAt _ => ?_
  refine backs_bind (ψ := fun _ => True) ?_ fun running _ => ?_
  · unfold runningServices
    refine backs_bind (ψ := fun _ => True) (works_conseq (backs_docker "" (by simp))
      (fun _ h => h) fun _ _ h => ⟨h.1, trivial⟩) fun _ _ => backs_pure fun _ => trivial
  · exact backs_pure fun _ => ⟨⟨rest, rfl⟩, rfl, rfl, rfl⟩

/-! ### Archives -/

def emptyVolume : FileTree.Volume where
  files := ∅
  nonempty := fun _ h => absurd h (AList.notMem_empty _)
  plain := fun _ h => absurd h (AList.notMem_empty _)
  closed := fun _ _ h => absurd h (AList.notMem_empty _)

/-- Under every name the helper takes, it can archive an empty volume. -/
lemma created_empty {archive : String} (h : BackupHelper.archiveNamePattern archive = true) :
    Created archive (.tar [] true) := by
  refine ⟨BackupRoundTrip.sampleHost, [47, 115], [47, 98], ⟨∅, ∅, 0⟩,
    ⟨∅, (∅ : AList fun _ : String => BackupHelper.Stored).insert archive (.tar [] true), 0⟩, ?_,
    ⟨emptyVolume, rfl⟩, AList.lookup_insert _⟩
  rw [BackupRoundTrip.run_backup h (by decide) (by decide)]
  rfl

open Classical in
/-- A helper that succeeds. -/
lemma ran_helper (d : Docker) (name directory : String) {archive : String}
    (h : BackupHelper.archiveNamePattern archive = true) :
    ∃ d', Ran S d (helperArgs S.e "backup" name directory archive)
        ⟨⟨received S.maxOutput "", received S.maxOutput "", 0,
          decide (Truncated S.maxOutput "" ∨ Truncated S.maxOutput "")⟩, none⟩ d' ∧
      d'.archives (join (S.shared directory) archive) = some (.archive (.tar [] true)) := by
  let args := helperArgs S.e "backup" name directory archive
  refine ⟨⟨⟨args, "", ""⟩ :: d.log, fun path => if Touches S args path then
    some (.archive (.tar [] true)) else d.archives path⟩, ⟨⟨"", "", rfl, by simp, rfl⟩,
    fun path hpath => if_neg hpath, ?_⟩, if_pos (.inl ⟨_, _, _, rfl, rfl⟩)⟩
  rintro - volume directory' archive' heq
  have hlast := congrArg List.getLast? heq
  simp only [helperArgs, List.getLast?_cons_cons, List.getLast?_singleton,
    Option.some.injEq] at hlast
  subst hlast
  exact ⟨.tar [] true, if_pos (.inl ⟨_, _, _, heq, rfl⟩), created_empty h⟩

lemma helper_backs {destination hostDestination name archive message : String}
    (hshared : S.shared hostDestination = destination)
    (h : BackupHelper.archiveNamePattern archive = true) :
    Works (backupEffect S) Clear
      (docker (helperArgs S.e "backup" name hostDestination archive) message) fun _ s => Clear s ∧
        s.docker.archives (join destination archive) = some (.archive (.tar [] true)) := by
  subst hshared
  refine works_bind (K := fun r s => r.err = none ∧ Clear s ∧
    s.docker.archives (join (S.shared hostDestination) archive) =
      some (.archive (.tar [] true))) (works_lift (possible_perform fun s hs => ?_)) fun r => ?_
  · obtain ⟨d, hran, hstored⟩ := ran_helper (S := S) s.docker name
      hostDestination h
    exact ⟨_, _, ⟨d, hran, rfl⟩, rfl, hs, hstored⟩
  · rintro s ⟨herr, hs⟩
    rw [if_pos (Option.isNone_iff_eq_none.mpr herr)]
    exact ⟨.ok r.output, s, ⟨rfl, rfl⟩, r.output, rfl, hs⟩

lemma backupVolumes_backs {destination hostDestination : String}
    (hshared : S.shared hostDestination = destination) (l : List (String × String))
    (hl : ∀ v ∈ l, BackupHelper.archiveNamePattern (v.1 ++ ".tar.gz") = true) :
    Backs S (backupVolumes S.e destination hostDestination l)
      fun vs _ => vs.map (·.logicalName) = l.map (·.1) := by
  induction l with
  | nil => exact backs_pure fun _ => rfl
  | cons v l ih =>
    obtain ⟨logical, name⟩ := v
    have harchive : BackupHelper.archiveNamePattern (logical ++ ".tar.gz") = true :=
      hl (logical, name) List.mem_cons_self
    unfold backupVolumes
    refine works_bind (helper_backs hshared harchive) fun _ => ?_
    rintro s ⟨hs, hstored⟩
    have hmeasured : backupEffect S s (.checksum (join destination (logical ++ ".tar.gz")))
        (.ok (S.measure (.archive (.tar [] true)))) s := by
      refine ⟨rfl, ?_⟩
      rintro _ ⟨⟩
      exact ⟨_, hstored, rfl⟩
    have hrest := backs_bind (f := fun volumes => pure (⟨logical, name, logical ++ ".tar.gz",
      (S.measure (.archive (.tar [] true))).1, (S.measure (.archive (.tar [] true))).2⟩ ::
        volumes)) (ih fun v hv => hl v (List.mem_cons_of_mem _ hv))
      fun volumes hvolumes => backs_pure
        (K := fun (vs : List ManifestVolume) _ =>
          vs.map (·.logicalName) = ((logical, name) :: l).map (·.1))
        fun _ => by rw [List.map_cons, hvolumes, List.map_cons]
    obtain ⟨a, t, hcan, ha⟩ := hrest s hs
    exact ⟨a, t, ⟨_, s, hmeasured, hcan⟩, ha⟩

/-- Over no managed files a file can be written. -/
lemma writeFileAtomically_works (directory name : String) (contents : Contents) :
    Possible (backupEffect S) Clear (writeFileAtomically directory name contents).run
      fun r s => ∃ a, r = .ok a ∧
        s.files (join directory name) = some (.regular contents) := by
  intro s hs
  let written : HostState Docker := { s with temporary := some contents }
  let renamed := written.renamed (join directory name)
  refine ⟨.ok (), { renamed with temporary := none },
    ⟨.ok (), written, .inl ⟨rfl, rfl⟩, .ok (), renamed, .inl ⟨rfl, rfl⟩, .ok (), renamed, rfl,
      .ok (), renamed, rfl, (), _, rfl, rfl, rfl⟩, (), rfl, ?_⟩
  exact Function.update_self _ _ _

/-- The manifest that lists those volumes is in its place. -/
def Lists (S : Setup) (encoded : BackupManifest → ℕ) (names : List String) (m : BackupManifest)
    (s : HostState Docker) : Prop :=
  s.files (join (backupDirectory (S.links (backupRoot S.e "local")) samplePayload)
    "manifest.json") = some (.regular (.manifest m (encoded m))) ∧
      m.volumes.map (·.logicalName) = names

lemma writeBackup_works {p : Prepared}
    (harchive : ∀ n ∈ names, BackupHelper.archiveNamePattern (n ++ ".tar.gz") = true)
    (hshared : Shared S) (hp : Ready S names dockerName p) : Works (backupEffect S) Clear
      (writeBackup S.e encoded samplePayload p) fun x s => Lists S encoded names x.1 s := by
  obtain ⟨-, hvolumes, hdestination, hhost⟩ := hp
  have hnames : p.volumes.map (·.1) = names := by
    rw [hvolumes, List.map_map]
    exact List.map_id _
  have harchives : ∀ v ∈ p.volumes,
      BackupHelper.archiveNamePattern (v.1 ++ ".tar.gz") = true := by
    intro v hv
    exact harchive v.1 (hnames ▸ List.mem_map_of_mem hv)
  have hmounted : S.shared p.hostDestination = p.destination := by
    rw [hdestination, hhost]
    exact hshared
  unfold writeBackup
  refine works_bind (K := fun _ => Clear) (works_pure fun _ h => h) fun databases => ?_
  refine backs_then (backupVolumes_backs hmounted _ harchives) fun volumes hlisted => ?_
  rw [hnames] at hlisted
  let m := manifestOf samplePayload p.createdAt volumes databases
  refine works_bind (K := fun _ s => Lists S encoded names m s) (works_bind (works_lift
    (writeFileAtomically_works _ _ _)) fun r => ?_) fun _ => ?_
  · rintro s ⟨a, rfl, hfile⟩
    refine ⟨.ok (), s, ⟨rfl, rfl⟩, (), rfl, ?_, hlisted⟩
    rw [← hdestination]
    exact hfile
  · refine works_bind (K := fun _ s => Lists S encoded names m s)
      (works_lift (possible_perform fun s hs => ?_)) fun now => works_pure fun _ h => h
    exact ⟨(1 : Time), s, ⟨rfl, by decide⟩, hs⟩

lemma restartServices_possible {rest : List String} (services : List String)
    {P : HostState Docker → Prop} (hP : ∀ s d, P s → P { s with docker := d }) :
    Possible (backupEffect S) P (restartServices ("compose" :: rest) services) fun _ => P := by
  unfold restartServices
  split_ifs
  · exact possible_pure fun _ h => h
  · refine possible_bind (K := fun _ => P) (possible_perform fun s hs => ?_)
      fun _ => possible_pure fun _ h => h
    exact ⟨_, _, ⟨_, ran_printing "" (by simp), rfl⟩, hP s _ hs⟩

lemma backupStack_works {text : String}
    (h : Readable S samplePayload.projectName names dockerName labels)
    (harchive : ∀ n ∈ names, BackupHelper.archiveNamePattern (n ++ ".tar.gz") = true)
    (hshared : Shared S)
    (htext : nonemptyUniqueLines (received S.maxOutput text) = names) :
    Works (backupEffect S) Clear (backupStack S.e encoded samplePayload)
      fun x s => Lists S encoded names x.1 s ∧ Printed text s := by
  unfold backupStack
  refine works_bind (prepareBackup_backs h htext) fun p => ?_
  rintro s ⟨hs, hp, hprinted⟩
  obtain ⟨⟨rest, hbase⟩, -⟩ := id hp
  have hrest : Works (backupEffect S) Clear (do
      let _ ← docker (p.base ++ ["stop"]) "stop stack for backup"
      ensure (writeBackup S.e encoded samplePayload p)
        fun _ => restartServices p.base p.running) fun x s => Lists S encoded names x.1 s := by
    rw [hbase]
    refine works_bind (K := fun _ => Clear) (works_conseq (backs_docker "" (by simp))
      (fun _ h => h) fun _ _ h => h.1) fun _ => ?_
    unfold ensure
    have hwrite : Works (backupEffect S) Clear (writeBackup S.e encoded samplePayload p)
        fun x s => Lists S encoded names x.1 s := writeBackup_works harchive hshared hp
    refine works_bind (works_lift hwrite) fun r => ?_
    refine works_bind (K := fun _ s => ∃ x, r = .ok x ∧ Lists S encoded names x.1 s)
      (works_lift (restartServices_possible p.running fun _ _ h => h)) fun _ => ?_
    rintro s ⟨x, rfl, hx⟩
    exact ⟨.ok x, s, ⟨rfl, rfl⟩, x, rfl, hx⟩
  exact works_frame hrest (lasting_printed text) s ⟨hs, hprinted⟩

/-- Whatever is printed of the listing, it is enough for success that the lines that were read are
volumes of the stack. -/
theorem cut_listing_succeeds (S : Setup) (encoded : BackupManifest → ℕ)
    (digest : BackupManifest → String) (result : CommandResult) (names : List String)
    (dockerName labels : String → String) (text : String) (hresult : result.success = false)
    (h : Readable S samplePayload.projectName names dockerName labels)
    (harchive : ∀ n ∈ names, BackupHelper.archiveNamePattern (n ++ ".tar.gz") = true)
    (hshared : Shared S)
    (htext : nonemptyUniqueLines (received S.maxOutput text) = names) :
    ∃ c r, Reach (backupSystem S) (Begun S encoded digest result (some samplePayload)) c ∧
      c.thread () = .pure r ∧ r.success = true ∧ Printed text c.state ∧
      ∃ m, Lists S encoded names m c.state := by
  let start : HostState Docker := ⟨fun _ => none, none, [], fun _ => none⟩
  have hdecode : decodeStackBackupPayload (some samplePayload) = .ok samplePayload := by
    decide
  have hworks : Works (backupEffect S) Clear (backupStack S.e encoded samplePayload)
      fun x s => Lists S encoded names x.1 s ∧ Printed text s :=
    backupStack_works h harchive hshared htext
  obtain ⟨_, t, hcan, ⟨m, now⟩, rfl, hlists, hprinted⟩ := hworks start fun _ => rfl
  have hinit : Begun S encoded digest result (some samplePayload)
      ⟨start, fun _ => executeStackBackup S.e encoded digest result (some samplePayload)⟩ :=
    ⟨rfl, hresult, rfl⟩
  have hrun : (executeStackBackup S.e encoded digest result (some samplePayload)).Can
      (backupEffect S) start (backupResult result samplePayload m (digest m) now) t := by
    unfold executeStackBackup
    rw [hdecode]
    exact can_bind hcan ⟨rfl, rfl⟩
  have hreach := reach_can (S := backupSystem S) (i := ()) (.init hinit) hrun
  exact ⟨⟨t, _⟩, backupResult result samplePayload m (digest m) now, hreach,
    by simp, rfl, hprinted, m, hlists⟩

/-! ### When a successful backup is complete -/

/-- **A successful backup is complete exactly when no listing is longer than the output limit.**
In every run, whatever Docker prints and whatever the limit. -/
theorem complete_iff (S : Setup) (encoded : BackupManifest → ℕ)
    (digest : BackupManifest → String) (result : CommandResult)
    (raw : Option StackBackupPayload)
    (c : Config interface (HostState Docker) Unit CommandResult)
    (h : Reach (backupSystem S) (Begun S encoded digest result raw) c) (r : CommandResult)
    (hend : c.thread () = .pure r) (hsuccess : r.success = true) :
    CompleteInFull S encoded raw c.state ↔ ListingsFit S c.state := by
  refine ⟨fun hc => hc.2, fun hfit => ⟨?_, hfit⟩⟩
  obtain ⟨payload, p, m, hdecode, hb⟩ := reported_of_reach h hend hsuccess
  exact ⟨payload, m, hdecode, complete_of_backed hb hfit⟩

/-! ### A sample agent -/

def labelFront : List Char :=
  ("\x7b\"com.docker.compose.project\":\"shop\"," ++
    "\"com.docker.compose.volume\":\"").toList

/-- The labels of a volume as Docker prints them. -/
def labelText (name : List Char) : String :=
  String.ofList (labelFront ++ name ++ ['"', '\x7d', '\n'])

def decodeLabels (text : String) : Option (List (String × String)) :=
  let name := (text.toList.drop labelFront.length).dropLast.dropLast
  if text.toList = labelFront ++ name ++ ['"', '\x7d'] then
    some [("com.docker.compose.project", "shop"),
      ("com.docker.compose.volume", String.ofList name)]
  else none

/-- An agent with the least output limit that can be configured. -/
def sampleSetup : Setup where
  e := { RestoreJournal.sampleExecutor with unmarshalLabels := decodeLabels }
  links := id
  shared := fun _ => backupDirectory "/backups" samplePayload
  maxOutput := 1024
  measure := fun _ => (7, RestoreJournal.sampleChecksum)

def sampleDockerName (logical : String) : String :=
  "shop-" ++ String.ofList (logical.toList.take 1)

/-- What is checked of a name, on its characters. -/
structure Usable (name : List Char) : Prop where
  service : composeServicePattern (String.ofList name) = true
  short : name.length ≤ 128
  docker : dockerObjectNamePattern (sampleDockerName (String.ofList name)) = true
  listed : nonemptyUniqueLines (received 1024 (sampleDockerName (String.ofList name))) =
    [sampleDockerName (String.ofList name)]

lemma length_encode (text : List Char) : (encode text).length ≤ 4 * text.length := by
  induction text with
  | nil => rfl
  | cons c cs ih =>
    have hcons : encode (c :: cs) = String.utf8EncodeChar c ++ encode cs := rfl
    have hsize := c.utf8Size_le_four
    rw [hcons, List.length_append, List.length_cons, String.length_utf8EncodeChar]
    omega

lemma decodeLabels_text (name : List Char) :
    decodeLabels (trimSpace (labelText name)) =
      some [("com.docker.compose.project", "shop"),
        ("com.docker.compose.volume", String.ofList name)] := by
  have hfront : labelFront = '\x7b' :: labelFront.tail := by decide
  have htrim : trimSpace (labelText name) =
      String.ofList (labelFront ++ name ++ ['"', '\x7d']) := by
    unfold trimSpace labelText trimBoth
    rw [String.toList_ofList, hfront]
    have hspace : isSpace '\x7b' = false := by decide
    have hspace' : isSpace '\x7d' = false := by decide
    have hspace'' : isSpace '\n' = true := by decide
    simp [List.dropWhile, hspace, hspace', hspace'']
  rw [htrim]
  unfold decodeLabels
  simp

lemma labelled_of_short {name : List Char} (h : name.length ≤ 128) :
    ownedLabels sampleSetup.e "shop" (String.ofList name)
      (received sampleSetup.maxOutput (labelText name)) = true := by
  have hfront : labelFront.length ≤ 100 := by decide
  have hlimit : sampleSetup.maxOutput = 1024 := rfl
  have hdecode : sampleSetup.e.unmarshalLabels = decodeLabels := rfl
  have hfits : ¬ Truncated sampleSetup.maxOutput (labelText name) := by
    have hlen := length_encode (labelText name).toList
    unfold labelText at hlen
    rw [String.toList_ofList] at hlen
    simp only [List.length_append, List.length_cons, List.length_nil] at hlen
    unfold Truncated size labelText
    rw [String.toList_ofList, hlimit]
    omega
  rw [received_of_fits hfits]
  unfold ownedLabels
  rw [hdecode, decodeLabels_text]
  simp [List.lookup_cons]

lemma readable_of_usable {names : List (List Char)} (hsome : names ≠ []) (hfew : names.length ≤ 1000)
    (h : ∀ n ∈ names, Usable n) : Readable sampleSetup samplePayload.projectName
      (names.map String.ofList) sampleDockerName fun n => labelText n.toList where
  some := by simpa using hsome
  few := by simpa using hfew
  service := by
    intro n hn
    obtain ⟨l, hl, rfl⟩ := List.mem_map.mp hn
    exact (h l hl).service
  name := by
    intro n hn
    obtain ⟨l, hl, rfl⟩ := List.mem_map.mp hn
    exact (h l hl).docker
  listed := by
    intro n hn
    obtain ⟨l, hl, rfl⟩ := List.mem_map.mp hn
    exact (h l hl).listed
  labelled := by
    intro n hn
    obtain ⟨l, hl, rfl⟩ := List.mem_map.mp hn
    rw [String.toList_ofList]
    exact labelled_of_short (h l hl).short

lemma sample_shared : Shared sampleSetup := by
  unfold Shared
  decide

def sampleResult : CommandResult :=
  startedResult ⟨"44444444-4444-4444-8444-444444444444", "stack.backup.create", .raw ""⟩ 1

/-- A volume name of 127 characters. -/
def longName (c : Char) : List Char := c :: List.replicate 126 'x'

lemma toList_archive (name : List Char) :
    (String.ofList name ++ ".tar.gz").toList = name ++ ['.', 't', 'a', 'r', '.', 'g', 'z'] := by
  rw [String.toList_append, String.toList_ofList]
  congr 1

lemma usable_longName {c : Char} (hc : c ∈ "abcdefghi".toList) : Usable (longName c) ∧
    BackupHelper.archiveNamePattern (String.ofList (longName c) ++ ".tar.gz") = true := by
  have hchars : "abcdefghi".toList.all (fun c => c.isAlphanum ∧ isLowerOrDigit c ∧
      dockerObjectNamePattern ("shop-" ++ String.ofList [c]) ∧
      nonemptyUniqueLines (received 1024 ("shop-" ++ String.ofList [c])) =
        ["shop-" ++ String.ofList [c]]) = true := by decide
  obtain ⟨halpha, hlower, hdocker, hlisted⟩ :=
    of_decide_eq_true (List.all_eq_true.mp hchars c hc)
  have hx : 'x'.isAlphanum = true ∧ isLowerOrDigit 'x' = true := by decide
  have hname : sampleDockerName (String.ofList (longName c)) = "shop-" ++ String.ofList [c] := by
    unfold sampleDockerName longName
    rw [String.toList_ofList]
    rfl
  refine ⟨⟨?_, by simp [longName], by rw [hname]; exact hdocker, by rw [hname]; exact hlisted⟩, ?_⟩
  · unfold composeServicePattern identifierPattern
    rw [String.toList_ofList]
    simp [longName, halpha, hx.1]
  · unfold BackupHelper.archiveNamePattern identifierPattern
    rw [toList_archive]
    simp [longName, hlower, hx.2]

/-- A listing of such names in order is read as those names. -/
lemma lines_of_long {cs : List Char} (hcs : ∀ c ∈ cs, c ∈ "abcdefghi".toList)
    (hsorted : cs.Pairwise (· < ·)) :
    nonemptyUniqueLines (String.ofList (listing (cs.map longName))) =
      (cs.map longName).map String.ofList := by
  have hchars : "abcdefghi".toList.all (fun c => c ≠ '\n' ∧ isSpace c = false) = true := by
    decide
  have hchar : ∀ c ∈ cs, c ≠ '\n' ∧ isSpace c = false := by
    intro c hc
    exact of_decide_eq_true (List.all_eq_true.mp hchars c (hcs c hc))
  have hx : isSpace 'x' = false := by decide
  refine lines_listing ?_ ?_ ?_ ?_ ?_
  · intro n hn
    obtain ⟨c, hc, rfl⟩ := List.mem_map.mp hn
    simpa [longName, List.mem_replicate] using (hchar c hc).1.symm
  · intro n hn
    obtain ⟨c, hc, rfl⟩ := List.mem_map.mp hn
    have hspace := (hchar c hc).2
    unfold trimBoth longName
    rw [List.dropWhile_cons, if_neg (by simp [hspace]), List.reverse_cons, List.reverse_replicate]
    have hlast : List.replicate 126 'x' = 'x' :: List.replicate 125 'x' := rfl
    rw [hlast, List.cons_append, List.dropWhile_cons, if_neg (by simp [hx])]
    simp [List.reverse_cons]
  · intro n hn
    obtain ⟨c, -, rfl⟩ := List.mem_map.mp hn
    simp [longName]
  · rw [List.Nodup, List.pairwise_map]
    refine hsorted.imp fun {a b} hab heq => ?_
    rw [longName, longName, List.cons.injEq] at heq
    rw [heq.1] at hab
    exact Char.lt_irrefl _ hab
  · rw [List.pairwise_map, List.pairwise_map]
    refine hsorted.imp fun {a b} hab => ?_
    rw [String.le_iff_toList_le, String.toList_ofList, String.toList_ofList]
    exact le_of_lt (List.Lex.rel hab)

lemma received_short {cs : List Char} (h : cs.length ≤ 2) :
    received sampleSetup.maxOutput (String.ofList (listing (cs.map longName))) =
      String.ofList (listing (cs.map longName)) := by
  apply received_of_fits
  have hlength : (listing (cs.map longName)).length = 128 * cs.length := by
    simp [listing, longName, List.length_flatMap, List.map_map, Function.comp_def, mul_comm]
  have hlen := length_encode (listing (cs.map longName))
  have hlimit : sampleSetup.maxOutput = 1024 := rfl
  unfold Truncated size
  rw [String.toList_ofList, hlimit]
  omega

lemma received_declared :
    received sampleSetup.maxOutput
        (String.ofList (listing ("abcdefghi".toList.map longName))) =
      String.ofList (listing ("abcdefgh".toList.map longName)) := by
  have hsplit : "abcdefghi".toList.map longName =
      "abcdefgh".toList.map longName ++ ['i'].map longName := by decide
  rw [hsplit]
  exact received_listing (by decide +kernel)

/-- A run over any of these names, when the listing is read as them. -/
lemma sample_run (cs : List Char) {text : String}
    (hcs : cs.all (fun c => "abcdefghi".toList.contains c) = true) (hsome : cs ≠ []) (hfew : cs.length ≤ 1000) (hsorted : cs.Pairwise (· < ·))
    (htext : received sampleSetup.maxOutput text = String.ofList (listing (cs.map longName))) :
    ∃ c r, Reach (backupSystem sampleSetup)
        (Begun sampleSetup (fun _ => 512) (fun _ => "") sampleResult (some samplePayload)) c ∧
      c.thread () = .pure r ∧ r.success = true ∧ Printed text c.state ∧
      ∃ m, Lists sampleSetup (fun _ => 512) ((cs.map longName).map String.ofList) m c.state := by
  have hmem : ∀ c ∈ cs, c ∈ "abcdefghi".toList := by
    intro c hc
    simpa using List.all_eq_true.mp hcs c hc
  refine cut_listing_succeeds sampleSetup (fun _ => 512) (fun _ => "") sampleResult _ _ _ text rfl
    (readable_of_usable (by simpa using hsome) (by simpa using hfew) ?_) ?_ sample_shared ?_
  · intro n hn
    obtain ⟨c, hc, rfl⟩ := List.mem_map.mp hn
    exact (usable_longName (hmem c hc)).1
  · intro n hn
    rw [List.map_map] at hn
    obtain ⟨c, hc, rfl⟩ := List.mem_map.mp hn
    exact (usable_longName (hmem c hc)).2
  · rw [htext]
    exact lines_of_long hmem hsorted

theorem complete_iff_sample :
    ∃ (c : Config interface (HostState Docker) Unit CommandResult) (r : CommandResult),
      c.thread () = .pure r ∧ r.success = true ∧
    (CompleteInFull sampleSetup (fun _ => 512) (some samplePayload) c.state ↔
      ListingsFit sampleSetup c.state) := by
  obtain ⟨c, r, hreach, hend, hsuccess, -⟩ := sample_run ['a'] (by decide)
    (by simp) (by simp) (by simp) (received_short (by simp))
  exact ⟨c, r, hend, hsuccess, complete_iff _ _ _ _ _ c hreach r hend hsuccess⟩

/-- Nine volumes are declared, the listing is cut after the eighth, and the backup succeeds with a
manifest of eight. -/
theorem shorter_manifest : ∃ c r m, Reach (backupSystem sampleSetup)
      (Begun sampleSetup (fun _ => 512) (fun _ => "") sampleResult (some samplePayload)) c ∧
    c.thread () = .pure r ∧ r.success = true ∧
    Printed (String.ofList (listing ("abcdefghi".toList.map longName))) c.state ∧
    Lists sampleSetup (fun _ => 512) (("abcdefgh".toList.map longName).map String.ofList) m
      c.state ∧
    nonemptyUniqueLines (String.ofList (listing ("abcdefghi".toList.map longName))) =
      ("abcdefghi".toList.map longName).map String.ofList ∧
    ¬ CompleteInFull sampleSetup (fun _ => 512) (some samplePayload) c.state := by
  obtain ⟨c, r, hreach, hend, hsuccess, hprinted, m, hm⟩ := sample_run
    "abcdefgh".toList (by decide) (by decide) (by decide)
    (by decide) received_declared
  refine ⟨c, r, m, hreach, hend, hsuccess, hprinted, hm,
    lines_of_long (fun _ h => h) (by decide), fun hcomplete => ?_⟩
  obtain ⟨a, ha, ⟨base, hargs⟩, hstdout⟩ := hprinted
  have hfits := hcomplete.2 a ha (.inl ⟨base, hargs.symm⟩)
  rw [hstdout] at hfits
  refine hfits ?_
  unfold Truncated size
  rw [String.toList_ofList]
  decide +kernel

end GatewayControl.CompleteBackup
