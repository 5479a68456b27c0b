import GatewayControl.RestoreJournal
import GatewayControl.StackBackup

/-!
Whether a backup or a restore puts the stack back: the services that ran when it looked run
again, and a journal stays only after something was replaced.
-/

namespace GatewayControl.StackServices

open Text AgentTypes Programs Host StackRestore StackBackup RestoreJournal

/-! ### The stack -/

/-- The stack's running services; those that ran when they were first listed, and whether a
volume or database has begun to be replaced. -/
structure Docker where
  running : List String
  before : Option (List String) := none
  begun : Bool := false
deriving DecidableEq

/-- What a Compose command does, after the arguments that name the stack. -/
def composeTail : List String → Option (List String)
  | "compose" :: "--project-name" :: _ :: "--project-directory" :: _ :: "--file" :: _ :: tail =>
      some tail
  | _ => none

def listing : List String := ["ps", "--services", "--filter", "status=running"]

/-- The first command of what replaces a volume or a database. -/
def begins (args : List String) : Bool :=
  destructive args || (composeTail args).any (·.head? == some "up")

variable (services : List String)

/-- A listing is complete and changes nothing; a stop starts nothing, and when it succeeds all
is stopped; services that exist can be started. Any other command may do anything. -/
structure Ran (d : Docker) (args : List String) (r : RunResult) (d' : Docker) : Prop where
  listed : composeTail args = some listing → r.err = none →
    d'.running = d.running ∧ d'.before = some (d.before.getD d.running) ∧
      ∀ n, n ∈ nonemptyUniqueLines r.output.stdout ↔ n ∈ d.running
  unlisted : composeTail args ≠ some listing ∨ r.err ≠ none → d'.before = d.before
  stopped : composeTail args = some ["stop"] →
    (∀ n ∈ d'.running, n ∈ d.running) ∧ (r.err = none → d'.running = [])
  started : ∀ names, composeTail args = some ("start" :: names) → (∀ n ∈ names, n ∈ services) →
    r.err = none ∧ ∀ n ∈ names, n ∈ d'.running
  exist : (∀ n ∈ d.running, n ∈ services) → ∀ n ∈ d'.running, n ∈ services
  begun : d'.begun = (d.begun || begins args)

abbrev State := HostState Docker

def effect (links : String → String) : State → (o : HostOp) → o.Res → State → Prop :=
  hostEffect links (Ran services)

/-! ### What is claimed -/

/-- What ran when the stack was looked at runs. -/
def PutBack (d : Docker) : Prop := ∀ b, d.before = some b → ∀ n ∈ b, n ∈ d.running

/-- A journal is there only if something may have been replaced. -/
def Justified (path : String) (s : State) : Prop :=
  s.files path ≠ none → s.docker.begun = true

/-! ### The conditions -/

/-- No stop of the whole stack fails; neither does an operation on the journal's file, once it
is in place, before something is being replaced. -/
def JournalKeeps (directory path : String) (s : State) : (o : HostOp) → o.Res → Prop
  | .docker args, r => composeTail args = some ["stop"] → r.err = none
  | .chmod p, r => p = path → r = .ok ()
  | .syncDirectory p, r => p = directory → r = .ok ()
  | .remove p, r => p = path → (∃ e, r = .error e) → s.docker.begun = true
  | _, _ => True

/-! ### What lasts -/

variable {services} {links : String → String} {s t : State} {o : HostOp} {r : o.Res}
  {cond : State → (o : HostOp) → o.Res → State → Prop} {path : String} {names : List String}
  {α β : Type} {P : State → Prop}

/-- Only Docker commands change the stack. -/
lemma docker_kept (ho : ∀ args, o ≠ .docker args) (h : effect services links s o r t) :
    t.docker = s.docker := by
  cases o with
  | docker args => exact absurd rfl (ho args)
  | writeTemporary _ c => obtain ⟨-, rfl⟩ | ⟨-, rfl⟩ := h <;> rfl
  | rename path =>
      obtain ⟨-, rfl⟩ | ⟨-, rfl⟩ := h
      · unfold HostState.renamed
        split <;> rfl
      · rfl
  | remove path => obtain ⟨-, rfl⟩ | ⟨-, -, rfl⟩ | ⟨-, rfl⟩ := h <;> rfl
  | removeTemporary =>
      obtain rfl := h
      rfl
  | evalSymlinks _ | lstat _ | readFile _ =>
      obtain ⟨rfl, -⟩ := h
      rfl
  | mkdirAll _ | mkdir _ | chmod _ | syncDirectory _ | renameFile _ _ | composePath _
  | checksum _ | validateArchive _ | probe _ | waitSecond | contextError | identity | now =>
      obtain rfl := h
      rfl

/-- Where the effects go that meet a condition. -/
def contract (services : List String) (links : String → String)
    (cond : State → (o : HostOp) → o.Res → State → Prop) : Contract interface State Unit where
  exec := fun _ s o r t => effect services links s o r t ∧ cond s o r t
  inv := fun s => ∀ n ∈ s.docker.running, n ∈ services
  rely := fun _ s t => t = s
  allowed := fun _ _ _ => True

lemma contract_lawful : (contract services links cond).Lawful :=
  ⟨fun _ _ => rfl, fun _ _ _ _ h h' => h'.trans h⟩

lemma stable_any : Stable (contract services links cond) () P := by
  rintro s t - - rfl h
  exact h

/-- Running services exist. -/
lemma inv_kept (hi : ∀ n ∈ s.docker.running, n ∈ services)
    (h : effect services links s o r t) : ∀ n ∈ t.docker.running, n ∈ services := by
  cases o with
  | docker args =>
      obtain ⟨d, hran, rfl⟩ := h
      exact hran.exist hi
  | _ =>
      rw [docker_kept (fun _ => by simp) h]
      exact hi

lemma triple_eff {o : HostOp} {K : o.Res → State → Prop}
    (hstep : ∀ s r t, (∀ n ∈ s.docker.running, n ∈ services) → P s →
      effect services links s o r t → cond s o r t → K r t) :
    Triple (contract services links cond) () P (eff o) K :=
  triple_perform stable_any (fun _ => stable_any) (fun _ _ _ => trivial)
    fun s r t hi hs hexec =>
      ⟨inv_kept hi hexec.1, fun _ hj => absurd rfl hj, hstep s r t hi hs hexec.1 hexec.2⟩

/-- What no effect of a kind falsifies, a program of that kind keeps. -/
lemma keeping_only {φ : HostOp → Prop} {p : HostProg α} (hp : p.Only φ)
    (hstep : ∀ s o r t, φ o → P s → effect services links s o r t → P t) :
    Triple (contract services links cond) () P p fun _ => P :=
  triple_only hp stable_any (fun _ _ _ _ _ => trivial) fun s o r t ho hi hs hexec =>
    ⟨inv_kept hi hexec.1, fun _ hj => absurd rfl hj, hstep s o r t ho hs hexec.1⟩

abbrev Ends (services : List String) (links : String → String)
    (cond : State → (o : HostOp) → o.Res → State → Prop) (P : State → Prop)
    (p : HostFallible α) (K : α → State → Prop) (X : State → Prop) : Prop :=
  Triple (contract services links cond) () P p.run (Exits K fun _ => X)

variable {K : α → State → Prop} {K' : β → State → Prop} {X : State → Prop}

lemma ends_bind {p : HostFallible α} {f : α → HostFallible β}
    (hp : Ends services links cond P p K X)
    (hf : ∀ a, Ends services links cond (K a) (f a) K' X) :
    Ends services links cond P (p >>= f) K' X :=
  exits_bind contract_lawful (fun _ => stable_any) hp hf

lemma ends_only {φ : HostOp → Prop} {p : HostFallible α} (hp : p.run.Only φ)
    (hstep : ∀ s o r t, φ o → P s → effect services links s o r t → P t) :
    Ends services links cond P p (fun _ => P) P := by
  refine triple_conseq (keeping_only hp hstep) (fun _ _ h => h) ?_
  rintro (_ | _) s - h <;> exact h

/-- A Docker command, by what it does when it succeeds and when it fails. -/
lemma ends_docker {args : List String} {message : String} {K : RunOutput → State → Prop}
    (hok : ∀ s r t, (∀ n ∈ s.docker.running, n ∈ services) → P s →
      effect services links s (.docker args) r t → cond s (.docker args) r t → r.err = none →
      K r.output t)
    (herr : ∀ s r t, (∀ n ∈ s.docker.running, n ∈ services) → P s →
      effect services links s (.docker args) r t → cond s (.docker args) r t → r.err ≠ none →
      X t) :
    Ends services links cond P (docker args message) K X := by
  refine ends_bind (K := fun r t => (r.err = none → K r.output t) ∧ (r.err ≠ none → X t))
    (exits_lift contract_lawful (fun _ => stable_any) (triple_eff fun s r t hi hs hexec hc =>
      ⟨hok s r t hi hs hexec hc, herr s r t hi hs hexec hc⟩)) fun r => ?_
  by_cases h : r.err = none
  · have hnone : r.err.isNone = true := by simp [h]
    rw [if_pos hnone]
    exact exits_pure stable_any fun _ _ hs => hs.1 h
  · have hsome : ¬ r.err.isNone = true := by simpa using h
    rw [if_neg hsome]
    exact exits_throw stable_any fun _ _ hs => hs.2 h

/-! ### Looking at the stack -/

/-- Effects that list no services, replace nothing and move no file. -/
def Inspects : HostOp → Prop
  | .docker args => composeTail args ≠ some listing ∧ begins args = false
  | .rename _ | .remove _ => False
  | _ => True

/-- The stack has not been looked at, and what is said of its files holds. -/
def Fresh (R : (String → Option Node) → Bool → Prop) (s : State) : Prop :=
  s.docker.before = none ∧ R s.files s.docker.begun

variable {R : (String → Option Node) → Bool → Prop}

lemma files_kept (ho : Inspects o) (h : effect services links s o r t) : t.files = s.files := by
  cases o with
  | rename _ | remove _ => exact absurd ho id
  | docker args =>
      obtain ⟨d, -, rfl⟩ := h
      rfl
  | writeTemporary _ c => obtain ⟨-, rfl⟩ | ⟨-, rfl⟩ := h <;> rfl
  | removeTemporary =>
      obtain rfl := h
      rfl
  | evalSymlinks _ | lstat _ | readFile _ =>
      obtain ⟨rfl, -⟩ := h
      rfl
  | mkdirAll _ | mkdir _ | chmod _ | syncDirectory _ | renameFile _ _ | composePath _
  | checksum _ | validateArchive _ | probe _ | waitSecond | contextError | identity | now =>
      obtain rfl := h
      rfl

lemma begun_kept (ho : Inspects o) (h : effect services links s o r t) :
    t.docker.begun = s.docker.begun := by
  cases o with
  | docker args =>
      obtain ⟨d, hran, rfl⟩ := h
      refine hran.begun.trans ?_
      rw [ho.2, Bool.or_false]
  | _ => rw [docker_kept (fun _ => by simp) h]

lemma fresh_kept (ho : Inspects o) (hs : Fresh R s) (h : effect services links s o r t) :
    Fresh R t := by
  obtain ⟨hbefore, hrest⟩ := hs
  refine ⟨?_, by rw [files_kept ho h, begun_kept ho h]; exact hrest⟩
  cases o with
  | docker args =>
      obtain ⟨d, hran, rfl⟩ := h
      exact (hran.unlisted (.inl ho.1)).trans hbefore
  | _ =>
      rw [docker_kept (fun _ => by simp) h]
      exact hbefore

/-- The arguments that name a stack. -/
def IsBase (base : List String) : Prop :=
  ∃ project directory file, base = ["compose", "--project-name", project,
    "--project-directory", directory, "--file", file]

lemma composeTail_base {base : List String} (h : IsBase base) (tail : List String) :
    composeTail (base ++ tail) = some tail := by
  obtain ⟨project, directory, file, rfl⟩ := h
  rfl

lemma begins_base {base : List String} (h : IsBase base) (tail : List String) :
    begins (base ++ tail) = (tail.head? == some "up") := by
  unfold begins
  rw [composeTail_base h]
  obtain ⟨project, directory, file, rfl⟩ := h
  rfl

lemma docker_inspects {args : List String} (hlist : composeTail args ≠ some listing)
    (hbegins : begins args = false) (message : String) :
    (docker args message).run.Only Inspects :=
  only_bind (only_lift (only_eff ⟨hlist, hbegins⟩)) fun r => by split <;> trivial

lemma compose_inspects {base : List String} (h : IsBase base) {tail : List String}
    (htail : tail ≠ listing) (hup : (tail.head? == some "up") = false) (message : String) :
    (docker (base ++ tail) message).run.Only Inspects := by
  refine docker_inspects ?_ ?_ message
  · rw [composeTail_base h]
    simpa using htail
  · rw [begins_base h, hup]

lemma inspects_of_looks (o : HostOp) (h : Looks o) : Inspects o := by
  cases o <;> trivial

lemma prepareStack_inspects (stackId stackPath composePath projectName : String) :
    (prepareStack stackId stackPath composePath projectName).run.Only Inspects := by
  unfold prepareStack
  split
  · trivial
  · refine only_bind (only_eff (by trivial)) fun paths => ?_
    refine only_bind (compose_inspects ⟨_, _, _, rfl⟩ (by decide) (by decide) _) fun _ => ?_
    trivial

lemma prepareStack_base (stackId stackPath composePath projectName : String) :
    Fallible.Ends IsBase (prepareStack stackId stackPath composePath projectName) := by
  unfold prepareStack
  split
  · exact Fallible.ends_throw _
  · refine .bind (Fallible.ends_true _) fun paths _ => ?_
    exact .bind (Fallible.ends_true _) fun _ _ => Fallible.ends_pure ⟨_, _, _, rfl⟩

variable {e : Executor}

lemma resolveVolumes_inspects (projectName : String) (names : List String) :
    (resolveVolumes e projectName names).run.Only Inspects := by
  have hone : ∀ logical, (resolveVolume e projectName logical).run.Only Inspects := by
    intro logical
    unfold resolveVolume
    split
    · trivial
    · refine only_bind (only_lift (only_eff ⟨by simp [composeTail], rfl⟩)) fun listed => ?_
      split
      · split
        · trivial
        · refine only_bind (only_lift (only_eff ⟨by simp [composeTail], rfl⟩)) fun inspected => ?_
          split <;> trivial
      · trivial
  induction names with
  | nil => trivial
  | cons name names ih =>
      exact only_bind (hone name) fun _ => only_bind ih fun _ => trivial

lemma resolveOwnedVolumes_inspects {base : List String} (hbase : IsBase base)
    (projectName : String) : (resolveOwnedVolumes e base projectName).run.Only Inspects := by
  refine only_bind (compose_inspects hbase (by decide) (by decide) _) fun output => ?_
  dsimp only
  split
  · trivial
  · exact resolveVolumes_inspects projectName _

lemma backupRoots_inspects (target : String) : (backupRoots e target).run.Only Inspects := by
  unfold backupRoots
  split
  · refine only_bind (only_orElse ((secureSubdirectory_looks _ _).mono inspects_of_looks) _) fun _ => ?_
    refine only_bind (only_lift (only_eff (by trivial))) fun r => ?_
    split <;> trivial
  · refine only_bind (only_lift (only_eff (by trivial))) fun r => ?_
    split
    · refine only_bind (only_lift (only_eff (by trivial))) fun r => ?_
      split <;> trivial
    · trivial

lemma readRegularFile_inspects (path : String) : (readRegularFile path).run.Only Inspects := by
  refine only_bind (only_eff (by trivial)) ?_
  rintro (_ | _ | _ | _)
  · trivial
  · exact only_bind (only_eff (by trivial)) fun _ => trivial
  · trivial
  · trivial

lemma loadAndValidateManifest_inspects (directory : String) (p : StackRestorePayload) :
    (loadAndValidateManifest directory p).run.Only Inspects := by
  refine only_bind (only_lift (readRegularFile_inspects _)) fun r => ?_
  rcases r with _ | _ | c
  · trivial
  · trivial
  · dsimp only
    split
    · trivial
    · exact (validateManifest_looks _ _ _).mono inspects_of_looks

/-! ### The services of the stack -/

/-- The names are those of the services that run. -/
def Listed (names : List String) (s : State) : Prop :=
  s.docker.before = some s.docker.running ∧ ∀ n, n ∈ names ↔ n ∈ s.docker.running

/-- The names are of services that exist, and all that ran is among them. -/
def Known (services names : List String) (s : State) : Prop :=
  (∃ b, s.docker.before = some b ∧ ∀ n ∈ b, n ∈ names) ∧ ∀ n ∈ names, n ∈ services

lemma runningServices_ends {base : List String} (hbase : IsBase base) :
    Ends services links cond (Fresh R) (runningServices base)
      (fun names s => Listed names s ∧ R s.files s.docker.begun) (Fresh R) := by
  have htail : composeTail (base ++ listing) = some listing := composeTail_base hbase _
  have hbegun : ∀ {s r t}, effect services links s (.docker (base ++ listing)) r t →
      R s.files s.docker.begun → R t.files t.docker.begun := by
    rintro s r t ⟨d, hran, rfl⟩ hR
    have hsame : d.begun = s.docker.begun := by
      rw [hran.begun, begins_base hbase]
      exact Bool.or_false _
    change R s.files d.begun
    rwa [hsame]
  refine ends_bind (K := fun output s => Listed (nonemptyUniqueLines output.stdout) s ∧
    R s.files s.docker.begun) (ends_docker ?_ ?_) fun output => ?_
  · rintro s r t - ⟨hs, hR⟩ h - hok
    refine ⟨?_, hbegun h hR⟩
    obtain ⟨d, hran, rfl⟩ := h
    obtain ⟨hrunning, hbefore, hnames⟩ := hran.listed htail hok
    rw [hs, Option.getD_none] at hbefore
    refine ⟨?_, fun n => ?_⟩
    · change d.before = some d.running
      rw [hbefore, hrunning]
    · change n ∈ _ ↔ n ∈ d.running
      rw [hrunning]
      exact hnames n
  · rintro s r t - ⟨hs, hR⟩ h - herr
    refine ⟨?_, hbegun h hR⟩
    obtain ⟨d, hran, rfl⟩ := h
    exact (hran.unlisted (.inr herr)).trans hs
  · exact exits_pure stable_any fun _ _ hs => hs

lemma listed_kept (ho : ∀ args, o ≠ .docker args) (hs : Listed names s)
    (h : effect services links s o r t) : Listed names t := by
  unfold Listed
  rw [docker_kept ho h]
  exact hs

lemma known_of_listed (hi : ∀ n ∈ s.docker.running, n ∈ services) (hs : Listed names s) :
    Known services names s :=
  ⟨⟨_, hs.1, fun n hn => (hs.2 n).mpr hn⟩, fun n hn => hi n ((hs.2 n).mp hn)⟩

lemma putBack_of_listed (hs : Listed names s) : PutBack s.docker := by
  intro b hb n hn
  rw [hs.1] at hb
  rwa [Option.some.inj hb]

/-- Nothing makes the services known or what ran before forgotten. -/
lemma known_kept (hs : Known services names s) (h : effect services links s o r t) :
    Known services names t := by
  obtain ⟨⟨b, hb, hin⟩, hexist⟩ := hs
  refine ⟨⟨b, ?_, hin⟩, hexist⟩
  cases o with
  | docker args =>
      obtain ⟨d, hran, rfl⟩ := h
      change d.before = some b
      by_cases hlist : composeTail args = some listing ∧ r.err = none
      · rw [(hran.listed hlist.1 hlist.2).2.1, hb, Option.getD_some]
      · rw [not_and_or] at hlist
        rw [hran.unlisted hlist, hb]
  | _ => rw [docker_kept (fun _ => by simp) h, hb]

/-- Something is being replaced, and that is not forgotten either. -/
lemma begun_lasts (hs : s.docker.begun = true) (h : effect services links s o r t) :
    t.docker.begun = true := by
  cases o with
  | docker args =>
      obtain ⟨d, hran, rfl⟩ := h
      refine hran.begun.trans ?_
      rw [hs, Bool.true_or]
  | _ => rw [docker_kept (fun _ => by simp) h, hs]

/-- **Restarting.** -/
lemma restartServices_triple {base : List String} (hbase : IsBase base)
    (hP : ∀ s args r t, P s → effect services links s (.docker args) r t → P t) :
    Triple (contract services links cond) ()
      (fun s => Known services names s ∧ P s) (restartServices base names)
      fun _ s => PutBack s.docker ∧ P s := by
  unfold restartServices
  split
  · next hempty =>
    refine triple_pure stable_any ?_
    rintro s - ⟨⟨⟨b, hb, hin⟩, -⟩, hs⟩
    refine ⟨fun b' hb' n hn => ?_, hs⟩
    rw [hb] at hb'
    have hmem := hin n ((Option.some.inj hb') ▸ hn)
    rw [List.isEmpty_iff.mp hempty] at hmem
    cases hmem
  · refine triple_bind contract_lawful (Q := fun _ s => PutBack s.docker ∧ P s)
      (triple_eff ?_) fun _ => triple_pure stable_any fun _ _ h => h
    rintro s r t - ⟨hK, hs⟩ h -
    obtain ⟨⟨b', hb', hin⟩, -⟩ := known_kept hK h
    have hrest := hP s _ r t hs h
    obtain ⟨d, hran, rfl⟩ := h
    have htail : composeTail (base ++ ["start"] ++ names) = some ("start" :: names) := by
      rw [List.append_assoc]
      exact composeTail_base hbase _
    obtain ⟨-, hstarted⟩ := hran.started names htail hK.2
    refine ⟨fun b hb n hn => ?_, hrest⟩
    rw [hb] at hb'
    exact hstarted n (hin n ((Option.some.inj hb') ▸ hn))

lemma ends_values {ψ : α → Prop} {p : HostFallible α} (h : Ends services links cond P p K X)
    (hp : Fallible.Ends ψ p) : Ends services links cond P p (fun a s => ψ a ∧ K a s) X := by
  refine triple_conseq (triple_ends h hp) (fun _ _ h => h) ?_
  rintro (_ | a) s - ⟨hr, h⟩
  · exact h
  · exact ⟨hr a rfl, h⟩

lemma fresh_ends {p : HostFallible α} (hp : p.run.Only Inspects) :
    Ends services links cond (Fresh R) p (fun _ => Fresh R) (Fresh R) :=
  ends_only hp fun _ _ _ _ ho hs h => fresh_kept ho hs h

lemma ends_pure {a : α} (h : ∀ s, P s → K a s) : Ends services links cond P (pure a) K X :=
  exits_pure stable_any fun s _ hs => h s hs

lemma ends_throw {message : String} (h : ∀ s, P s → X s) :
    Ends services links cond P (throw message) K X :=
  exits_throw stable_any fun s _ hs => h s hs

/-- What is true of a value may be used as it is. -/
lemma ends_given {ψ : Prop} {p : HostFallible α} (h : ψ → Ends services links cond P p K X) :
    Ends services links cond (fun s => ψ ∧ P s) p K X := triple_pre h

/-- The result is timed and returned. -/
lemma failure_ends (result : CommandResult) (err : String)
    (hP : ∀ s t r, P s → effect services links s .now r t → P t) :
    Triple (contract services links cond) () P (failure e result err) fun _ => P :=
  triple_bind contract_lawful (triple_eff (K := fun _ => P) fun s r t _ hs h _ => hP s t r hs h)
    fun _ => triple_pure stable_any fun _ _ h => h

/-! ### Backups -/

variable {payload : StackRestorePayload}

abbrev journalDirectory (e : Executor) (links : String → String) : String :=
  join (links e.stateDir) "restore-journals"

/-- The condition on a restore's effects. -/
abbrev RestoreKeeps (e : Executor) (links : String → String) (payload : StackRestorePayload)
    (s : State) (o : HostOp) (r : o.Res) (_ : State) : Prop :=
  JournalKeeps (journalDirectory e links) (journalPath e links payload) s o r

/-- The services are known and there is no journal yet. -/
def Unclaimed (names : List String) (path : String) (s : State) : Prop :=
  Listed names s ∧ s.files path = none

/-- Effects on files that move none. -/
def Still (o : HostOp) : Prop := Inspects o ∧ ∀ args, o ≠ .docker args

lemma still_of_looks (o : HostOp) (h : Looks o) : Still o := by
  refine ⟨inspects_of_looks o h, ?_⟩
  rintro args rfl
  exact h

lemma unclaimed_kept (ho : Still o) (hs : Unclaimed names path s)
    (h : effect services links s o r t) : Unclaimed names path t := by
  refine ⟨listed_kept ho.2 hs.1 h, ?_⟩
  rw [files_kept ho.1 h]
  exact hs.2

lemma unclaimed_ends {p : HostFallible α} (hp : p.run.Only Still) :
    Ends services links cond (Unclaimed names path) p (fun _ => Unclaimed names path)
      (Unclaimed names path) :=
  ends_only hp fun _ _ _ _ ho hs h => unclaimed_kept ho hs h

lemma ends_orElse {p : HostFallible α} {message : String}
    (hp : Ends services links cond P p K X) :
    Ends services links cond P (orElse p.run message) K X := by
  refine ends_bind (K := Exits K fun _ => X)
    (exits_lift contract_lawful (fun _ => stable_any) hp) fun r => ?_
  cases r with
  | ok a => exact ends_pure fun _ h => h
  | error e => exact ends_throw fun _ h => h

/-- A subdirectory is where the links of its root lead. -/
lemma secureSubdirectory_ends (root : String) (elements : List String) :
    Ends services links cond (Unclaimed names path) (secureSubdirectory root elements)
      (fun d s => d = elements.foldl join (links root) ∧ Unclaimed names path s)
      (Unclaimed names path) := by
  unfold secureSubdirectory
  refine ends_bind (unclaimed_ends (only_eff (still_of_looks _ (by trivial)))) fun _ => ?_
  refine ends_bind (K := fun d s => d = links root ∧ Unclaimed names path s) ?_ fun d =>
    ends_given fun hd => ?_
  · refine triple_conseq (triple_eff (o := .evalSymlinks root) (K := fun r t =>
      (∀ d, r = .ok d → d = links root) ∧ Unclaimed names path t) fun s r t _ hs h _ => ⟨h.2, ?_⟩) (fun _ _ h => h) ?_
    · exact unclaimed_kept (still_of_looks _ (by trivial)) hs h
    · rintro (_ | d) s - ⟨hd, hs⟩
      · exact hs
      · exact ⟨hd d rfl, hs⟩
  · subst hd
    exact ends_values (unclaimed_ends ((subdirectories_looks _ _).mono still_of_looks))
      (foldl_join_ends _ _)

/-- The journal is written, and any failure before leaves none. -/
lemma writeJournal_ends (c : Contents) (hpath : journalPath e links payload = path) :
    Ends services links (RestoreKeeps e links payload) (Unclaimed names path)
      (writeFileAtomically (journalDirectory e links) (journalName payload) c)
      (fun _ => Listed names) (Unclaimed names path) := by
  have hjoin : join (journalDirectory e links) (journalName payload) = path := hpath
  have hinner : Ends services links (RestoreKeeps e links payload) (Unclaimed names path) (do
      attempt (eff (.writeTemporary (journalDirectory e links) c))
      attempt (eff (.rename (join (journalDirectory e links) (journalName payload))))
      attempt (eff (.chmod (join (journalDirectory e links) (journalName payload))))
      attempt (eff (.syncDirectory (journalDirectory e links)))) (fun _ => Listed names)
      (Unclaimed names path) := by
    rw [hjoin]
    refine ends_bind (unclaimed_ends (only_eff (still_of_looks _ (by trivial)))) fun _ => ?_
    refine ends_bind (K := fun _ => Listed names) ?_ fun _ => ?_
    · refine triple_eff fun s r t _ hs h _ => ?_
      have hlisted : Listed names t := listed_kept (fun _ => by simp) hs.1 h
      rcases r with err | ⟨⟩
      · obtain ⟨⟨⟩, -⟩ | ⟨-, rfl⟩ := h
        exact hs
      · exact hlisted
    refine ends_bind (K := fun _ => Listed names) ?_ fun _ => ?_
    · refine triple_eff fun s r t _ hs h hcond => ?_
      rw [hcond hpath.symm]
      exact listed_kept (fun _ => by simp) hs h
    · refine triple_eff fun s r t _ hs h hcond => ?_
      rw [hcond rfl]
      exact listed_kept (fun _ => by simp) hs h
  unfold writeFileAtomically
  refine triple_bind contract_lawful hinner fun written => ?_
  refine triple_bind contract_lawful (triple_eff (K := fun _ => Exits (fun _ => Listed names)
    (fun _ => Unclaimed names path) written) fun s r t _ hs h _ => ?_) fun _ =>
      triple_pure stable_any fun _ _ h => h
  obtain rfl := h
  cases written <;> exact hs

/-- Nothing is read at the journal's path, and a journal is put there. -/
lemma claimJournal_ends :
    Ends services links (RestoreKeeps e links payload)
      (Unclaimed names (journalPath e links payload)) (claimJournal e payload)
      (fun p s => p = journalPath e links payload ∧ Listed names s)
      (Unclaimed names (journalPath e links payload)) := by
  have hread : ∀ path, (readRegularFile path).run.Only Still := by
    intro path
    refine only_bind (only_eff (still_of_looks _ (by trivial))) ?_
    rintro (_ | _ | _ | _)
    · trivial
    · exact only_bind (only_eff ⟨by trivial, fun _ => by simp⟩) fun _ => trivial
    · trivial
    · trivial
  unfold claimJournal
  refine ends_bind (ends_orElse (secureSubdirectory_ends _ _)) fun directory =>
    ends_given fun hdirectory => ?_
  obtain rfl : directory = journalDirectory e links := hdirectory
  refine ends_bind (unclaimed_ends (only_lift (hread _))) fun found => ?_
  split
  · refine ends_bind (unclaimed_ends (only_lift (only_eff (still_of_looks _ (by trivial)))))
      fun createdAt => ?_
    refine ends_bind (ends_orElse (writeJournal_ends _ rfl)) fun _ => ?_
    exact ends_pure fun s hs => ⟨rfl, hs⟩
  · exact ends_throw fun _ h => h

/-! ### Restores -/

/-- The services are known and something is being replaced. -/
def Replacing (services names : List String) (s : State) : Prop :=
  Known services names s ∧ s.docker.begun = true

lemma replacing_kept (hs : Replacing services names s) (h : effect services links s o r t) :
    Replacing services names t := ⟨known_kept hs.1 h, begun_lasts hs.2 h⟩

/-- The first command of a step that replaces something. -/
lemma ends_begins {args : List String} {message : String} (hbegins : begins args = true) :
    Ends services links cond (Known services names) (docker args message)
      (fun _ => Replacing services names) (Replacing services names) := by
  have hstep : ∀ s r t, Known services names s → effect services links s (.docker args) r t →
      Replacing services names t := by
    intro s r t hs h
    refine ⟨known_kept hs h, ?_⟩
    obtain ⟨d, hran, rfl⟩ := h
    refine hran.begun.trans ?_
    rw [hbegins, Bool.or_true]
  exact ends_docker (fun s r t _ hs h _ _ => hstep s r t hs h)
    fun s r t _ hs h _ _ => hstep s r t hs h

lemma restoreVolumes_ends (hostDirectory : String) (volumes : List ManifestVolume) :
    Ends services links cond (Known services names) (restoreVolumes e hostDirectory volumes)
      (fun _ => Known services names) (Replacing services names) := by
  induction volumes with
  | nil => exact ends_pure fun _ h => h
  | cons v vs ih =>
      unfold restoreVolumes
      refine ends_bind (exits_conseq (ends_begins ?_) (fun _ _ h => h)
        (fun _ _ _ h => h.1) fun _ _ _ h => h) fun _ => ih
      unfold begins
      rw [Bool.or_eq_true]
      left
      simp [helperArgs, destructive]

lemma restoreDatabases_ends {base : List String} (hbase : IsBase base)
    (hostDirectory projectName : String) (databases : List ManifestDatabase) :
    Ends services links cond (Known services names)
      (restoreDatabases base hostDirectory projectName databases)
      (fun _ => Known services names) (Replacing services names) := by
  induction databases with
  | nil => exact ends_pure fun _ h => h
  | cons d ds ih =>
      unfold restoreDatabases
      refine ends_bind (K := fun _ => Known services names) (ends_orElse ?_) fun _ => ih
      unfold restorePostgres
      refine ends_bind (ends_begins ?_) fun _ => ?_
      · rw [begins_base hbase]
        rfl
      · refine exits_conseq (ends_only (Prog.only_true _)
          fun _ _ _ _ _ hs h => replacing_kept hs h) (fun _ _ h => h) (fun _ _ _ h => h.1)
          fun _ _ _ h => h

/-- What replacing the data leaves: no journal, or one that is justified. -/
lemma replaceData_triple (c : Checked) (hbase : IsBase c.base) :
    Triple (contract services links (RestoreKeeps e links payload)) () (Known services names)
      (replaceData e payload c (journalPath e links payload)).run
      fun _ s => Known services names s ∧ Justified (journalPath e links payload) s := by
  have hend : Ends services links (RestoreKeeps e links payload) (Known services names)
      (replaceData e payload c (journalPath e links payload))
      (fun _ s => Known services names s ∧ Justified (journalPath e links payload) s)
      fun s => Known services names s ∧ Justified (journalPath e links payload) s := by
    unfold replaceData
    refine ends_bind (exits_conseq (restoreVolumes_ends _ _) (fun _ _ h => h)
      (fun _ _ _ h => h) fun _ _ _ h => ⟨h.1, fun _ => h.2⟩) fun _ => ?_
    refine ends_bind (exits_conseq (restoreDatabases_ends hbase _ _ _) (fun _ _ h => h)
      (fun _ _ _ h => h) fun _ _ _ h => ⟨h.1, fun _ => h.2⟩) fun _ => ?_
    refine ends_bind (K := fun _ s => Known services names s ∧
      Justified (journalPath e links payload) s) (exits_lift contract_lawful
        (fun _ => stable_any) (triple_eff fun s r t _ hs h hcond => ⟨known_kept hs h, ?_⟩))
      fun r => ?_
    · intro hfile
      obtain ⟨-, rfl⟩ | ⟨-, hnone, rfl⟩ | ⟨herr, rfl⟩ := h
      · simp [HostState.removed] at hfile
      · exact absurd hnone hfile
      · exact hcond rfl herr
    · split
      · exact ends_pure fun _ h => h
      · exact ends_throw fun _ h => h
  refine triple_conseq hend (fun _ _ h => h) ?_
  rintro (_ | _) s - h <;> exact h

/-- Before the stack is looked at there is no journal and nothing was replaced. -/
abbrev NoJournal (path : String) (files : String → Option Node) (begun : Bool) : Prop :=
  files path = none ∧ begun = false

lemma checkRestore_ends :
    Ends services links cond (Fresh (NoJournal path)) (checkRestore e payload)
      (fun c s => IsBase c.base ∧ Unclaimed c.running path s) (Fresh (NoJournal path)) := by
  unfold checkRestore
  refine ends_bind (ends_values (fresh_ends (prepareStack_inspects _ _ _ _))
    (prepareStack_base _ _ _ _)) fun base => ends_given fun hbase => ?_
  refine ends_bind (fresh_ends (backupRoots_inspects _)) fun roots => ?_
  dsimp only
  refine ends_bind (fresh_ends (only_orElse ((secureSubdirectory_looks _ _).mono
    inspects_of_looks) _)) fun directory => ?_
  refine ends_bind (fresh_ends (loadAndValidateManifest_inspects _ _)) fun manifest => ?_
  refine ends_bind (fresh_ends (resolveOwnedVolumes_inspects hbase _)) fun volumes => ?_
  refine ends_bind (fresh_ends trivial) fun _ => ?_
  refine ends_bind (runningServices_ends hbase) fun running => ?_
  exact ends_pure fun s hs => ⟨hbase, hs.1, hs.2.1⟩

/-- What is claimed of a state a restore ends in. -/
abbrev Restored (path : String) (s : State) : Prop := PutBack s.docker ∧ Justified path s

lemma restored_of_fresh (hs : Fresh (NoJournal path) s) : Restored path s := by
  obtain ⟨hbefore, hfile, -⟩ := hs
  refine ⟨fun b hb => ?_, fun h => absurd hfile h⟩
  rw [hbefore] at hb
  cases hb

lemma restored_of_unclaimed (hs : Unclaimed names path s) : Restored path s :=
  ⟨putBack_of_listed hs.1, fun h => absurd hs.2 h⟩

lemma restoreStack_ends :
    Ends services links (RestoreKeeps e links payload)
      (Fresh (NoJournal (journalPath e links payload))) (restoreStack e payload)
      (fun _ => Restored (journalPath e links payload))
      (Restored (journalPath e links payload)) := by
  unfold restoreStack
  refine ends_bind (exits_conseq checkRestore_ends (fun _ _ h => h) (fun _ _ _ h => h)
    fun _ _ _ h => restored_of_fresh h) fun c => ends_given fun hbase => ?_
  refine ends_bind (exits_conseq claimJournal_ends (fun _ _ h => h) (fun _ _ _ h => h)
    fun _ _ _ h => restored_of_unclaimed h) fun path => ends_given fun hpath => ?_
  subst hpath
  have htail : composeTail (c.base ++ ["stop"]) = some ["stop"] := composeTail_base hbase _
  refine ends_bind (K := fun _ => Known services c.running) (ends_docker
    (fun s r t hi hs h _ _ => known_kept (known_of_listed hi hs) h)
    fun s r t _ _ _ hcond herr => absurd (hcond htail) herr) fun _ => ?_
  refine ends_bind (K := fun _ s => Known services c.running s ∧
      Justified (journalPath e links payload) s)
    (exits_lift contract_lawful (fun _ => stable_any) (replaceData_triple c hbase))
    fun replaced => ?_
  refine ends_bind (K := fun _ => Restored (journalPath e links payload))
    (exits_lift contract_lawful (fun _ => stable_any) (restartServices_triple hbase ?_))
    fun _ => ?_
  · intro s args r t hs h hfile
    refine begun_lasts (hs ?_) h
    obtain ⟨d, -, rfl⟩ := h
    exact hfile
  · cases replaced with
    | ok _ => exact ends_pure fun _ h => h
    | error _ => exact ends_throw fun _ h => h

lemma executeStackRestore_triple (e : Executor) (links : String → String)
    (payload : StackRestorePayload) (digest : BackupManifest → String) (result : CommandResult) :
    Triple (contract services links (RestoreKeeps e links payload)) ()
      (Fresh (NoJournal (journalPath e links payload)))
      (executeStackRestore e digest result (.stackRestore payload))
      fun _ => Restored (journalPath e links payload) := by
  have hnow : ∀ s t (r : Time), Restored (journalPath e links payload) s →
      effect services links s .now r t → Restored (journalPath e links payload) t := by
    rintro s t r hs rfl
    exact hs
  unfold executeStackRestore
  split
  · exact triple_conseq (failure_ends result _ hnow) (fun _ _ h => restored_of_fresh h)
      fun _ _ _ h => h
  · next p hdecode =>
    obtain rfl : payload = p := Payload.stackRestore.inj (payload_of_decode hdecode)
    refine triple_bind contract_lawful restoreStack_ends ?_
    rintro (err | manifest)
    · exact failure_ends result err hnow
    · exact triple_bind contract_lawful (triple_eff (K := fun _ => Restored _)
        fun s r t _ hs h _ => hnow s t r hs h) fun _ => triple_pure stable_any fun _ _ h => h

/-! ### Whole commands -/

/-- A stack before a backup or a restore looks at it. -/
structure Before (services : List String) (s : State) : Prop where
  exist : ∀ n ∈ s.docker.running, n ∈ services
  before : s.docker.before = none
  begun : s.docker.begun = false

/-- The sample's Docker: one volume, and stops that all go as said. -/
def sampleDocker (services : List String) (stopError : Option String) (d : Docker)
    (args : List String) : RunResult × Docker :=
  let d' := { d with begun := d.begun || begins args }
  let text := "\n".intercalate d.running
  match composeTail args with
  | some ["stop"] => ({ err := stopError }, { d' with running := [] })
  | some ("start" :: names) =>
      if ∀ n ∈ names, n ∈ services then ({}, { d' with running := names ++ d.running })
      else ({ err := some "no such service" }, d')
  | some tail =>
      if tail = listing ∧ (∀ n ∈ nonemptyUniqueLines text, n ∈ d.running) ∧
          ∀ n ∈ d.running, n ∈ nonemptyUniqueLines text then
        ({ output := { stdout := text } },
          { d' with before := some (d.before.getD d.running) })
      else if tail = listing then ({ err := some "cannot be listed" }, d')
      else ({ output := { stdout := "data" } }, d')
  | none => ({ output := { stdout := "shop_data" } }, d')

def sampleAnswer (stopError : Option String) : HostAnswers Docker where
  docker := sampleDocker ["web"] stopError
  isDirectory := fun path => path = "/backups"
  checksum := fun _ => (7, sampleChecksum)

def sampleBackup : StackBackupPayload where
  backupId := sampleRestore.backupId
  stackId := sampleRestore.stackId
  projectName := sampleRestore.projectName
  revision := 1
  target := "local"
  stackPath := sampleRestore.stackPath
  composePath := sampleRestore.composePath
  postgres := none

def sampleResult : CommandResult := startedResult sampleCommand 1

end GatewayControl.StackServices
