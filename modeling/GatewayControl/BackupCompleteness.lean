import GatewayControl.BackupRuns
import Mathlib.Data.List.Dedup

/-!
What a successful stack backup leaves: a manifest that lists what Compose and Docker were read to
list, with the size and checksum of the files beside it.
-/

namespace GatewayControl.BackupCompleteness

open Text AgentTypes Programs Host StackRestore StackBackup LimitedOutput BackupRuns

variable {S : Setup} {α β : Type} {h h' : HostState Docker} {P : HostState Docker → Prop}
  {K : α → HostState Docker → Prop}

/-! ### Paths -/

lemma toList_join (d a : String) : ∃ front, (join d a).toList = front ++ '/' :: a.toList := by
  unfold join
  by_cases hd : d = "/"
  · refine ⟨[], ?_⟩
    rw [if_pos hd, String.toList_append]
    rfl
  · refine ⟨d.toList, ?_⟩
    rw [if_neg hd, String.toList_append, String.toList_append, List.append_assoc]
    rfl

def Element (a : String) : Prop := '/' ∉ a.toList

lemma takeWhile_element {a front : List Char} (ha : '/' ∉ a) :
    ((front ++ '/' :: a).reverse.takeWhile (· ≠ '/')) = a.reverse := by
  rw [List.reverse_append, List.reverse_cons, List.append_assoc,
    List.takeWhile_append_of_pos]
  · simp
  · intro c hc
    have hmem : c ∈ a := List.mem_reverse.mp hc
    simp only [ne_eq, decide_not, Bool.not_eq_true', decide_eq_false_iff_not]
    rintro rfl
    exact ha hmem

/-- A path tells its last element. -/
lemma join_element {d d' a a' : String} (ha : Element a) (ha' : Element a')
    (heq : join d a = join d' a') : a = a' := by
  obtain ⟨front, hfront⟩ := toList_join d a
  obtain ⟨front', hfront'⟩ := toList_join d' a'
  rw [heq, hfront'] at hfront
  have htake : (front' ++ '/' :: a'.toList).reverse.takeWhile (· ≠ '/') =
      (front ++ '/' :: a.toList).reverse.takeWhile (· ≠ '/') := by rw [hfront]
  rw [takeWhile_element ha, takeWhile_element ha'] at htake
  exact String.toList_injective (List.reverse_injective htake).symm

lemma element_append {a b : String} (ha : Element a) (hb : Element b) : Element (a ++ b) := by
  unfold Element
  rw [String.toList_append, List.mem_append, not_or]
  exact ⟨ha, hb⟩

lemma element_service {a : String} (ha : composeServicePattern a = true) : Element a := by
  unfold composeServicePattern identifierPattern at ha
  intro hmem
  split at ha
  · rename_i hnil
    rw [hnil] at hmem
    cases hmem
  · rename_i c cs hcons
    rw [hcons] at hmem
    simp only [Bool.and_eq_true, List.all_eq_true] at ha
    rcases List.mem_cons.mp hmem with rfl | hmem
    · exact absurd ha.1.1 (by decide)
    · exact absurd (ha.1.2 _ hmem) (by decide)

/-! ### Effects that leave a file alone -/

def Leaves (S : Setup) (path : String) : HostOp → Prop
  | .docker args => ¬ Touches S args path
  | .renameFile source destination => path ≠ source ∧ path ≠ destination
  | .remove p => path ≠ p
  | _ => True

lemma archives_of_leaves {path : String} {o : HostOp} {r : o.Res} (ho : Leaves S path o)
    (hexec : backupEffect S h o r h') : h'.docker.archives path = h.docker.archives path := by
  cases o with
  | docker args =>
      obtain ⟨d, hrun, rfl⟩ := hexec
      exact hrun.untouched path ho
  | checksum _ | now | evalSymlinks _ | lstat _ | readFile _ =>
      obtain ⟨rfl, -⟩ := hexec
      rfl
  | renameFile source destination =>
      rcases hexec with ⟨f, -, rfl⟩ | ⟨-, rfl⟩
      · simp only [Docker.moved]
        rw [Function.update_of_ne ho.1, Function.update_of_ne ho.2]
      · rfl
  | remove p =>
      rcases hexec with ⟨f, -, rfl⟩ | ⟨-, rfl⟩
      · exact Function.update_of_ne ho _ _
      · rfl
  | writeTemporary _ _ =>
      rcases hexec with ⟨-, rfl⟩ | ⟨-, rfl⟩ <;> rfl
  | rename _ =>
      rcases hexec with ⟨-, rfl⟩ | ⟨-, rfl⟩
      · unfold HostState.renamed
        split <;> rfl
      · rfl
  | removeTemporary =>
      obtain rfl := hexec
      rfl
  | mkdirAll _ | mkdir _ | chmod _ | syncDirectory _ | composePath _ | validateArchive _
  | probe _ | waitSecond | contextError | identity =>
      obtain rfl := hexec
      rfl

/-- At a path there is a file with that size and checksum, and more may be known of it. -/
def Stored (S : Setup) (path : String) (x : Int × String) (φ : BackupFile → Prop)
    (s : HostState Docker) : Prop :=
  ∃ f, s.docker.archives path = some f ∧ x = S.measure f ∧ φ f

lemma gives_stored {path : String} {x : Int × String} {φ : BackupFile → Prop}
    {p : HostFallible α} (h : Gives S P p K) (hp : p.run.Only (Leaves S path)) :
    Gives S (fun s => P s ∧ Stored S path x φ s) p fun a s => K a s ∧ Stored S path x φ s := by
  refine tri_frame h hp stable_any fun s o r t ho _ hs hexec => ?_
  obtain ⟨f, hf, hx⟩ := hs
  exact ⟨f, (archives_of_leaves ho hexec).trans hf, hx⟩

lemma touches_helper {volume directory archive path : String}
    (ht : Touches S (helperArgs S.e "backup" volume directory archive) path) :
    ∃ d, path = join d archive := by
  rcases ht with ⟨v, d, a, heq, rfl⟩ | ⟨source, heq⟩
  · have hlast := congrArg List.getLast? heq
    simp only [helperArgs, List.getLast?_cons_cons, List.getLast?_singleton,
      Option.some.injEq] at hlast
    exact ⟨_, by rw [hlast]⟩
  · simp [helperArgs] at heq

lemma touches_compose {rest : List String} {path : String} :
    ¬ Touches S ("compose" :: rest) path := by
  rintro (⟨v, d, a, heq, -⟩ | ⟨source, heq⟩)
  · simp [helperArgs] at heq
  · simp at heq

/-! ### Volumes Compose and Docker list -/

def volumeListing (projectName logical : String) : List String :=
  ["volume", "ls", "--quiet", "--filter", "label=com.docker.compose.project=" ++ projectName,
    "--filter", "label=com.docker.compose.volume=" ++ logical]

def volumeLabels (name : String) : List String :=
  ["volume", "inspect", "--format", "\x7b\x7bjson .Labels\x7d\x7d", name]

/-- The lines of a listing as the agent reads them. -/
def linesRead (S : Setup) (a : Asked) : List String :=
  nonemptyUniqueLines (received S.maxOutput a.stdout)

/-- One volume is listed for the logical name, and labelled so. -/
structure Owned (S : Setup) (projectName : String) (v : String × String)
    (s : HostState Docker) : Prop where
  logical : composeServicePattern v.1 = true
  name : dockerObjectNamePattern v.2 = true
  listed : ∃ a ∈ s.docker.log, a.args = volumeListing projectName v.1 ∧ linesRead S a = [v.2]
  labelled : ∃ a ∈ s.docker.log, a.args = volumeLabels v.2 ∧
    ownedLabels S.e projectName v.1 (received S.maxOutput a.stdout) = true

lemma lasting_owned (projectName : String) (v : String × String) :
    Lasting S (Owned S projectName v) := by
  intro s o r t h hexec
  exact ⟨h.logical, h.name, lasting_logged _ s o r t h.listed hexec,
    lasting_logged _ s o r t h.labelled hexec⟩

lemma lasting_all {γ : Type} {l : List γ} {P : γ → HostState Docker → Prop}
    (h : ∀ c, Lasting S (P c)) : Lasting S fun s => ∀ c ∈ l, P c s :=
  fun s o r t hs hexec c hc => h c s o r t (hs c hc) hexec

lemma gives_ask {args : List String} : Gives S (fun _ => True) (lift (eff (.docker args)))
    fun r s => ∃ a ∈ s.docker.log, a.args = args ∧
      r.output.stdout = received S.maxOutput a.stdout := by
  refine gives_eff fun s r t _ hexec => ?_
  obtain ⟨d, hrun, rfl⟩ := hexec
  obtain ⟨stdout, stderr, hout, -, hlog⟩ := hrun.printed
  exact ⟨⟨args, stdout, stderr⟩, by simp [hlog], rfl, hout⟩

lemma resolveVolume_gives (projectName logical : String) : Gives S (fun _ => True)
    (resolveVolume S.e projectName logical)
    fun v s => v.1 = logical ∧ Owned S projectName v s := by
  unfold resolveVolume
  split_ifs with hlogical
  · exact gives_throw
  · rw [Bool.not_eq_true, Bool.not_eq_false'] at hlogical
    refine gives_bind gives_ask fun listed => ?_
    split
    · rename_i name _ hlines
      split_ifs with hname
      · exact gives_throw
      · rw [Bool.not_eq_true, Bool.not_eq_false'] at hname
        refine gives_bind (gives_conseq (gives_lasting (lasting_logged _) gives_ask)
          (fun _ h => ⟨trivial, h⟩) fun _ _ h => h) fun inspected => ?_
        split_ifs with hlabels
        · rw [Bool.and_eq_true] at hlabels
          refine gives_pure fun s hs => ⟨rfl, hlogical, hname, ?_, ?_⟩
          · obtain ⟨-, a, ha, hargs, hout⟩ := hs
            exact ⟨a, ha, hargs, by rw [linesRead, ← hout, hlines]⟩
          · obtain ⟨⟨a, ha, hargs, hout⟩, -⟩ := hs
            exact ⟨a, ha, hargs, by rw [← hout]; exact hlabels.2⟩
        · exact gives_throw
    · exact gives_throw

lemma resolveVolumes_gives (projectName : String) (names : List String) :
    Gives S (fun _ => True) (resolveVolumes S.e projectName names)
      fun vs s => vs.map (·.1) = names ∧ ∀ v ∈ vs, Owned S projectName v s := by
  induction names with
  | nil => exact gives_pure fun _ _ => ⟨rfl, fun v hv => by cases hv⟩
  | cons logical rest ih =>
    refine gives_bind (resolveVolume_gives projectName logical) fun v => ?_
    refine gives_bind (K := fun vs s => (vs.map (·.1) = rest ∧
      ∀ v ∈ vs, Owned S projectName v s) ∧ v.1 = logical ∧ Owned S projectName v s) ?_
      fun vs => gives_pure fun s hs => ?_
    · refine gives_conseq (gives_lasting ?_ ih) (fun _ h => ⟨trivial, h⟩) fun _ _ h => h
      exact fun s o r t hs hexec => ⟨hs.1, lasting_owned projectName v s o r t hs.2 hexec⟩
    · obtain ⟨⟨hmap, hall⟩, hv, howned⟩ := hs
      refine ⟨by rw [List.map_cons, hmap, hv], fun w hw => ?_⟩
      rcases List.mem_cons.mp hw with rfl | hw
      · exact howned
      · exact hall w hw

/-- The stack's volumes, as Compose and Docker are read to list them. -/
structure Listed (S : Setup) (base : List String) (projectName : String)
    (vs : List (String × String)) (s : HostState Docker) : Prop where
  names : ∃ a ∈ s.docker.log, a.args = base ++ ["config", "--volumes"] ∧
    vs.map (·.1) = linesRead S a
  few : vs.length ≤ 1000
  owned : ∀ v ∈ vs, Owned S projectName v s

lemma lasting_listed (base : List String) (projectName : String) (vs : List (String × String)) :
    Lasting S (Listed S base projectName vs) := by
  intro s o r t h hexec
  exact ⟨lasting_logged _ s o r t h.names hexec, h.few,
    lasting_all (lasting_owned projectName) s o r t h.owned hexec⟩

lemma resolveOwnedVolumes_gives (base : List String) (projectName : String) :
    Gives S (fun _ => True) (resolveOwnedVolumes S.e base projectName)
      fun vs => Listed S base projectName vs := by
  unfold resolveOwnedVolumes
  refine gives_bind (gives_docker fun _ _ _ _ _ _ => trivial) fun output => ?_
  dsimp only
  split_ifs with hmany
  · exact gives_throw
  · refine gives_conseq (gives_lasting (lasting_logged _) (resolveVolumes_gives _ _))
      (fun _ h => ⟨trivial, h.2⟩) fun vs s hs => ?_
    obtain ⟨⟨hmap, howned⟩, a, ha, hargs, hout⟩ := hs
    refine ⟨⟨a, ha, hargs, by rw [hmap, hout]; rfl⟩, ?_, howned⟩
    rw [← List.length_map (f := (·.1)), hmap]
    omega

/-! ### What is settled before the stack is stopped -/

def backupRoot (e : Executor) (target : String) : String :=
  if target = "local" then e.localBackupRoot else e.nasBackupRoot

def hostBackupRoot (e : Executor) (target : String) : String :=
  if target = "local" then e.hostLocalBackupRoot else e.hostNASBackupRoot

/-- The backup's directory below a root. -/
def backupDirectory (root : String) (payload : StackBackupPayload) : String :=
  [toLower payload.stackId, toLower payload.backupId].foldl join root

structure Settled (S : Setup) (payload : StackBackupPayload) (p : Prepared)
    (s : HostState Docker) : Prop where
  base : ∃ rest, p.base = "compose" :: rest
  listed : Listed S p.base payload.projectName p.volumes s
  clock : p.createdAt ≠ 0
  destination : p.destination =
    backupDirectory (S.links (backupRoot S.e payload.target)) payload
  hostDestination : p.hostDestination =
    backupDirectory (hostBackupRoot S.e payload.target) payload
  some : p.volumes = [] → payload.postgres ≠ none

lemma lasting_settled (payload : StackBackupPayload) (p : Prepared) :
    Lasting S (Settled S payload p) :=
  fun s o r t h hexec => { h with listed := lasting_listed _ _ _ s o r t h.listed hexec }

lemma gives_ends {ψ : α → Prop} {p : HostFallible α} (h : Gives S P p K) (hp : p.Ends ψ) :
    Gives S P p fun a s => ψ a ∧ K a s :=
  tri_ends h hp

lemma ends_orElse {ψ : α → Prop} {p : HostProg (Except String α)} {e : String}
    (hp : p.Ends fun r => ∀ a, r = .ok a → ψ a) : (orElse p e).Ends ψ := by
  unfold orElse
  refine Fallible.Ends.bind (ψ := fun r => ∀ a, r = .ok a → ψ a) ?_ fun r hr => ?_
  · exact Prog.Ends.bind hp fun r hr => Fallible.ends_pure hr
  · cases r with
    | ok a => exact Fallible.ends_pure (hr a rfl)
    | error e => exact Fallible.ends_throw _

lemma prepareStack_ends (stackId stackPath composePath projectName : String) :
    (prepareStack stackId stackPath composePath projectName).Ends
      fun base => ∃ rest, base = "compose" :: rest := by
  unfold prepareStack
  split_ifs
  · exact Fallible.ends_throw _
  · refine Fallible.Ends.bind (Fallible.ends_true _) fun x _ => ?_
    exact Fallible.Ends.bind (Fallible.ends_true _) fun _ _ => Fallible.ends_pure ⟨_, rfl⟩

lemma backupRoots_ends (e : Executor) (target : String) : (backupRoots e target).Ends
    fun roots => roots = (backupRoot e target, hostBackupRoot e target) := by
  unfold backupRoots backupRoot hostBackupRoot
  split_ifs
  · refine Fallible.Ends.bind (Fallible.ends_true _) fun _ _ => ?_
    refine Fallible.Ends.bind (Fallible.ends_true _) fun r _ => ?_
    split
    · exact Fallible.ends_pure rfl
    · exact Fallible.ends_throw _
  · refine Fallible.Ends.bind (Fallible.ends_true _) fun r _ => ?_
    split
    · refine Fallible.Ends.bind (Fallible.ends_true _) fun r _ => ?_
      split
      · exact Fallible.ends_pure rfl
      · exact Fallible.ends_throw _
    · exact Fallible.ends_throw _

lemma subdirectories_ends (elements : List String) (directory : String) :
    (subdirectories directory elements).Ends (· = elements.foldl join directory) := by
  induction elements generalizing directory with
  | nil => exact Fallible.ends_pure rfl
  | cons element elements ih =>
    unfold subdirectories
    split_ifs
    · exact Fallible.ends_throw _
    · refine Fallible.Ends.bind (Fallible.ends_true _) fun _ _ => ?_
      exact Fallible.Ends.bind (Fallible.ends_true _) fun _ _ => ih _

/-- What is known of a value is known from there on, and what lasts still holds. -/
lemma bind_known {ψ : α → Prop} {p : HostFallible α} {f : α → HostFallible β}
    {K : β → HostState Docker → Prop} (hP : Lasting S P)
    (hp : Gives S (fun _ => True) p fun a _ => ψ a) (hf : ∀ a, ψ a → Gives S P (f a) K) :
    Gives S P (p >>= f) K := by
  refine gives_bind (gives_conseq (gives_lasting hP hp) (fun _ h => ⟨trivial, h⟩)
    fun _ _ h => h) fun a => ?_
  exact triple_pre (hf a)

lemma bind_ends {ψ : α → Prop} {p : HostFallible α} {f : α → HostFallible β}
    {K : β → HostState Docker → Prop} (hP : Lasting S P) (hp : p.Ends ψ)
    (hf : ∀ a, ψ a → Gives S P (f a) K) : Gives S P (p >>= f) K :=
  bind_known hP (gives_conseq (gives_ends (gives_trivial p) hp) (fun _ h => h)
    fun _ _ h => h.1) hf

lemma lasting_true : Lasting S fun _ => True := fun _ _ _ _ _ _ => trivial

lemma secureSubdirectory_gives (root : String) (elements : List String) :
    Gives S (fun _ => True) (secureSubdirectory root elements)
      fun d _ => d = elements.foldl join (S.links root) := by
  unfold secureSubdirectory
  refine gives_bind (gives_trivial _) fun _ => ?_
  refine bind_known (ψ := fun d => d = S.links root) lasting_true ?_ ?_
  · refine triple_perform stable_any (fun _ => stable_any) (fun _ _ _ => trivial) ?_
    rintro s (e | d) t - - ⟨-, hr⟩
    · exact ⟨trivial, fun j hj => absurd rfl hj, trivial⟩
    · exact ⟨trivial, fun j hj => absurd rfl hj, hr d rfl⟩
  · rintro resolved rfl
    exact gives_conseq (gives_ends (gives_trivial _) (subdirectories_ends elements _))
      (fun _ h => h) fun _ _ h => h.1

/-- A program replaces its errors, and gives the same. -/
lemma gives_replaced {p : HostFallible α} {e : String} (hp : Gives S P p K) :
    Gives S P (orElse p.run e) K := by
  refine tri_catch contract_lawful (fun _ => stable_any) hp (fun a => ?_) fun _ => gives_throw
  exact gives_pure fun _ h => h

lemma prepareBackup_gives (payload : StackBackupPayload) : Gives S (fun _ => True)
    (prepareBackup S.e payload) fun p s => Settled S payload p s := by
  unfold prepareBackup
  refine bind_ends lasting_true (prepareStack_ends _ _ _ _) fun base hbase => ?_
  refine gives_bind (resolveOwnedVolumes_gives base payload.projectName) fun volumes => ?_
  split_ifs with hnone
  · exact gives_throw
  have hlast := lasting_listed (S := S) base payload.projectName volumes
  refine bind_ends hlast (backupRoots_ends S.e payload.target) ?_
  rintro _ rfl
  refine bind_known hlast (gives_replaced (secureSubdirectory_gives _ _)) ?_
  rintro destination hdestination
  refine bind_known (ψ := fun now : Time => now ≠ 0) hlast
    (gives_eff fun s r t _ hexec => hexec.2) fun createdAt hclock => ?_
  refine bind_ends hlast (Fallible.ends_true _) fun running _ => ?_
  refine gives_pure fun s hs => ⟨hbase, hs, hclock, hdestination, rfl, fun hempty hpostgres => ?_⟩
  exact hnone ⟨by simpa using hempty, by simp [hpostgres]⟩

/-! ### The archives -/

/-- Where the agent's directory is the one the helper writes to, the helper has made the file. -/
def Made (S : Setup) (destination hostDestination archive : String) (f : BackupFile) : Prop :=
  S.shared hostDestination = destination → ∃ stored, f = .archive stored ∧ Created archive stored

/-- The archive of a manifest volume is beside the manifest. -/
structure Archived (S : Setup) (destination hostDestination : String) (v : ManifestVolume)
    (s : HostState Docker) : Prop where
  name : v.archiveName = v.logicalName ++ ".tar.gz"
  stored : Stored S (join destination v.archiveName) (v.sizeBytes, v.sha256)
    (Made S destination hostDestination v.archiveName) s

lemma docker_only {φ : HostOp → Prop} {args : List String} {message : String}
    (ho : φ (.docker args)) : (docker args message).run.Only φ := by
  refine only_bind (only_lift (only_eff ho)) fun r => ?_
  split_ifs <;> trivial

lemma element_archive {logical : String} (h : composeServicePattern logical = true) :
    Element (logical ++ ".tar.gz") :=
  element_append (element_service h) (by unfold Element; decide)

lemma archive_injective {a b : String} (h : a ++ ".tar.gz" = b ++ ".tar.gz") : a = b := by
  have hlist := congrArg String.toList h
  rw [String.toList_append, String.toList_append] at hlist
  exact String.toList_injective (List.append_cancel_right hlist)

lemma backupVolumes_only {destination hostDestination path : String}
    (l : List (String × String))
    (hpath : ∀ v ∈ l, ∀ d, path ≠ join d (v.1 ++ ".tar.gz")) :
    (backupVolumes S.e destination hostDestination l).run.Only (Leaves S path) := by
  induction l with
  | nil => trivial
  | cons v l ih =>
    obtain ⟨logical, name⟩ := v
    refine only_bind (docker_only fun ht => ?_) fun _ => ?_
    · obtain ⟨d, hd⟩ := touches_helper ht
      exact hpath _ List.mem_cons_self d hd
    refine only_bind (only_orElse (only_eff trivial) _) fun measured => ?_
    exact only_bind (ih fun v hv => hpath v (List.mem_cons_of_mem _ hv)) fun _ => trivial

lemma helper_gives (destination : String) {name hostDestination archive message : String} :
    Gives S (fun _ => True)
      (docker (helperArgs S.e "backup" name hostDestination archive) message)
      fun _ s => S.shared hostDestination = destination →
        ∃ stored, s.docker.archives (join destination archive) = some (.archive stored) ∧
          Created archive stored := by
  refine gives_bind (K := fun r s => r.err = none → S.shared hostDestination = destination →
    ∃ stored, s.docker.archives (join destination archive) = some (.archive stored) ∧
      Created archive stored) (gives_eff fun s r t _ hexec => ?_) fun r => ?_
  · obtain ⟨d, hrun, rfl⟩ := hexec
    rintro herr rfl
    exact hrun.created herr _ _ _ rfl
  · split_ifs with hr
    · exact gives_pure fun s hs => hs (Option.isNone_iff_eq_none.mp hr)
    · exact gives_throw

/-- What is measured is stored, with all that is known of the file. -/
lemma measure_gives {path message : String} {φ : BackupFile → Prop}
    (hφ : ∀ s f, P s → s.docker.archives path = some f → φ f) :
    Gives S P (orElse (eff (.checksum path)) message) fun x s => Stored S path x φ s := by
  refine gives_conseq (gives_orElse (K := fun (r : Except String (Int × String)) s =>
    ∀ x, r = .ok x → Stored S path x φ s) (gives_eff (o := .checksum path) ?_)) (fun _ h => h)
    fun x s h => h x rfl
  rintro s r t hs ⟨rfl, hr⟩ x hx
  obtain ⟨f, hf, hm⟩ := hr x hx
  exact ⟨f, hf, hm, hφ _ f hs hf⟩

lemma backupVolumes_gives (destination hostDestination : String) (l : List (String × String))
    (hnames : (l.map (·.1)).Nodup) (hservice : ∀ v ∈ l, composeServicePattern v.1 = true) :
    Gives S (fun _ => True) (backupVolumes S.e destination hostDestination l)
      fun vs s => vs.map (fun v => (v.logicalName, v.dockerName)) = l ∧
        ∀ v ∈ vs, Archived S destination hostDestination v s := by
  induction l with
  | nil => exact gives_pure fun _ _ => ⟨rfl, fun v hv => by cases hv⟩
  | cons v l ih =>
    obtain ⟨logical, name⟩ := v
    rw [List.map_cons, List.nodup_cons] at hnames
    have hlogical := hservice _ List.mem_cons_self
    refine gives_bind (helper_gives destination) fun _ => ?_
    refine gives_bind (measure_gives (φ := Made S destination hostDestination
      (logical ++ ".tar.gz")) fun s f hs hf hshared => ?_) fun x => ?_
    · obtain ⟨stored, hstored, hcreated⟩ := hs hshared
      rw [hstored] at hf
      exact ⟨stored, (Option.some.inj hf).symm, hcreated⟩
    obtain ⟨size, checksum⟩ := x
    refine gives_bind (gives_conseq (gives_stored
      (ih hnames.2 fun v hv => hservice v (List.mem_cons_of_mem _ hv))
      (backupVolumes_only l fun v hv d heq => ?_)) (fun _ h => ⟨trivial, h⟩) fun _ _ h => h)
      fun vs => gives_pure fun s hs => ?_
    · have helement := element_archive (hservice v (List.mem_cons_of_mem _ hv))
      have hsame := join_element (element_archive hlogical) helement heq
      exact hnames.1 (archive_injective hsame ▸ List.mem_map_of_mem hv)
    · obtain ⟨⟨hmap, hall⟩, hstored⟩ := hs
      refine ⟨by rw [List.map_cons, hmap], fun w hw => ?_⟩
      rcases List.mem_cons.mp hw with rfl | hw
      · exact ⟨rfl, hstored⟩
      · exact hall w hw

/-! ### The database -/

def databaseOf (config : PostgresBackupConfig) (x : Int × String) : ManifestDatabase :=
  ⟨"postgresql", config.service, config.database, config.user, dumpName config, x.1, x.2⟩

/-- The dump of a manifest database is beside the manifest. -/
def Dumped (S : Setup) (destination : String) (d : ManifestDatabase) (s : HostState Docker) :
    Prop :=
  Stored S (join destination d.archiveName) (d.sizeBytes, d.sha256) (fun _ => True) s

/-- A deferred step that leaves a file alone takes nothing of it back. -/
lemma ensure_gives {p : HostFallible α} {deferred : Except String α → HostProg Unit}
    (hp : Gives S P p K)
    (hd : ∀ a, Triple (contract S) () (K a) (deferred (.ok a)) fun _ => K a) :
    Gives S P (ensure p deferred) K := by
  unfold ensure
  refine tri_catch contract_lawful (fun _ => stable_any) hp (fun a => ?_) fun e => ?_
  · exact gives_bind (tri_lift contract_lawful (fun _ => stable_any) (hd a))
      fun _ => gives_pure fun _ h => h
  · refine gives_bind (gives_trivial _) fun _ => ?_
    exact gives_throw

lemma element_dump {config : PostgresBackupConfig} (h : composeServicePattern config.service) :
    Element (dumpName config) :=
  element_append (element_append (by unfold Element; decide) (element_service h))
    (by unfold Element; decide)

lemma element_temporary {config : PostgresBackupConfig}
    (h : composeServicePattern config.service) : Element ("." ++ dumpName config ++ ".tmp") :=
  element_append (element_append (by unfold Element; decide) (element_dump h))
    (by unfold Element; decide)

lemma dump_ne_temporary (destination : String) {config : PostgresBackupConfig}
    (h : composeServicePattern config.service) :
    join destination (dumpName config) ≠ temporaryDump destination config := by
  intro heq
  have hname := congrArg String.toList
    (join_element (element_dump h) (element_temporary h) heq)
  unfold dumpName at hname
  simp [String.toList_append] at hname

lemma publishDump_gives {rest : List String} (destination : String)
    {config : PostgresBackupConfig} : Gives S (fun _ => True)
    (publishDump ("compose" :: rest) destination config)
    fun x s => Stored S (join destination (dumpName config)) x (fun _ => True) s := by
  refine gives_bind (gives_trivial _) fun _ => ?_
  refine gives_bind (measure_gives fun _ _ _ _ => trivial) fun x => ?_
  refine gives_bind (gives_conseq (gives_stored (gives_trivial _)
    (docker_only (φ := Leaves S _) touches_compose)) (fun _ h => ⟨trivial, h⟩)
    fun _ _ h => h.2) fun _ => gives_pure fun _ h => h

lemma dumpDatabase_gives {rest : List String} {backupId projectName : String}
    (destination : String) {config : PostgresBackupConfig}
    (hservice : composeServicePattern config.service) : Gives S (fun _ => True)
    (dumpDatabase ("compose" :: rest) backupId projectName destination config)
    fun x s => Stored S (join destination (dumpName config)) x (fun _ => True) s := by
  refine gives_bind (gives_trivial _) fun _ => gives_bind (gives_trivial _) fun _ => ?_
  refine gives_bind (gives_trivial _) fun _ => gives_bind (gives_trivial _) fun _ => ?_
  refine ensure_gives (publishDump_gives destination) fun x => ?_
  refine triple_perform stable_any (fun _ => stable_any) (fun _ _ _ => trivial) ?_
  rintro s r t - ⟨f, hf, hx⟩ hexec
  have hkept := archives_of_leaves (S := S) (o := .remove (temporaryDump destination config))
    (r := r) (dump_ne_temporary destination hservice) hexec
  exact ⟨trivial, fun j hj => absurd rfl hj, f, hkept.trans hf, hx⟩

lemma backupPostgres_gives {rest : List String} {backupId projectName : String}
    (destination : String) {config : PostgresBackupConfig} : Gives S (fun _ => True)
    (backupPostgres ("compose" :: rest) backupId projectName destination config)
    fun d s => (validPostgres config ∧ ∃ x, d = databaseOf config x) ∧
      Dumped S destination d s := by
  unfold backupPostgres
  split_ifs with hvalid
  · exact gives_throw
  rw [Bool.not_eq_true, Bool.not_eq_false'] at hvalid
  have hservice : composeServicePattern config.service := by
    unfold validPostgres at hvalid
    simp only [Bool.and_eq_true] at hvalid
    exact hvalid.1.1
  refine gives_bind (gives_trivial _) fun _ => ?_
  refine gives_bind (ensure_gives (dumpDatabase_gives destination hservice) fun x => ?_)
    fun x => gives_pure fun s hs => ⟨⟨hvalid, x, rfl⟩, hs⟩
  exact triple_pure stable_any fun _ _ h => h

/-! ### The command -/

/-- The databases of the manifest are what the payload asks for. -/
def databasesOf (payload : StackBackupPayload) (ds : List ManifestDatabase) : Prop :=
  match payload.postgres with
  | none => ds = []
  | some config => validPostgres config ∧ ∃ x, ds = [databaseOf config x]

lemma backupDatabases_gives {base : List String} (hbase : ∃ rest, base = "compose" :: rest)
    (payload : StackBackupPayload) (destination : String) : Gives S (fun _ => True)
    (backupDatabases base payload destination)
    fun ds s => databasesOf payload ds ∧ ∀ d ∈ ds, Dumped S destination d s := by
  obtain ⟨rest, rfl⟩ := hbase
  unfold backupDatabases databasesOf
  cases payload.postgres with
  | none => exact gives_pure fun _ _ => ⟨rfl, fun d hd => by cases hd⟩
  | some config =>
      refine gives_bind (backupPostgres_gives destination) fun d => gives_pure fun s hs => ?_
      obtain ⟨⟨hvalid, x, rfl⟩, hd⟩ := hs
      exact ⟨⟨hvalid, x, rfl⟩, fun d' hd' => List.mem_singleton.mp hd' ▸ hd⟩

/-- What the files beside the manifest are, and what the manifest says of them. -/
structure Written (S : Setup) (payload : StackBackupPayload) (p : Prepared)
    (m : BackupManifest) (s : HostState Docker) : Prop where
  manifest : m = manifestOf payload p.createdAt m.volumes m.databases
  volumes : m.volumes.map (fun v => (v.logicalName, v.dockerName)) = p.volumes
  archived : ∀ v ∈ m.volumes, Archived S p.destination p.hostDestination v s
  databases : databasesOf payload m.databases
  dumped : ∀ d ∈ m.databases, Dumped S p.destination d s

lemma written_of_leaves {payload : StackBackupPayload} {p : Prepared} {m : BackupManifest}
    {o : HostOp} {r : o.Res} (ho : ∀ path, Leaves S path o) (hw : Written S payload p m h)
    (hexec : backupEffect S h o r h') : Written S payload p m h' := by
  have hstored : ∀ path x φ, Stored S path x φ h → Stored S path x φ h' := by
    rintro path x φ ⟨f, hf, hx⟩
    exact ⟨f, (archives_of_leaves (ho path) hexec).trans hf, hx⟩
  exact ⟨hw.manifest, hw.volumes,
    fun v hv => ⟨(hw.archived v hv).name, hstored _ _ _ (hw.archived v hv).stored⟩,
    hw.databases, fun d hd => hstored _ _ _ (hw.dumped d hd)⟩

lemma dump_ne_archive (a : String) (config : PostgresBackupConfig) :
    dumpName config ≠ a ++ ".tar.gz" := by
  intro heq
  have hlast : (dumpName config).toList.reverse.head? = (a ++ ".tar.gz").toList.reverse.head? := by
    rw [heq]
  unfold dumpName at hlast
  simp [String.toList_append] at hlast

lemma databases_leave {payload : StackBackupPayload} {ds : List ManifestDatabase}
    (hds : databasesOf payload ds) {d : ManifestDatabase} (hd : d ∈ ds) {logical : String}
    (hlogical : composeServicePattern logical = true) {destination d' : String} :
    join destination d.archiveName ≠ join d' (logical ++ ".tar.gz") := by
  unfold databasesOf at hds
  split at hds
  · rw [hds] at hd
    cases hd
  · obtain ⟨hvalid, x, rfl⟩ := hds
    obtain rfl := List.mem_singleton.mp hd
    unfold validPostgres at hvalid
    simp only [Bool.and_eq_true] at hvalid
    intro heq
    exact dump_ne_archive _ _
      (join_element (element_dump hvalid.1.1) (element_archive hlogical) heq)

lemma writeFileAtomically_only {φ : HostOp → Prop} {directory name : String}
    {contents : Contents} (hφ : φ (.writeTemporary directory contents) ∧
      φ (.rename (join directory name)) ∧ φ (.chmod (join directory name)) ∧
      φ (.syncDirectory directory) ∧ φ .removeTemporary) :
    (writeFileAtomically directory name contents).run.Only φ := by
  obtain ⟨hwrite, hrename, hchmod, hsync, hremove⟩ := hφ
  refine Prog.Only.bind (only_bind (only_eff hwrite) fun _ => only_bind (only_eff hrename)
    fun _ => only_bind (only_eff hchmod) fun _ => only_eff hsync) fun _ => ?_
  exact Prog.Only.bind (only_eff hremove) fun _ => trivial

lemma gives_attempt {p : HostProg (Except String Unit)} {K : HostState Docker → Prop}
    (hp : Triple (contract S) () P p fun r s => r = .ok () → K s) :
    Gives S P (attempt p) fun _ s => K s := by
  refine triple_conseq hp (fun _ _ h => h) ?_
  rintro (e | a) s - hr
  · trivial
  · exact hr rfl

lemma gives_step {o : HostOp} {K : o.Res → HostState Docker → Prop}
    (hstep : ∀ s r t, P s → backupEffect S s o r t → K r t) :
    Triple (contract S) () P (eff o) K := by
  refine triple_perform stable_any (fun _ => stable_any) (fun _ _ _ => trivial) ?_
  exact fun s r t _ hs hexec => ⟨trivial, fun j hj => absurd rfl hj, hstep s r t hs hexec⟩

/-- A file that is written is there. -/
lemma writeFileAtomically_gives (directory name : String) (contents : Contents) :
    Gives S (fun _ => True) (writeFileAtomically directory name contents)
      fun _ s => s.files (join directory name) = some (.regular contents) := by
  have hinner : Gives S (fun _ => True) (do
      attempt (eff (.writeTemporary directory contents))
      attempt (eff (.rename (join directory name)))
      attempt (eff (.chmod (join directory name)))
      attempt (eff (.syncDirectory directory)))
      fun _ s => s.files (join directory name) = some (.regular contents) := by
    refine gives_bind (K := fun _ s => s.temporary = some contents)
      (gives_attempt (gives_step ?_)) fun _ => ?_
    · rintro s r t - (⟨rfl, rfl⟩ | ⟨⟨e, rfl⟩, rfl⟩) hr
      · rfl
      · cases hr
    refine gives_bind (K := fun _ s => s.files (join directory name) = some (.regular contents))
      (gives_attempt (gives_step ?_)) fun _ => ?_
    · rintro s r t hs (⟨rfl, rfl⟩ | ⟨⟨e, rfl⟩, rfl⟩) hr
      · unfold HostState.renamed
        rw [hs]
        exact Function.update_self _ _ _
      · cases hr
    refine gives_bind (K := fun _ s => s.files (join directory name) = some (.regular contents))
      (gives_attempt (gives_step ?_)) fun _ => gives_attempt (gives_step ?_)
    · rintro s r t hs rfl -
      exact hs
    · rintro s r t hs rfl -
      exact hs
  refine triple_bind contract_lawful hinner fun r => ?_
  refine triple_bind contract_lawful (gives_step (K := fun _ s => Outcome (fun _ s =>
    s.files (join directory name) = some (.regular contents)) (fun _ _ => True) r s) ?_)
    fun _ => triple_pure stable_any fun _ _ h => h
  rintro s - t hs rfl
  cases r with
  | ok a => exact hs
  | error e => trivial

/-- The manifest is in its directory. -/
def Published (encoded : BackupManifest → ℕ) (p : Prepared) (m : BackupManifest)
    (s : HostState Docker) : Prop :=
  s.files (join p.destination "manifest.json") = some (.regular (.manifest m (encoded m)))

lemma leaves_writing {path : String} (directory name : String) (contents : Contents) :
    (writeFileAtomically directory name contents).run.Only (Leaves S path) :=
  writeFileAtomically_only ⟨trivial, trivial, trivial, trivial, trivial⟩

lemma only_forall {γ : Type} {φ : γ → HostOp → Prop} {p : HostProg α}
    (hp : ∀ c, p.Only (φ c)) : p.Only fun o => ∀ c, φ c o := by
  induction p with
  | pure a => trivial
  | op o k ih => exact ⟨fun c => (hp c).1, fun r => ih r fun c => (hp c).2 r⟩

/-- What follows from the precondition without its state. -/
lemma gives_given {φ : Prop} {p : HostFallible α} (hφ : ∀ s, P s → φ)
    (hp : φ → Gives S P p K) : Gives S P p K :=
  fun s hi hs => hp (hφ s hs) s hi hs

/-- What the volumes read of a settled backup are like. -/
lemma nodup_of_listed {base : List String} {projectName : String} {vs : List (String × String)}
    (hl : Listed S base projectName vs h) : (vs.map (·.1)).Nodup := by
  obtain ⟨a, -, -, hnames⟩ := hl.names
  rw [hnames]
  unfold linesRead nonemptyUniqueLines
  exact (List.perm_insertionSort _ _).nodup_iff.mpr (List.nodup_dedup _)

lemma volumes_beside_dumps {base : List String} (hbase : ∃ rest, base = "compose" :: rest)
    (payload : StackBackupPayload) (p : Prepared) (hnames : (p.volumes.map (·.1)).Nodup)
    (hservice : ∀ v ∈ p.volumes, composeServicePattern v.1 = true)
    {f : List ManifestDatabase → List ManifestVolume → HostFallible β}
    {K : β → HostState Docker → Prop}
    (hf : ∀ ds vs, Gives S (Written S payload p (manifestOf payload p.createdAt vs ds))
      (f ds vs) K) :
    Gives S (fun _ => True) (do
      let databases ← backupDatabases base payload p.destination
      let volumes ← backupVolumes S.e p.destination p.hostDestination p.volumes
      f databases volumes) K := by
  refine gives_bind (backupDatabases_gives hbase payload p.destination) fun ds => ?_
  refine triple_pre fun hds => ?_
  have honly : (backupVolumes S.e p.destination p.hostDestination p.volumes).run.Only
      fun o => ∀ d : { d // d ∈ ds }, Leaves S (join p.destination d.1.archiveName) o :=
    only_forall fun d => backupVolumes_only p.volumes fun v hv d' =>
      databases_leave hds d.2 (hservice v hv)
  refine gives_bind (gives_conseq (tri_frame
    (backupVolumes_gives p.destination p.hostDestination p.volumes hnames hservice) honly
    (stable_any (P := fun s => ∀ d ∈ ds, Dumped S p.destination d s)) ?_) (fun _ h => ⟨trivial, h⟩) fun _ _ h => h) fun vs =>
    gives_conseq (hf ds vs) ?_ fun _ _ h => h
  · rintro s o r t ho - hs hexec d hd
    obtain ⟨f, hfile, hx⟩ := hs d hd
    exact ⟨f, (archives_of_leaves (ho ⟨d, hd⟩) hexec).trans hfile, hx⟩
  · rintro s ⟨⟨hmap, harchived⟩, hdumped⟩
    exact ⟨rfl, hmap, harchived, hds, hdumped⟩

lemma writeBackup_gives (encoded : BackupManifest → ℕ) (payload : StackBackupPayload)
    (p : Prepared) : Gives S (Settled S payload p) (writeBackup S.e encoded payload p)
      fun x s => (Written S payload p x.1 s ∧ Published encoded p x.1 s) ∧
        Settled S payload p s := by
  refine gives_given (φ := (∃ rest, p.base = "compose" :: rest) ∧
    (p.volumes.map (·.1)).Nodup ∧ ∀ v ∈ p.volumes, composeServicePattern v.1 = true)
    (fun s hs => ⟨hs.base, nodup_of_listed hs.listed, fun v hv =>
      (hs.listed.owned v hv).logical⟩) ?_
  rintro ⟨hbase, hnames, hservice⟩
  refine gives_conseq (gives_lasting (lasting_settled payload p) ?_) (fun _ h => ⟨trivial, h⟩)
    fun _ _ h => h
  refine volumes_beside_dumps hbase payload p hnames hservice fun ds vs => ?_
  refine gives_bind (gives_replaced (gives_conseq (tri_frame
    (writeFileAtomically_gives _ _ _) (only_forall fun path => leaves_writing _ _ _)
    (stable_any (P := Written S payload p (manifestOf payload p.createdAt vs ds)))
    fun s o r t ho _ hs hexec => written_of_leaves ho hs hexec) (fun _ h => ⟨trivial, h⟩)
    fun _ _ h => h)) fun _ => ?_
  refine gives_bind (gives_eff ?_) fun now => gives_pure fun _ h => h
  rintro s r t hs ⟨rfl, -⟩
  exact ⟨hs.2, hs.1⟩

end GatewayControl.BackupCompleteness
