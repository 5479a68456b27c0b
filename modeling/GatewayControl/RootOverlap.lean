import GatewayControl.Checks
import GatewayControl.RelativePaths

/-!
The roots of the agent: which of them are compared when the configuration is loaded and when the
executor is made, and that the comparison on texts is the one on components.
-/

namespace GatewayControl.RootOverlap

open Checks FileTree Extraction RelativePaths

/-- The inner function of both comparisons. -/
def contains (parent child : Bytes) : Bool :=
  match rel (clean parent) (clean child) with
  | none => false
  | some relative =>
    relative = [dot] || relative ≠ dotDot && !(dotDot ++ [slash]).isPrefixOf relative

/-- Of the configuration. -/
def pathsOverlap (first second : Bytes) : Bool :=
  contains first second || contains second first

/-- Of the executor. -/
def backupPathsOverlap (first second : Bytes) : Bool :=
  contains first second || contains second first

/-! ### The roots -/

structure Roots where
  stateDir : Bytes
  stacksRoot : Bytes
  hostStacksRoot : Bytes
  deploymentsRoot : Bytes
  hostDeploymentsRoot : Bytes
  hostProcRoot : Bytes
  localBackupRoot : Bytes
  hostLocalBackupRoot : Bytes
  nasBackupRoot : Bytes
  hostNASBackupRoot : Bytes
  nasMarker : Bytes
deriving DecidableEq

/-- `strings.ContainsAny` with comma, carriage return, newline and null. -/
def unsafeForMount (s : Bytes) : Bool := s.any [44, 13, 10, 0].contains

/-- `filepath.Base`. -/
def base (s : Bytes) : Bytes :=
  let stripped := s.reverse.dropWhile (· = slash)
  if s = [] then [dot]
  else if stripped = [] then [slash]
  else (stripped.takeWhile (· ≠ slash)).reverse

def markerAllowed (nasMarker : Bytes) : Bool :=
  base nasMarker = nasMarker && nasMarker ≠ [dot] && nasMarker ≠ dotDot

/-- The loop over a map of roots that are mounted, whose entries come in any order. -/
def checkMounts (notClean notSafe : String → String) (entries : List (String × Bytes)) :
    Except String Unit :=
  entries.forM fun entry => do
    require (isAbs entry.2 && clean entry.2 = entry.2) (notClean entry.1)
    require (!unsafeForMount entry.2) (notSafe entry.1)

def Roots.resolved (r : Roots) (cwd : Bytes) : Roots :=
  { r with
    stateDir := filepathAbs cwd r.stateDir
    stacksRoot := filepathAbs cwd r.stacksRoot
    deploymentsRoot := filepathAbs cwd r.deploymentsRoot }

/-- The part of `Load` that resolves and checks the roots it has read. `order` is the order in
which the map is visited, `imagePinned` the check of the agent's image, which stands between. -/
def loadRoots (cwd : Bytes) (order : List (String × Bytes) → List (String × Bytes))
    (imagePinned : Bool) (read : Roots) : Except String Roots := do
  let r := read.resolved cwd
  require (isAbs r.hostStacksRoot) "GATEWAY_HOST_STACKS_ROOT must be an absolute host path"
  require (isAbs r.hostDeploymentsRoot && clean r.hostDeploymentsRoot = r.hostDeploymentsRoot)
    "GATEWAY_HOST_DEPLOYMENTS_ROOT must be an absolute, clean host path"
  require (!(unsafeForMount r.deploymentsRoot || unsafeForMount r.hostDeploymentsRoot))
    "deployment roots contain characters unsafe for a Docker mount"
  checkMounts (· ++ " must be an absolute, clean path")
    (· ++ " contains characters unsafe for a Docker mount")
    (order
      [("GATEWAY_HOST_PROC_ROOT", r.hostProcRoot),
        ("GATEWAY_LOCAL_BACKUP_ROOT", r.localBackupRoot),
        ("GATEWAY_HOST_LOCAL_BACKUP_ROOT", r.hostLocalBackupRoot),
        ("GATEWAY_NAS_BACKUP_ROOT", r.nasBackupRoot),
        ("GATEWAY_HOST_NAS_BACKUP_ROOT", r.hostNASBackupRoot)])
  require (markerAllowed r.nasMarker) "GATEWAY_NAS_MARKER must be a file name"
  require imagePinned
    "GATEWAY_AGENT_IMAGE must be an explicitly tagged or digest-pinned container image"
  require (!(pathsOverlap r.localBackupRoot r.nasBackupRoot ||
      pathsOverlap r.hostLocalBackupRoot r.hostNASBackupRoot))
    "local and NAS backup roots must not overlap"
  require (!(pathsOverlap r.localBackupRoot r.stacksRoot ||
      pathsOverlap r.nasBackupRoot r.stacksRoot ||
      pathsOverlap r.localBackupRoot r.stateDir || pathsOverlap r.nasBackupRoot r.stateDir ||
      pathsOverlap r.hostLocalBackupRoot r.hostStacksRoot ||
      pathsOverlap r.hostNASBackupRoot r.hostStacksRoot))
    "backup roots must not overlap stack or state roots"
  require (!(pathsOverlap r.deploymentsRoot r.stacksRoot ||
      pathsOverlap r.deploymentsRoot r.stateDir ||
      pathsOverlap r.hostDeploymentsRoot r.hostStacksRoot))
    "deployment roots must be dedicated and must not overlap stack or state roots"
  return { r with hostStacksRoot := clean r.hostStacksRoot }

/-- The part of the executor's `New` that resolves and checks the roots. -/
def newRoots (cwd : Bytes) (order : List (String × Bytes) → List (String × Bytes))
    (options : Roots) : Except String Roots := do
  let r := options.resolved cwd
  require (isAbs r.hostStacksRoot) "host stacks root must be absolute"
  require (isAbs r.hostDeploymentsRoot && clean r.hostDeploymentsRoot = r.hostDeploymentsRoot)
    "host deployments root must be an absolute, clean path"
  require (!(unsafeForMount r.deploymentsRoot || unsafeForMount r.hostDeploymentsRoot))
    "deployment roots contain unsafe Docker mount characters"
  require (!(backupPathsOverlap r.deploymentsRoot r.stacksRoot ||
      backupPathsOverlap r.deploymentsRoot r.stateDir ||
      backupPathsOverlap r.hostDeploymentsRoot r.hostStacksRoot))
    "deployment roots must be dedicated and must not overlap stack or state roots"
  checkMounts (· ++ " must be an absolute, clean path")
    (· ++ " contains unsafe Docker mount characters")
    (order
      [("local backup root", r.localBackupRoot), ("host local backup root", r.hostLocalBackupRoot),
        ("NAS backup root", r.nasBackupRoot), ("host NAS backup root", r.hostNASBackupRoot)])
  require (isAbs r.hostProcRoot && clean r.hostProcRoot = r.hostProcRoot)
    "host proc root must be an absolute, clean path"
  require (!(backupPathsOverlap r.localBackupRoot r.nasBackupRoot ||
      backupPathsOverlap r.hostLocalBackupRoot r.hostNASBackupRoot))
    "local and NAS backup roots must not overlap"
  require (!(backupPathsOverlap r.localBackupRoot r.stacksRoot ||
      backupPathsOverlap r.nasBackupRoot r.stacksRoot ||
      backupPathsOverlap r.localBackupRoot r.stateDir ||
      backupPathsOverlap r.nasBackupRoot r.stateDir ||
      backupPathsOverlap r.hostLocalBackupRoot r.hostStacksRoot ||
      backupPathsOverlap r.hostNASBackupRoot r.hostStacksRoot))
    "backup roots must not overlap stack or state roots"
  require (markerAllowed r.nasMarker) "NAS marker must be a file name"
  return { r with
    hostStacksRoot := clean r.hostStacksRoot
    hostDeploymentsRoot := clean r.hostDeploymentsRoot }

/-- The roots that are compared with one another. -/
def compared (r : Roots) : List (Bytes × Bytes) :=
  [(r.localBackupRoot, r.nasBackupRoot), (r.hostLocalBackupRoot, r.hostNASBackupRoot),
    (r.localBackupRoot, r.stacksRoot), (r.nasBackupRoot, r.stacksRoot),
    (r.localBackupRoot, r.stateDir), (r.nasBackupRoot, r.stateDir),
    (r.hostLocalBackupRoot, r.hostStacksRoot), (r.hostNASBackupRoot, r.hostStacksRoot),
    (r.deploymentsRoot, r.stacksRoot), (r.deploymentsRoot, r.stateDir),
    (r.hostDeploymentsRoot, r.hostStacksRoot)]

/-! ### One root in another -/

/-- The components of one path are the first ones of the other's. -/
def Nested (p q : Bytes) : Prop :=
  components (clean p) <+: components (clean q) ∨ components (clean q) <+: components (clean p)

instance (p q : Bytes) : Decidable (Nested p q) := inferInstanceAs (Decidable (_ ∨ _))

/-- A path that goes down only: it is neither the parent directory nor above. -/
lemma down_joined {p : Path} (hne : p ≠ []) (h : ∀ name ∈ p, Plain name) :
    joined p ≠ dotDot ∧ (dotDot ++ [slash]).isPrefixOf (joined p) = false := by
  obtain ⟨name, p, rfl⟩ := List.exists_cons_of_ne_nil hne
  obtain ⟨hname, -⟩ := List.forall_mem_cons.mp h
  obtain ⟨htake, -⟩ := first_joined (p := p) hname.2.2.2
  refine ⟨fun hup => ?_, Bool.eq_false_iff.mpr fun hup => ?_⟩
  · rw [hup] at htake
    exact hname.2.2.1 (htake.symm.trans (by decide))
  · obtain ⟨rest, hrest⟩ := List.isPrefixOf_iff_prefix.mp hup
    rw [← hrest, List.append_assoc, List.singleton_append,
      (takeWhile_plain (by decide)).1] at htake
    exact hname.2.2.1 htake.symm

/-- A path that goes up first. -/
lemma up_refused (left rest : Bytes) :
    upAndDown left rest ≠ [dot] ∧
      (upAndDown left rest = dotDot ∨
        (dotDot ++ [slash]).isPrefixOf (upAndDown left rest) = true) := by
  unfold upAndDown
  refine ⟨fun h => ?_, ?_⟩
  · have hlength := congrArg List.length h
    simp [dotDot] at hlength
  · cases hcount : left.count slash with
    | zero =>
      by_cases hrest : rest = []
      · exact .inl (by simp [hrest])
      · refine .inr (List.isPrefixOf_iff_prefix.mpr ⟨rest, ?_⟩)
        simp [hrest]
    | succ n =>
      refine .inr (List.isPrefixOf_iff_prefix.mpr
        ⟨dotDot ++ (List.replicate n (slash :: dotDot)).flatten ++
          if rest = [] then [] else slash :: rest, ?_⟩)
      simp [List.replicate_succ]

lemma contains_iff {p q : Bytes} (hp : isAbs p = true) (hq : isAbs q = true) :
    contains p q = true ↔ components (clean p) <+: components (clean q) := by
  rw [components_clean hp, components_clean hq, ← apart_fst_eq_nil]
  unfold contains
  rw [rel_rooted (isAbs_clean hp) (isAbs_clean hq), elements_clean hp, elements_clean hq]
  obtain ⟨front, hbase, htarg⟩ := exists_common (elements p) (elements q)
  by_cases heq : elements q = elements p
  · rw [if_pos heq]
    exact iff_of_true rfl ((apart_fst_eq_nil _ _).mpr (heq ▸ List.prefix_rfl))
  · rw [if_neg heq]
    by_cases hleft : (apart (elements p) (elements q)).1 = []
    · rw [if_pos hleft]
      refine iff_of_true ?_ hleft
      have hrest : (apart (elements p) (elements q)).2 ≠ [] := by
        intro hnil
        rw [hleft] at hbase
        rw [hnil] at htarg
        exact heq (htarg.trans hbase.symm)
      obtain ⟨hup, hleads⟩ := down_joined hrest fun name hname => plain_of_isAbs hq name (by
        rw [htarg]
        exact List.mem_append_right _ hname)
      simp only [hleads, Bool.not_false, Bool.and_true, Bool.or_eq_true, decide_eq_true_eq]
      exact .inr hup
    · rw [if_neg hleft]
      refine iff_of_false ?_ hleft
      obtain ⟨hdot, hup⟩ := up_refused (joined (apart (elements p) (elements q)).1)
        (joined (apart (elements p) (elements q)).2)
      rcases hup with hup | hup
      · simp [hup, dotDot]
      · simp [hup, hdot]

lemma pathsOverlap_iff {p q : Bytes} (hp : isAbs p = true) (hq : isAbs q = true) :
    pathsOverlap p q = true ↔ Nested p q := by
  unfold pathsOverlap Nested
  rw [Bool.or_eq_true, contains_iff hp hq, contains_iff hq hp]

lemma pathsOverlap_comm (p q : Bytes) : pathsOverlap p q = pathsOverlap q p :=
  Bool.or_comm _ _

lemma backupPathsOverlap_eq (p q : Bytes) : backupPathsOverlap p q = pathsOverlap p q := rfl

/-! ### Accepted roots -/

lemma isAbs_filepathAbs {cwd : Bytes} (hcwd : isAbs cwd = true) (s : Bytes) : isAbs (filepathAbs cwd s) = true := by
  unfold filepathAbs
  split
  · next h => exact isAbs_clean h
  · refine isAbs_clean ?_
    cases cwd with
    | nil => cases hcwd
    | cons b cwd => exact hcwd

lemma checkMounts_ok {notClean notSafe : String → String} {entries : List (String × Bytes)}
    {u : Unit} (h : checkMounts notClean notSafe entries = .ok u) :
    ∀ entry ∈ entries, isAbs entry.2 = true := by
  intro entry hentry
  have hone := forM_eq_ok.mp h entry hentry
  obtain ⟨_, hclean, -⟩ := bind_eq_ok.mp hone
  exact (Bool.and_eq_true_iff.mp (require_eq_ok.mp hclean)).1

/-- The comparisons are on paths that are absolute. -/
structure Rooted (r : Roots) : Prop where
  stateDir : isAbs r.stateDir = true
  stacksRoot : isAbs r.stacksRoot = true
  hostStacksRoot : isAbs r.hostStacksRoot = true
  deploymentsRoot : isAbs r.deploymentsRoot = true
  hostDeploymentsRoot : isAbs r.hostDeploymentsRoot = true
  localBackupRoot : isAbs r.localBackupRoot = true
  hostLocalBackupRoot : isAbs r.hostLocalBackupRoot = true
  nasBackupRoot : isAbs r.nasBackupRoot = true
  hostNASBackupRoot : isAbs r.hostNASBackupRoot = true

lemma Rooted.mem {r : Roots} (h : Rooted r) :
    ∀ pair ∈ compared r, isAbs pair.1 = true ∧ isAbs pair.2 = true := by
  obtain ⟨h₁, h₂, h₃, h₄, h₅, h₆, h₇, h₈, h₉⟩ := h
  unfold compared
  simp only [List.forall_mem_cons]
  simp [h₁, h₂, h₃, h₄, h₅, h₆, h₇, h₈, h₉]

lemma nested_clean {p q : Bytes} (hp : isAbs p = true) (hq : isAbs q = true) :
    (Nested (clean p) q ↔ Nested p q) ∧ (Nested p (clean q) ↔ Nested p q) := by
  unfold Nested
  rw [clean_clean hp, clean_clean hq]
  exact ⟨Iff.rfl, Iff.rfl⟩

lemma apart_of_rooted {r : Roots} (h : Rooted r)
    (hno : ∀ pair ∈ compared r, pathsOverlap pair.1 pair.2 = false) :
    ∀ pair ∈ compared r, ¬ Nested pair.1 pair.2 := by
  intro pair hpair hnested
  obtain ⟨hp, hq⟩ := h.mem pair hpair
  have hover := (pathsOverlap_iff hp hq).mpr hnested
  rw [hno pair hpair] at hover
  cases hover

/-- Cleaning the roots on the host changes none of their components. -/
lemma apart_cleaned {r : Roots} (h : Rooted r)
    (hapart : ∀ pair ∈ compared r, ¬ Nested pair.1 pair.2) :
    (∀ pair ∈ compared { r with hostStacksRoot := clean r.hostStacksRoot },
      ¬ Nested pair.1 pair.2) ∧
    ∀ pair ∈ compared { r with
        hostStacksRoot := clean r.hostStacksRoot
        hostDeploymentsRoot := clean r.hostDeploymentsRoot }, ¬ Nested pair.1 pair.2 := by
  simp only [compared, List.forall_mem_cons] at hapart ⊢
  rw [(nested_clean h.hostLocalBackupRoot h.hostStacksRoot).2,
    (nested_clean h.hostNASBackupRoot h.hostStacksRoot).2,
    (nested_clean h.hostDeploymentsRoot h.hostStacksRoot).2,
    (nested_clean h.hostDeploymentsRoot (isAbs_clean h.hostStacksRoot)).1,
    (nested_clean h.hostDeploymentsRoot h.hostStacksRoot).2]
  exact ⟨hapart, hapart⟩

lemma loadRoots_ok {cwd : Bytes} {order : List (String × Bytes) → List (String × Bytes)}
    {imagePinned : Bool} {read accepted : Roots} (hcwd : isAbs cwd = true)
    (horder : ∀ entries, (order entries).Perm entries)
    (h : loadRoots cwd order imagePinned read = .ok accepted) :
    ∃ r, Rooted r ∧ (∀ pair ∈ compared r, pathsOverlap pair.1 pair.2 = false) ∧
      accepted = { r with hostStacksRoot := clean r.hostStacksRoot } := by
  unfold loadRoots at h
  simp only [bind_eq_ok, require_eq_ok] at h
  obtain ⟨-, hhost, -, hdeployments, -, -, _, hmounts, -, -, -, -, -, hbackups, -, hothers, -,
    hdedicated, haccepted⟩ := h
  refine ⟨read.resolved cwd, ?_, ?_, (Except.ok.inj haccepted).symm⟩
  · have hentries := fun entry hentry =>
      checkMounts_ok hmounts entry ((horder _).mem_iff.mpr hentry)
    simp only [List.forall_mem_cons] at hentries
    exact
      { stateDir := isAbs_filepathAbs hcwd _
        stacksRoot := isAbs_filepathAbs hcwd _
        hostStacksRoot := hhost
        deploymentsRoot := isAbs_filepathAbs hcwd _
        hostDeploymentsRoot := (Bool.and_eq_true_iff.mp hdeployments).1
        localBackupRoot := hentries.2.1
        hostLocalBackupRoot := hentries.2.2.1
        nasBackupRoot := hentries.2.2.2.1
        hostNASBackupRoot := hentries.2.2.2.2.1 }
  · simp only [Bool.not_eq_true', Bool.or_eq_false_iff] at hbackups hothers hdedicated
    obtain ⟨hlocal, hnas⟩ := hbackups
    obtain ⟨⟨⟨⟨⟨h₁, h₂⟩, h₃⟩, h₄⟩, h₅⟩, h₆⟩ := hothers
    obtain ⟨⟨h₇, h₈⟩, h₉⟩ := hdedicated
    simp only [compared, List.forall_mem_cons]
    simp [hlocal, hnas, h₁, h₂, h₃, h₄, h₅, h₆, h₇, h₈, h₉]

lemma newRoots_ok {cwd : Bytes} {order : List (String × Bytes) → List (String × Bytes)}
    {options accepted : Roots} (hcwd : isAbs cwd = true)
    (horder : ∀ entries, (order entries).Perm entries)
    (h : newRoots cwd order options = .ok accepted) :
    ∃ r, Rooted r ∧ (∀ pair ∈ compared r, pathsOverlap pair.1 pair.2 = false) ∧
      accepted = { r with
        hostStacksRoot := clean r.hostStacksRoot
        hostDeploymentsRoot := clean r.hostDeploymentsRoot } := by
  unfold newRoots at h
  simp only [bind_eq_ok, require_eq_ok, backupPathsOverlap_eq] at h
  obtain ⟨-, hhost, -, hdeployments, -, -, -, hdedicated, _, hmounts, -, -, -, hbackups, -,
    hothers, -, -, haccepted⟩ := h
  refine ⟨options.resolved cwd, ?_, ?_, (Except.ok.inj haccepted).symm⟩
  · have hentries := fun entry hentry =>
      checkMounts_ok hmounts entry ((horder _).mem_iff.mpr hentry)
    simp only [List.forall_mem_cons] at hentries
    exact
      { stateDir := isAbs_filepathAbs hcwd _
        stacksRoot := isAbs_filepathAbs hcwd _
        hostStacksRoot := hhost
        deploymentsRoot := isAbs_filepathAbs hcwd _
        hostDeploymentsRoot := (Bool.and_eq_true_iff.mp hdeployments).1
        localBackupRoot := hentries.1
        hostLocalBackupRoot := hentries.2.1
        nasBackupRoot := hentries.2.2.1
        hostNASBackupRoot := hentries.2.2.2.1 }
  · simp only [Bool.not_eq_true', Bool.or_eq_false_iff] at hbackups hothers hdedicated
    obtain ⟨hlocal, hnas⟩ := hbackups
    obtain ⟨⟨⟨⟨⟨h₁, h₂⟩, h₃⟩, h₄⟩, h₅⟩, h₆⟩ := hothers
    obtain ⟨⟨h₇, h₈⟩, h₉⟩ := hdedicated
    simp only [compared, List.forall_mem_cons]
    simp [hlocal, hnas, h₁, h₂, h₃, h₄, h₅, h₆, h₇, h₈, h₉]

/-- The comparison of two roots is the one of their components, in the configuration and in the
executor, and what either accepts has no root in another it was compared with. -/
theorem overlap_decided :
    (∀ p q, isAbs p = true → isAbs q = true →
      (pathsOverlap p q = true ↔ Nested p q) ∧ (backupPathsOverlap p q = true ↔ Nested p q) ∧
      pathsOverlap p q = pathsOverlap q p ∧ backupPathsOverlap p q = backupPathsOverlap q p ∧
      pathsOverlap p q = backupPathsOverlap p q) ∧
    ∀ (cwd : Bytes) (order : List (String × Bytes) → List (String × Bytes)) (imagePinned : Bool)
      (given accepted : Roots), isAbs cwd = true → (∀ entries, (order entries).Perm entries) →
      loadRoots cwd order imagePinned given = .ok accepted ∨
        newRoots cwd order given = .ok accepted →
      ∀ pair ∈ compared accepted, ¬ Nested pair.1 pair.2 := by
  refine ⟨fun p q hp hq => ?_, fun cwd order imagePinned given accepted hcwd horder h => ?_⟩
  · rw [backupPathsOverlap_eq, backupPathsOverlap_eq]
    exact ⟨pathsOverlap_iff hp hq, pathsOverlap_iff hp hq, pathsOverlap_comm p q,
      pathsOverlap_comm p q, rfl⟩
  · rcases h with h | h
    · obtain ⟨r, hrooted, hno, rfl⟩ := loadRoots_ok hcwd horder h
      exact (apart_cleaned hrooted (apart_of_rooted hrooted hno)).1
    · obtain ⟨r, hrooted, hno, rfl⟩ := newRoots_ok hcwd horder h
      exact (apart_cleaned hrooted (apart_of_rooted hrooted hno)).2

/-- Roots `/a` to `/j`, the stacks of the host written `/c//`. -/
def sampleRoots : Roots where
  stateDir := [47, 97]
  stacksRoot := [47, 98]
  hostStacksRoot := [47, 99, 47, 47]
  deploymentsRoot := [47, 100]
  hostDeploymentsRoot := [47, 101]
  hostProcRoot := [47, 102]
  localBackupRoot := [47, 103]
  hostLocalBackupRoot := [47, 104]
  nasBackupRoot := [47, 105]
  hostNASBackupRoot := [47, 106]
  nasMarker := [109]

/-- `/a` is apart from `/ab` and holds `/a/..b`; the roots that are accepted are apart. -/
theorem overlap_decided_sibling :
    pathsOverlap [47, 97] [47, 97, 98] = false ∧
      backupPathsOverlap [47, 97, 47, 46, 46, 98] [47, 97] = true ∧
      ∀ pair ∈ compared { sampleRoots with hostStacksRoot := [47, 99] },
        ¬ Nested pair.1 pair.2 := by
  refine ⟨?_, ?_, ?_⟩
  · rw [Bool.eq_false_iff, ne_eq, (overlap_decided.1 _ _ rfl rfl).1]
    decide
  · rw [(overlap_decided.1 _ _ rfl rfl).2.1]
    decide
  · exact overlap_decided.2 [47] id true sampleRoots _ rfl (fun _ => .refl _) (.inl (by decide))

end GatewayControl.RootOverlap
