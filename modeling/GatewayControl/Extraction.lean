import GatewayControl.BackupRoundTrip

/-!
What extraction does to the tree it extracts into, for any archive.

Extraction only adds. What is not below the root stays as it is, a file that is there is not
touched again, and a directory stays a directory.
-/

namespace GatewayControl.Extraction

open FileTree BackupHelper BackupRoundTrip

/-! ### Names -/

lemma splitOn_append (s t : Bytes) :
    (s ++ slash :: t).splitOn slash = s.splitOn slash ++ t.splitOn slash :=
  List.splitOnP_append_cons s t (by simp)

/-- What cleaning has kept: plain names, above them parent directories of an unrooted path. -/
structure Shape (rooted : Bool) (kept : Path) (ups : ℕ) (plain : Path) : Prop where
  kept : kept = plain.reverse ++ List.replicate ups [dot, dot]
  plain : ∀ name ∈ plain, Plain name
  rooted : rooted = true → ups = 0

lemma cleanStep_shape {rooted : Bool} {kept plain : Path} {ups : ℕ} {name : Bytes}
    (h : Shape rooted kept ups plain) (hname : slash ∉ name) :
    ∃ ups' plain', Shape rooted (cleanStep rooted kept name) ups' plain' := by
  obtain ⟨rfl, hplain, hrooted⟩ := h
  unfold cleanStep
  by_cases h₁ : name = [] ∨ name = [dot]
  · rw [if_pos h₁]
    exact ⟨ups, plain, rfl, hplain, hrooted⟩
  rw [if_neg h₁]
  by_cases h₂ : name = [dot, dot]
  · rw [if_pos h₂]
    rcases List.eq_nil_or_concat plain with rfl | ⟨front, last, rfl⟩
    · cases ups with
      | zero =>
        cases rooted with
        | true => exact ⟨0, [], rfl, by simp, fun _ => rfl⟩
        | false => exact ⟨1, [], by simp [h₂], by simp, nofun⟩
      | succ ups =>
        refine ⟨ups + 2, [], ?_, by simp, fun h => absurd (hrooted h) (by omega)⟩
        simp [List.replicate_succ, h₂]
    · have hlast : last ≠ [dot, dot] := (hplain last (by simp)).2.2.1
      refine ⟨ups, front, ?_, fun n hn => hplain n (by simp [hn]), hrooted⟩
      simp [hlast]
  · rw [if_neg h₂]
    refine ⟨ups, plain ++ [name], by simp, ?_, hrooted⟩
    intro n hn
    rcases List.mem_append.mp hn with hn | hn
    · exact hplain n hn
    · rw [List.mem_singleton.mp hn]
      exact ⟨fun h => h₁ (.inl h), fun h => h₁ (.inr h), h₂, hname⟩

lemma foldl_shape {rooted : Bool} {names kept plain : Path} {ups : ℕ}
    (h : Shape rooted kept ups plain) (hnames : ∀ name ∈ names, slash ∉ name) :
    ∃ ups' plain', Shape rooted (names.foldl (cleanStep rooted) kept) ups' plain' := by
  induction names generalizing kept plain ups with
  | nil => exact ⟨ups, plain, h⟩
  | cons name names ih =>
    obtain ⟨ups', plain', h'⟩ := cleanStep_shape h (hnames name List.mem_cons_self)
    exact ih h' fun n hn => hnames n (List.mem_cons_of_mem _ hn)

lemma elements_shape (s : Bytes) : ∃ ups plain,
    elements s = List.replicate ups [dot, dot] ++ plain ∧ (∀ name ∈ plain, Plain name) ∧
      (isAbs s = true → ups = 0) := by
  have hstart : Shape (isAbs s) [] 0 [] := ⟨rfl, by simp, fun _ => rfl⟩
  obtain ⟨ups, plain, h⟩ := foldl_shape hstart fun name (hname : name ∈ s.splitOn slash) => Text.notMem_of_mem_splitOn hname
  refine ⟨ups, plain, ?_, h.plain, h.rooted⟩
  unfold elements
  rw [h.kept]
  simp

/-- A rooted path has plain names only. -/
lemma plain_of_isAbs {s : Bytes} (h : isAbs s = true) : ∀ name ∈ elements s, Plain name := by
  obtain ⟨ups, plain, hs, hplain, hups⟩ := elements_shape s
  rw [hs, hups h]
  simpa using hplain

lemma safe_parts {name : Bytes} (h : safeArchivePath name = true) :
    isAbs name = false ∧ clean name = name ∧ name ≠ [dot, dot] ∧
      ¬ ([dot, dot, slash] : Bytes) <+: name := by
  unfold safeArchivePath at h
  simp only [Bool.and_eq_true, Bool.not_eq_true', bne_iff_ne, beq_iff_eq] at h
  obtain ⟨⟨⟨⟨-, habs⟩, hclean⟩, hup⟩, hprefix'⟩ := h
  refine ⟨habs, hclean, hup, fun hp => ?_⟩
  rw [List.isPrefixOf_iff_prefix.mpr hp] at hprefix'
  cases hprefix'

/-- So has a safe name of an archive. -/
lemma plain_of_safe {name : Bytes} (h : safeArchivePath name = true) :
    ∀ n ∈ elements name, Plain n := by
  obtain ⟨habs, hclean, hup, hups⟩ := safe_parts h
  obtain ⟨ups, plain, hs, hplain, -⟩ := elements_shape name
  cases ups with
  | zero =>
    rw [hs]
    simpa using hplain
  | succ ups =>
    exfalso
    have hjoined : name = joined (elements name) := by
      conv_lhs => rw [← hclean]
      unfold clean
      rw [habs, hs]
      simp [List.replicate_succ]
    rw [hs, List.replicate_succ, List.cons_append] at hjoined
    cases hrest : List.replicate ups [dot, dot] ++ plain with
    | nil =>
      rw [hrest] at hjoined
      exact hup hjoined
    | cons first rest =>
      rw [hrest] at hjoined
      refine hups (hjoined ▸ ⟨joined (first :: rest), ?_⟩)
      simp [joined, List.intercalate]

/-- A safe name is what its elements are written as. -/
lemma name_of_safe {name : Bytes} (h : safeArchivePath name = true) :
    name = if elements name = [] then [dot] else joined (elements name) := by
  obtain ⟨habs, hclean, -, -⟩ := safe_parts h
  conv_lhs => rw [← hclean]
  unfold clean
  rw [habs]
  rfl

lemma elements_injective {name name' : Bytes} (h : safeArchivePath name = true)
    (h' : safeArchivePath name' = true) (heq : elements name = elements name') :
    name = name' := by
  rw [name_of_safe h, name_of_safe h', heq]

lemma foldl_safe {name : Bytes} (h : safeArchivePath name = true) (rooted : Bool)
    (kept : Path) :
    (name.splitOn slash).foldl (cleanStep rooted) kept = (elements name).reverse ++ kept := by
  have hname := name_of_safe h
  by_cases hnil : elements name = []
  · rw [if_pos hnil] at hname
    rw [hnil, hname]
    rfl
  · rw [if_neg hnil] at hname
    have hsplit : name.splitOn slash = elements name := by
      conv_lhs => rw [hname]
      exact splitOn_joined hnil (plain_of_safe h)
    rw [hsplit, foldl_cleanStep (plain_of_safe h)]

/-- `filepath.Join` of two names that are not empty. -/
def join (source name : Bytes) : Bytes := clean (source ++ slash :: name)

/-- The whole path of an entry. -/
def destinationIn (source name : Bytes) : Path := elements (join source name)

lemma elements_rooted {p : Path} (h : ∀ name ∈ p, Plain name) :
    elements ([] ++ slash :: joined p) = p := by
  unfold elements
  rw [splitOn_append, List.foldl_append]
  have hempty : ∀ rooted, (([] : Bytes).splitOn slash).foldl (cleanStep rooted) [] = [] :=
    fun _ => rfl
  rw [hempty]
  by_cases hnil : p = []
  · rw [hnil]
    rfl
  · rw [splitOn_joined hnil h, foldl_cleanStep h]
    simp

lemma elements_clean {s : Bytes} (h : isAbs s = true) : elements (clean s) = elements s := by
  have hclean : clean s = [] ++ slash :: joined (elements s) := by
    unfold clean
    rw [if_pos h]
    rfl
  rw [hclean, elements_rooted (plain_of_isAbs h)]

/-- The path of an entry is its name, below the root. -/
lemma destinationIn_eq {source name : Bytes} (hsource : isAbs source = true)
    (h : safeArchivePath name = true) :
    destinationIn source name = elements source ++ destination name := by
  have habs : isAbs (source ++ slash :: name) = true := by
    cases source with
    | nil => cases hsource
    | cons b bs => exact hsource
  unfold destinationIn join destination
  rw [elements_clean habs]
  conv_lhs => unfold elements
  rw [splitOn_append, List.foldl_append, foldl_safe h, habs]
  unfold elements
  rw [hsource]
  simp

/-! ### What is kept -/

/-- Nothing outside the root changed, no file changed and no directory went away. -/
structure Kept (root : Path) (m m' : Machine) : Prop where
  outside : ∀ q, ¬ root <+: q → m'.files.lookup q = m.files.lookup q
  files : ∀ q n, n.kind ≠ .directory → m.files.lookup q = some n → m'.files.lookup q = some n
  directories : ∀ q, m.files.isDirectory q = true → m'.files.isDirectory q = true
  archives : m'.archives = m.archives

variable {root : Path} {m m' m'' : Machine} {p q : Path} {n : Node} {host : Host}

lemma Kept.refl (root : Path) (m : Machine) : Kept root m m :=
  ⟨fun _ _ => rfl, fun _ _ _ h => h, fun _ h => h, rfl⟩

lemma Kept.trans (h : Kept root m m') (h' : Kept root m' m'') : Kept root m m'' where
  outside := by
    intro q hq
    rw [h'.outside q hq, h.outside q hq]
  files := by
    intro q n hn hq
    exact h'.files q n hn (h.files q n hn hq)
  directories := by
    intro q hq
    exact h'.directories q (h.directories q hq)
  archives := h'.archives.trans h.archives

/-- A node may be put where there was none, even after some steps. -/
lemma Kept.put (h : Kept root m m') (hp : root <+: p) (hnone : m.files.lookup p = none)
    (n : Node) : Kept root m (m'.put p n) where
  outside := by
    intro q hq
    have hne : q ≠ p := by
      rintro rfl
      exact hq hp
    rw [lookup_put_ne _ _ hne, h.outside q hq]
  files := by
    intro q d hd hq
    have hne : q ≠ p := by
      rintro rfl
      rw [hnone] at hq
      cases hq
    rw [lookup_put_ne _ _ hne]
    exact h.files q d hd hq
  directories := by
    intro q hq
    by_cases hroot : q = []
    · rw [hroot]
      exact isDirectory_nil _
    obtain ⟨d, hd, -⟩ := (isDirectory_iff hroot).mp hq
    have hne : q ≠ p := by
      rintro rfl
      rw [hnone] at hd
      cases hd
    obtain ⟨d', hd', hkind⟩ := (isDirectory_iff hroot).mp (h.directories q hq)
    refine (isDirectory_iff hroot).mpr ⟨d', ?_, hkind⟩
    rw [lookup_put_ne _ _ hne]
    exact hd'
  archives := h.archives

/-- A directory may change, so long as it stays one. -/
lemma Kept.change (h : Kept root m m') (hp : root <+: p) (hne : p ≠ [])
    (hdir : m'.files.isDirectory p = true) (hn : n.kind = .directory) :
    Kept root m (m'.put p n) := by
  obtain ⟨d, hd, hkind⟩ := (isDirectory_iff hne).mp hdir
  refine ⟨?_, ?_, ?_, h.archives⟩
  · intro q hq
    have hqp : q ≠ p := by
      rintro rfl
      exact hq hp
    rw [lookup_put_ne _ _ hqp, h.outside q hq]
  · intro q f hf hq
    have hq' := h.files q f hf hq
    have hqp : q ≠ p := by
      rintro rfl
      rw [hd] at hq'
      rw [Option.some.inj hq'] at hkind
      exact hf hkind
    rw [lookup_put_ne _ _ hqp]
    exact hq'
  · intro q hq
    by_cases hqp : q = p
    · rw [hqp]
      exact (isDirectory_iff hne).mpr ⟨n, lookup_put _ _ _, hn⟩
    have hq' := h.directories q hq
    by_cases hroot : q = []
    · rw [hroot]
      exact isDirectory_nil _
    obtain ⟨f, hf, hfkind⟩ := (isDirectory_iff hroot).mp hq'
    refine (isDirectory_iff hroot).mpr ⟨f, ?_, hfkind⟩
    rw [lookup_put_ne _ _ hqp]
    exact hf

/-- The root and everything above it are directories. -/
def Rooted (root : Path) (m : Machine) : Prop := ∀ p, p <+: root → m.files.isDirectory p = true

lemma Rooted.kept (h : Rooted root m) (hk : Kept root m m') : Rooted root m' :=
  fun p hp => hk.directories p (h p hp)

/-- What is new below the root has its directory below the root. -/
lemma Rooted.dropLast (h : Rooted root m) (hp : root <+: p) (hne : p ≠ [])
    (hnone : m.files.lookup p = none) : root <+: p.dropLast := by
  have hproper : p ≠ root := by
    rintro rfl
    obtain ⟨d, hd, -⟩ := (isDirectory_iff hne).mp (h p List.prefix_rfl)
    rw [hnone] at hd
    cases hd
  obtain ⟨rest, rfl⟩ := hp
  have hrest : rest ≠ [] := by
    rintro rfl
    simp at hproper
  rw [List.dropLast_append_of_ne_nil hrest]
  exact List.prefix_append _ _

/-! ### System calls -/

variable {α β : Type} {perm : BitVec 12}

/-- The state a step leaves, whether it fails or not. -/
def after (x : Helper α) (m : Machine) : Machine := (outcome x m).2

lemma after_bind (x : Helper α) (f : α → Helper β) (m : Machine) :
    after (x >>= f) m = match outcome x m with
      | (.ok a, m') => after (f a) m'
      | (.error _, m') => m' := by
  unfold after
  rw [outcome_bind]
  rcases outcome x m with ⟨_ | _, _⟩ <;> rfl

/-- Steps that each keep what was there keep it together. -/
lemma kept_bind {x : Helper α} {f : α → Helper β} (hx : Kept root m (after x m))
    (hf : ∀ a, outcome x m = (.ok a, after x m) → Kept root m (after (f a) (after x m))) :
    Kept root m (after (x >>= f) m) := by
  rw [after_bind]
  rcases hrun : outcome x m with ⟨_ | a, m'⟩
  · have hm' : after x m = m' := by rw [after, hrun]
    rw [hm'] at hx
    exact hx
  · have hm' : after x m = m' := by rw [after, hrun]
    rw [hm'] at hf
    exact hf a hrun

lemma outcome_updateNode (p : Path) (f : Node → Node) (m : Machine) :
    after (updateNode p f) m = m ∨
      p ≠ [] ∧ ∃ n, m.files.lookup p = some n ∧ after (updateNode p f) m = m.put p (f n) := by
  by_cases hp : p = []
  · left
    subst hp
    rfl
  cases hn : m.files.lookup p with
  | some n =>
    right
    refine ⟨hp, n, rfl, ?_⟩
    rw [after, updateNode_ok f hp hn]
  | none =>
    left
    unfold after updateNode
    rw [if_neg hp, outcome_bind_ok (outcome_get m), hn]
    rfl

lemma kept_addEntry (hroot : Rooted root m) (hp : root <+: p) (hne : p ≠ [])
    (hnone : m.files.lookup p = none) (n : Node) : Kept root m (after (addEntry host p n) m) := by
  have hparent := hroot.dropLast hp hne hnone
  by_cases hdir : m.files.isDirectory p.dropLast = true
  swap
  · rw [Bool.not_eq_true] at hdir
    have hrun : after (addEntry host p n) m = m := by
      unfold after addEntry
      rw [outcome_bind_ok (outcome_get m), hdir]
      rfl
    rw [hrun]
    exact Kept.refl root m
  let time := host.clock m.ticks
  let ticked : Machine := { m with ticks := m.ticks + 1 }
  have hticked : Kept root m ticked := ⟨fun _ _ => rfl, fun _ _ _ h => h, fun _ h => h, rfl⟩
  have hput : Kept root m (ticked.put p { n with modTime := time }) := hticked.put hp hnone _
  have hrun : after (addEntry host p n) m =
      after (if p.dropLast ≠ [] then
          updateNode p.dropLast fun parent => { parent with modTime := time }
        else pure ()) (ticked.put p { n with modTime := time }) := by
    unfold after addEntry
    rw [outcome_bind_ok (outcome_get m), hdir]
    rfl
  rw [hrun]
  by_cases htop : p.dropLast = []
  · rw [if_neg (by simpa using htop)]
    exact hput
  rw [if_pos htop]
  rcases outcome_updateNode p.dropLast (fun parent => { parent with modTime := time })
    (ticked.put p { n with modTime := time }) with h | ⟨-, d, hd, h⟩
  · rw [h]
    exact hput
  · rw [h]
    have hdir' := hput.directories _ hdir
    refine hput.change hparent htop hdir' ?_
    obtain ⟨d', hd', hkind⟩ := (isDirectory_iff htop).mp hdir'
    rw [hd] at hd'
    exact (Option.some.inj hd') ▸ hkind

lemma kept_mkdirAll (base rest : Path) (hroot : Rooted root m) (hp : root <+: base ++ rest) :
    Kept root m (after (mkdirAll host perm base rest) m) := by
  induction rest generalizing base m with
  | nil => exact Kept.refl root m
  | cons name rest ih =>
    have hassoc : base ++ name :: rest = base ++ [name] ++ rest := by simp
    rw [hassoc] at hp
    unfold mkdirAll
    rw [after, outcome_bind_ok (outcome_get m)]
    change Kept root m (after _ m)
    cases hn : m.files.lookup (base ++ [name]) with
    | none =>
      have hbelow : root <+: base ++ [name] := by
        rcases List.prefix_or_prefix_of_prefix hp (List.prefix_append _ _) with h | h
        · exact h
        · obtain ⟨d, hd, -⟩ := (isDirectory_iff (by simp)).mp (hroot _ h)
          rw [hn] at hd
          cases hd
      refine kept_bind (kept_addEntry hroot hbelow (by simp) hn _) fun _ hrun => ?_
      have hkept : Kept root m (after (mkdir host (base ++ [name]) perm) m) :=
        kept_addEntry hroot hbelow (by simp) hn _
      exact hkept.trans (ih _ (hroot.kept hkept) hp)
    | some d =>
      dsimp only
      by_cases hkind : d.kind = .directory
      · rw [if_neg (by simpa using hkind)]
        exact ih _ hroot hp
      · rw [if_pos hkind]
        exact Kept.refl root m

lemma kept_createFile {content : Bytes} (hroot : Rooted root m) (hp : root <+: p) :
    Kept root m (after (createFile host p perm content) m) := by
  unfold createFile
  rw [after, outcome_bind_ok (outcome_get m)]
  by_cases hfree : p = [] ∨ (m.files.lookup p).isSome = true
  · simp only [if_pos hfree]
    exact Kept.refl root m
  · simp only [if_neg hfree]
    rw [not_or, Bool.not_eq_true, Option.isSome_eq_false_iff, Option.isNone_iff_eq_none] at hfree
    exact kept_addEntry hroot hp hfree.1 hfree.2 _

/-- A file that did not exist may be changed after it was made. -/
lemma kept_updateNew {f : Node → Node} (h : Kept root m m') (hp : root <+: p)
    (hnone : m.files.lookup p = none) : Kept root m (after (updateNode p f) m') := by
  rcases outcome_updateNode p f m' with hrun | ⟨-, d, -, hrun⟩
  · rw [hrun]
    exact h
  · rw [hrun]
    exact h.put hp hnone _

/-- A directory may change its mode, owner and time. -/
lemma kept_updateDirectory {f : Node → Node} (h : Kept root m m') (hp : root <+: p)
    (hdir : m'.files.isDirectory p = true) (hf : ∀ n, (f n).kind = n.kind) :
    Kept root m (after (updateNode p f) m') := by
  rcases outcome_updateNode p f m' with hrun | ⟨hne, d, hd, hrun⟩
  · rw [hrun]
    exact h
  · rw [hrun]
    refine h.change hp hne hdir ?_
    obtain ⟨d', hd', hkind⟩ := (isDirectory_iff hne).mp hdir
    rw [hd] at hd'
    rw [hf, Option.some.inj hd', hkind]

/-! ### Where a step leads -/

/-- A step that returns leads to `K`, one that fails to `E`. -/
def Leads (x : Helper α) (m : Machine) (K : α → Machine → Prop) (E : Machine → Prop) : Prop :=
  match outcome x m with
  | (.ok a, m') => K a m'
  | (.error _, m') => E m'

variable {x : Helper α} {K : α → Machine → Prop} {E : Machine → Prop}

lemma leads_of_after {E' : Machine → Prop} (h : E' (after x m))
    (hK : ∀ a, outcome x m = (.ok a, after x m) → K a (after x m)) (hE : ∀ m', E' m' → E m') :
    Leads x m K E := by
  unfold Leads
  unfold after at h hK
  generalize outcome x m = r at h hK ⊢
  rcases r with ⟨_ | a, m'⟩
  · exact hE m' h
  · exact hK a rfl

lemma leads_pure {a : α} (h : K a m) : Leads (pure a) m K E := h

lemma leads_fail {text : String} (h : E m) : Leads (fail text : Helper α) m K E := h

lemma leads_bind {f : α → Helper β} {K' : β → Machine → Prop} (hx : Leads x m K E)
    (hf : ∀ a m', K a m' → Leads (f a) m' K' E) : Leads (x >>= f) m K' E := by
  unfold Leads at hx ⊢
  rw [outcome_bind]
  generalize outcome x m = r at hx ⊢
  rcases r with ⟨_ | a, m'⟩
  · exact hx
  · exact hf a m' hx

lemma leads_conseq {K' : α → Machine → Prop} {E' : Machine → Prop} (h : Leads x m K E)
    (hK : ∀ a m', K a m' → K' a m') (hE : ∀ m', E m' → E' m') : Leads x m K' E' := by
  unfold Leads at h ⊢
  generalize outcome x m = r at h ⊢
  rcases r with ⟨_ | a, m'⟩
  · exact hE m' h
  · exact hK a m' h

lemma leads_get {f : Machine → Helper β} {K' : β → Machine → Prop}
    (h : Leads (f m) m K' E) : Leads (get >>= f) m K' E := by
  unfold Leads at h ⊢
  rwa [outcome_bind_ok (outcome_get m)]

lemma leads_after (h : Leads x m (fun _ => E) E) : E (after x m) := by
  unfold Leads at h
  unfold after
  generalize outcome x m = r at h ⊢
  rcases r with ⟨_ | a, m'⟩ <;> exact h

/-- What the loop checks of an entry before it visits it. -/
structure Passes (seen : List Bytes) (count : ℕ) (total : Int) (header : Header) : Prop where
  count : count + 1 ≤ maximumFiles
  safe : safeArchivePath header.name = true
  bounds : 0 ≤ header.size ∧ 0 ≤ header.uid ∧ 0 ≤ header.gid
  kind : header.typeflag ≠ .other
  unseen : header.name ∉ seen
  room : header.typeflag = .reg ∨ header.typeflag = .regA →
    header.size ≤ maximumExpandedBytes - total

/-- One turn of the loop: an entry that passes is visited, any other ends the walk, whatever the
visits do. -/
lemma walkEntries_cons (seen : List Bytes) (count : ℕ) (total : Int) (header : Header)
    (content : Bytes) :
    (∃ text, ∀ {σ : Type} (visit : σ → Header → Bytes → Helper σ) (complete : Bool) (s : σ)
      (rest : Archive),
      walkEntries visit complete seen count total s ((header, content) :: rest) = fail text) ∨
    Passes seen count total header ∧
      ∀ {σ : Type} (visit : σ → Header → Bytes → Helper σ) (complete : Bool) (s : σ)
        (rest : Archive),
      walkEntries visit complete seen count total s ((header, content) :: rest) = (do
        let s ← visit s header content
        walkEntries visit complete (header.name :: seen) (count + 1)
          (if header.typeflag = .reg ∨ header.typeflag = .regA then total + header.size
            else total) s rest) := by
  by_cases h₁ : (decide (count + 1 > maximumFiles) || !safeArchivePath header.name ||
      decide (header.size < 0) || decide (header.uid < 0) || decide (header.gid < 0)) = true
  · refine .inl ⟨"archive safety limit exceeded", fun visit complete s rest => ?_⟩
    rw [walkEntries]
    simp only [h₁, if_true]
    rfl
  by_cases h₂ : header.typeflag = .other
  · refine .inl ⟨"unsafe archive entry type", fun visit complete s rest => ?_⟩
    rw [walkEntries]
    simp only [h₁, h₂, if_true, if_false, Bool.false_eq_true]
    rfl
  by_cases h₃ : seen.contains (clean header.name) = true
  · refine .inl ⟨"duplicate archive entry", fun visit complete s rest => ?_⟩
    rw [walkEntries]
    simp only [h₁, h₂, h₃, if_true, if_false, Bool.false_eq_true]
    rfl
  by_cases h₄ : (header.typeflag = .reg ∨ header.typeflag = .regA) ∧
      header.size > maximumExpandedBytes - total
  · refine .inl ⟨"archive expanded size limit exceeded", fun visit complete s rest => ?_⟩
    rw [walkEntries]
    simp only [h₁, h₂, h₃, h₄, if_true, if_false, Bool.false_eq_true]
    rfl
  have hpasses := h₁
  simp only [Bool.or_eq_true, decide_eq_true_eq, not_or, Bool.not_eq_true', not_lt,
    Bool.not_eq_false] at hpasses
  obtain ⟨⟨⟨⟨hcount, hsafe⟩, hsize⟩, huid⟩, hgid⟩ := hpasses
  have hclean : clean header.name = header.name := clean_of_safe hsafe
  refine .inr ⟨⟨by omega, hsafe, ⟨hsize, huid, hgid⟩, h₂, ?_, fun hfile => ?_⟩,
    fun visit complete s rest => ?_⟩
  · rw [hclean] at h₃
    simpa using h₃
  · exact not_lt.mp fun hroom => h₄ ⟨hfile, hroom⟩
  · rw [walkEntries]
    simp only [h₁, h₂, h₃, h₄, if_false, Bool.false_eq_true]
    rw [hclean]

/-- **Run of a walk.** What the visit of every acceptable entry keeps, a walk over all of them
keeps. -/
lemma leads_walk {σ : Type} {visit : σ → Header → Bytes → Helper σ} {K : σ → Machine → Prop}
    (hE : ∀ s m, K s m → E m)
    (hvisit : ∀ s header content m, safeArchivePath header.name = true → K s m →
      Leads (visit s header content) m K E) (complete : Bool) (entries : Archive)
    (seen : List Bytes) (count : ℕ) (total : Int) {s : σ} (h : K s m) :
    Leads (walkEntries visit complete seen count total s entries) m K E := by
  induction entries generalizing seen count total s m with
  | nil =>
    unfold walkEntries
    cases complete with
    | true => exact leads_pure h
    | false => exact leads_fail (hE s m h)
  | cons entry entries ih =>
    obtain ⟨header, content⟩ := entry
    rcases walkEntries_cons seen count total header content with
      ⟨text, hfail⟩ | ⟨hpasses, hturn⟩
    · rw [hfail]
      exact leads_fail (hE s m h)
    · rw [hturn]
      exact leads_bind (hvisit s header content m hpasses.safe h) fun s' m' h' => ih _ _ _ h'

/-! ### One entry -/

/-- An entry that was added is there, and the files and kinds elsewhere are what they were. -/
lemma addEntry_added (hne : p ≠ []) (h : outcome (addEntry host p n) m = (.ok (), m')) :
    (∃ t, m'.files.lookup p = some { n with modTime := t }) ∧
      ∀ q ≠ p, skeleton m'.files q = skeleton m.files q := by
  by_cases hdir : m.files.isDirectory p.dropLast = true
  · obtain ⟨m₁, t, hrun, -, hentry, hothers⟩ := addEntry_ok host n hne hdir
    rw [hrun] at h
    obtain ⟨-, rfl⟩ := Prod.mk.inj h
    exact ⟨⟨t, hentry⟩, hothers⟩
  · exfalso
    rw [Bool.not_eq_true] at hdir
    unfold addEntry at h
    rw [outcome_bind_ok (outcome_get m), hdir] at h
    cases congrArg Prod.fst h

lemma mkdirAll_directory {base rest : Path} (hbase : m.files.isDirectory base = true)
    (h : outcome (mkdirAll host perm base rest) m = (.ok (), m')) :
    m'.files.isDirectory (base ++ rest) = true := by
  induction rest generalizing base m with
  | nil =>
    obtain ⟨-, rfl⟩ := Prod.mk.inj h
    rw [List.append_nil]
    exact hbase
  | cons name rest ih =>
    have hassoc : base ++ name :: rest = base ++ [name] ++ rest := by simp
    rw [hassoc]
    unfold mkdirAll at h
    rw [outcome_bind_ok (outcome_get m)] at h
    cases hn : m.files.lookup (base ++ [name]) with
    | none =>
      rw [hn] at h
      dsimp only at h
      rcases hmk : outcome (mkdir host (base ++ [name]) perm) m with ⟨_ | ⟨⟩, m₁⟩
      · rw [outcome_bind, hmk] at h
        cases congrArg Prod.fst h
      · rw [outcome_bind_ok hmk] at h
        obtain ⟨t, ht⟩ := (addEntry_added (by simp) hmk).1
        exact ih ((isDirectory_iff (by simp)).mpr ⟨_, ht, rfl⟩) h
    | some d =>
      rw [hn] at h
      dsimp only at h
      by_cases hkind : d.kind = .directory
      · rw [if_neg (by simpa using hkind)] at h
        exact ih ((isDirectory_iff (by simp)).mpr ⟨d, hn, hkind⟩) h
      · rw [if_pos hkind] at h
        cases congrArg Prod.fst h

/-- What the walk keeps: the tree it began with, and that the directories met so far are
there. -/
def Progress (root : Path) (place : Bytes → Path) (start : Machine) (directories : List Header)
    (m : Machine) : Prop :=
  Kept root start m ∧ ∀ h ∈ directories, safeArchivePath h.name = true ∧
    m.files.isDirectory (place h.name) = true

lemma Progress.kept {place : Bytes → Path} {start : Machine} {ds : List Header}
    (h : Progress root place start ds m) (hk : Kept root m m') :
    Progress root place start ds m' :=
  ⟨h.1.trans hk, fun d hd => ⟨(h.2 d hd).1, hk.directories _ (h.2 d hd).2⟩⟩

lemma leads_makeDirectory (hroot : Rooted root m) (hp : root <+: p) :
    Leads (mkdirAll host perm [] p) m
      (fun _ m' => Kept root m m' ∧ m'.files.isDirectory p = true) (Kept root m) :=
  leads_of_after (kept_mkdirAll [] p hroot hp)
    (fun _ hrun => ⟨kept_mkdirAll [] p hroot hp, mkdirAll_directory (isDirectory_nil _) hrun⟩)
    fun _ h => h

/-- The directories above an entry: for the root itself they are all there. -/
lemma leads_makeParents (hroot : Rooted root m) (hp : root <+: p) :
    Leads (mkdirAll host perm [] p.dropLast) m (fun _ m' => Kept root m m') (Kept root m) := by
  by_cases heq : p = root
  · subst heq
    have hrun : outcome (mkdirAll host perm [] p.dropLast) m = (.ok (), m) := by
      refine mkdirAll_exists host perm fun q hq => ?_
      exact hroot q (hq.trans (List.dropLast_prefix p))
    unfold Leads
    rw [hrun]
    exact Kept.refl p m
  · obtain ⟨rest, rfl⟩ := hp
    have hrest : rest ≠ [] := by
      rintro rfl
      exact heq (List.append_nil root)
    have hbelow : root <+: (root ++ rest).dropLast := by
      rw [List.dropLast_append_of_ne_nil hrest]
      exact List.prefix_append _ _
    exact leads_conseq (leads_makeDirectory hroot hbelow) (fun _ _ h => h.1) fun _ h => h

/-- A file is made where there was nothing. -/
lemma leads_createFile {content : Bytes} (hroot : Rooted root m) (hp : root <+: p) :
    Leads (createFile host p perm content) m
      (fun _ m' => Kept root m m' ∧ m.files.lookup p = none) (Kept root m) := by
  refine leads_of_after (kept_createFile hroot hp) (fun _ hrun => ?_) fun _ h => h
  refine ⟨kept_createFile hroot hp, ?_⟩
  by_contra hsome
  have hthere : p = [] ∨ (m.files.lookup p).isSome = true :=
    .inr (Option.isSome_iff_ne_none.mpr hsome)
  unfold createFile at hrun
  rw [outcome_bind_ok (outcome_get m)] at hrun
  simp only [if_pos hthere] at hrun
  cases congrArg Prod.fst hrun

/-- Changes to a file that is new since `m`. -/
lemma leads_updateNew {f : Node → Node} (h : Kept root m m') (hp : root <+: p)
    (hnone : m.files.lookup p = none) :
    Leads (updateNode p f) m' (fun _ m'' => Kept root m m'') (Kept root m) :=
  leads_of_after (kept_updateNew h hp hnone) (fun _ _ => kept_updateNew h hp hnone) fun _ h => h

lemma leads_extractEntry (host : Host) (content : Bytes) {place : Bytes → Path}
    {start : Machine} {ds : List Header} {header : Header}
    (hplace : ∀ name, safeArchivePath name = true → root <+: place name)
    (hstart : Rooted root start) (hsafe : safeArchivePath header.name = true)
    (h : Progress root place start ds m) :
    Leads (extractEntry host place ds header content) m
      (Progress root place start) (Kept root start) := by
  have hroot := hstart.kept h.1
  have hp := hplace _ hsafe
  unfold extractEntry
  cases hflag : header.typeflag with
  | dir =>
    refine leads_bind (leads_conseq (leads_makeDirectory hroot hp) (fun _ _ h => h)
      fun m' hk => h.1.trans hk) fun _ m' hmade => leads_pure ?_
    have hprogress := h.kept hmade.1
    refine ⟨hprogress.1, fun d hd => ?_⟩
    rcases List.mem_append.mp hd with hd | hd
    · exact hprogress.2 d hd
    · rw [List.mem_singleton.mp hd]
      exact ⟨hsafe, hmade.2⟩
  | reg | regA =>
    refine leads_bind (leads_conseq (leads_makeParents hroot hp) (fun _ _ h => h)
      fun m' hk => h.1.trans hk) fun _ m₁ hk₁ => ?_
    have hback : ∀ m', Kept root m₁ m' → Kept root start m' :=
      fun m' hk => (h.1.trans hk₁).trans hk
    refine leads_bind (leads_conseq (leads_createFile (hroot.kept hk₁) hp) (fun _ _ h => h)
      hback) fun _ m₂ hmade => ?_
    dsimp only
    by_cases hshort : content.length < header.size.toNat
    · rw [if_pos hshort]
      exact hback _ hmade.1
    rw [if_neg hshort]
    refine leads_bind (leads_conseq (leads_updateNew hmade.1 hp hmade.2) (fun _ _ h => h)
      hback) fun _ m₃ hk₃ => ?_
    refine leads_bind (leads_conseq (leads_updateNew hk₃ hp hmade.2) (fun _ _ h => h)
      hback) fun _ m₄ hk₄ => leads_pure ?_
    exact (h.kept hk₁).kept hk₄
  | other => exact h.1

lemma leads_finishDirectory {place : Bytes → Path} {start : Machine} {header : Header}
    (h : Kept root start m) (hp : root <+: place header.name)
    (hdir : m.files.isDirectory (place header.name) = true) :
    Leads (finishDirectory place header) m
      (fun _ m' => Kept root start m' ∧ Kept root m m') (Kept root start) := by
  have hchange : ∀ (f : Node → Node), (∀ n, (f n).kind = n.kind) → ∀ m', Kept root m m' →
      Leads (updateNode (place header.name) f) m'
        (fun _ m'' => Kept root m m'') (Kept root start) := by
    intro f hf m' hm'
    have hkept := kept_updateDirectory hm' hp (hm'.directories _ hdir) hf
    exact leads_of_after hkept (fun _ _ => hkept) fun m'' hm'' => h.trans hm''
  unfold finishDirectory chmod restoreOwnership chown chtimes
  refine leads_bind (hchange _ ?_ m (Kept.refl root m)) fun _ m₁ h₁ => ?_
  · exact fun n => rfl
  refine leads_bind (hchange _ ?_ m₁ h₁) fun _ m₂ h₂ => ?_
  · exact fun n => rfl
  refine leads_conseq (hchange _ ?_ m₂ h₂) (fun _ m' hm' => ⟨h.trans hm', hm'⟩)
    fun _ hm' => hm'
  exact fun n => rfl

lemma leads_finish {place : Bytes → Path} {start : Machine} (ds : List Header)
    (hplace : ∀ name, safeArchivePath name = true → root <+: place name)
    (h : Progress root place start ds m) :
    Leads (ds.forM (finishDirectory place)) m (fun _ m' => Kept root start m')
      (Kept root start) := by
  induction ds generalizing m with
  | nil => exact leads_pure h.1
  | cons d ds ih =>
    have hd := h.2 d List.mem_cons_self
    refine leads_bind (leads_finishDirectory h.1 (hplace _ hd.1) hd.2) fun _ m' hm' => ?_
    refine ih ⟨hm'.1, fun e he => ?_⟩
    have hrest := h.2 e (List.mem_cons_of_mem _ he)
    exact ⟨hrest.1, hm'.2.directories _ hrest.2⟩

/-! ### A whole archive -/

/-- What a walk that ends well says of the archive, whatever is visited. -/
structure Valid (complete : Bool) (seen : List Bytes) (entries : Archive) : Prop where
  complete : complete = true
  safe : ∀ e ∈ entries, safeArchivePath e.1.name = true
  kind : ∀ e ∈ entries, e.1.typeflag ≠ .other
  bounds : ∀ e ∈ entries, 0 ≤ e.1.size ∧ 0 ≤ e.1.uid ∧ 0 ≤ e.1.gid
  distinct : (entries.map (·.1.name)).Nodup
  unseen : ∀ e ∈ entries, e.1.name ∉ seen

lemma valid_of_walk {σ : Type} {visit : σ → Header → Bytes → Helper σ} {complete : Bool}
    {entries : Archive} {seen : List Bytes} {count : ℕ} {total : Int} {s s' : σ}
    (h : outcome (walkEntries visit complete seen count total s entries) m = (.ok s', m')) :
    Valid complete seen entries := by
  induction entries generalizing seen count total s m with
  | nil =>
    cases complete with
    | true => exact ⟨rfl, by simp, by simp, by simp, by simp, by simp⟩
    | false => cases congrArg Prod.fst h
  | cons entry entries ih =>
    obtain ⟨header, content⟩ := entry
    rcases walkEntries_cons seen count total header content with
      ⟨text, hfail⟩ | ⟨hpasses, hturn⟩
    · rw [hfail] at h
      cases congrArg Prod.fst h
    rw [hturn] at h
    rcases hvisit : outcome (visit s header content) m with ⟨_ | s₁, m₁⟩
    · rw [outcome_bind, hvisit] at h
      cases congrArg Prod.fst h
    rw [outcome_bind_ok hvisit] at h
    have hrest := ih h
    refine ⟨hrest.complete, ?_, ?_, ?_, ?_, ?_⟩
    · intro e he
      rcases List.mem_cons.mp he with rfl | he
      · exact hpasses.safe
      · exact hrest.safe e he
    · intro e he
      rcases List.mem_cons.mp he with rfl | he
      · exact hpasses.kind
      · exact hrest.kind e he
    · intro e he
      rcases List.mem_cons.mp he with rfl | he
      · exact hpasses.bounds
      · exact hrest.bounds e he
    · rw [List.map_cons, List.nodup_cons]
      refine ⟨fun hmem => ?_, hrest.distinct⟩
      obtain ⟨e, he, heq⟩ := List.mem_map.mp hmem
      exact hrest.unseen e he (heq ▸ List.mem_cons_self)
    · intro e he
      rcases List.mem_cons.mp he with rfl | he
      · exact hpasses.unseen
      · exact fun hmem => hrest.unseen e he (List.mem_cons_of_mem _ hmem)

/-- A longer archive goes on from where its first entries lead. -/
lemma kept_append (host : Host) {place : Bytes → Path}
    (hplace : ∀ name, safeArchivePath name = true → root <+: place name) (complete : Bool)
    (done rest : Archive) (seen : List Bytes) (count : ℕ) (total : Int) {start : Machine}
    {ds : List Header} (hroot : Rooted root start) (h : Progress root place start ds m) :
    Kept root (after (walkEntries (extractEntry host place) true seen count total ds done) m)
      (after (walkEntries (extractEntry host place) complete seen count total ds (done ++ rest))
        m) := by
  induction done generalizing seen count total ds m with
  | nil =>
    have hwalk : Leads (walkEntries (extractEntry host place) complete seen count total ds rest)
        m (Progress root place m) (Kept root m) :=
      leads_walk (fun _ _ h => h.1)
        (fun _ _ _ _ hsafe h' => leads_extractEntry host _ hplace (hroot.kept h.1) hsafe h')
        complete rest seen count total ⟨Kept.refl root m, h.2⟩
    exact leads_after (leads_conseq hwalk (fun _ _ h => h.1) fun _ h => h)
  | cons entry done ih =>
    obtain ⟨header, content⟩ := entry
    rw [List.cons_append]
    rcases walkEntries_cons seen count total header content with ⟨text, hfail⟩ | ⟨hpasses, hturn⟩
    · rw [hfail, hfail]
      exact Kept.refl root m
    have hvisit := leads_extractEntry host content hplace hroot hpasses.safe h
    unfold Leads at hvisit
    rw [hturn, hturn, after_bind, after_bind]
    generalize outcome (extractEntry host place ds header content) m = r at hvisit ⊢
    rcases r with ⟨_ | ds', m₁⟩
    · exact Kept.refl root m₁
    · exact ih _ _ _ hvisit

/-- The tree after the first entries of an archive. -/
def reached (host : Host) (place : Bytes → Path) (done : Archive) (m : Machine) : Machine :=
  after (walkEntries (extractEntry host place) true [] 0 0 [] done) m

lemma walkArchive_tar {σ : Type} {archive : String} {entries : Archive} {complete : Bool}
    (hstored : m.archives.lookup archive = some (.tar entries complete)) (s : σ)
    (visit : σ → Header → Bytes → Helper σ) :
    outcome (walkArchive archive s visit) m =
      outcome (walkEntries visit complete [] 0 0 s entries) m := by
  unfold walkArchive
  rw [outcome_bind_ok (outcome_get m), hstored]

lemma valid_of_validate {archive : String} {entries : Archive} {complete : Bool}
    (hstored : m.archives.lookup archive = some (.tar entries complete))
    (hvalid : outcome (validateArchive archive) m = (.ok (), m')) :
    Valid complete [] entries := by
  unfold validateArchive at hvalid
  rw [outcome_bind_ok (outcome_get m), hstored] at hvalid
  exact valid_of_walk ((walkArchive_tar hstored () _).symm.trans hvalid)

/-- From what its first entries leave to the end of the extraction. -/
lemma kept_extractBelow (host : Host) {place : Bytes → Path} {archive : String}
    {entries done rest : Archive} {complete : Bool}
    (hplace : ∀ name, safeArchivePath name = true → root <+: place name)
    (hroot : Rooted root m) (hstored : m.archives.lookup archive = some (.tar entries complete))
    (hsplit : entries = done ++ rest) :
    Kept root (reached host place done m) (after (extractBelow host place archive) m) := by
  have hstart : Progress root place m [] m := ⟨Kept.refl root m, by simp⟩
  have hkept := kept_append host hplace complete done rest [] 0 0 hroot hstart
  have hwalk : Leads (walkEntries (extractEntry host place) complete [] 0 0 [] entries) m
      (Progress root place m) (Kept root m) :=
    leads_walk (fun _ _ h => h.1)
      (fun _ _ _ _ hsafe h => leads_extractEntry host _ hplace hroot hsafe h) complete entries
      [] 0 0 hstart
  rw [← hsplit] at hkept
  unfold extractBelow
  rw [after_bind, walkArchive_tar hstored]
  unfold after at hkept
  unfold Leads at hwalk
  change Kept root (reached host place done m) _ at hkept
  generalize outcome (walkEntries (extractEntry host place) complete [] 0 0 [] entries) m = r
    at hkept hwalk ⊢
  rcases r with ⟨_ | ds, m₁⟩
  · exact hkept
  · have hdirs : Progress root place (reached host place done m) ds.reverse m₁ :=
      ⟨hkept, fun d hd => hwalk.2 d (List.mem_reverse.mp hd)⟩
    exact leads_after (leads_conseq (leads_finish ds.reverse hplace hdirs) (fun _ _ h => h)
      fun _ h => h)

/-- **Extraction stays below its root and overwrites nothing**, wherever it ends. -/
theorem extraction_confined (host : Host) (source : Bytes) (archive : String) (m : Machine)
    (entries : Archive) (complete : Bool) (hsource : UsableRoot host source)
    (hroot : Rooted (elements source) m)
    (hstored : m.archives.lookup archive = some (.tar entries complete))
    (hvalid : outcome (validateArchive archive) m = (.ok (), m)) :
    (∀ q, ¬ elements source <+: q →
      (after (extractBelow host (destinationIn source) archive) m).files.lookup q =
        m.files.lookup q) ∧
    (∀ e ∈ entries, ∃ rest, destinationIn source e.1.name = elements source ++ rest ∧
      ∀ name ∈ rest, Plain name) ∧
    (entries.map fun e => destinationIn source e.1.name).Nodup ∧
    ∀ done rest, entries = done ++ rest → ∀ q n, n.kind ≠ .directory →
      (reached host (destinationIn source) done m).files.lookup q = some n →
      (after (extractBelow host (destinationIn source) archive) m).files.lookup q = some n := by
  have habs := hsource.1
  have hvalid' := valid_of_validate hstored hvalid
  have hplace : ∀ name, safeArchivePath name = true →
      elements source <+: destinationIn source name := by
    intro name hname
    rw [destinationIn_eq habs hname]
    exact List.prefix_append _ _
  refine ⟨?_, ?_, ?_, ?_⟩
  · have hkept := kept_extractBelow host hplace hroot hstored (List.nil_append _).symm
    exact hkept.outside
  · intro e he
    have hsafe := hvalid'.safe e he
    exact ⟨destination e.1.name, destinationIn_eq habs hsafe, plain_of_safe hsafe⟩
  · have hmap : (entries.map fun e => destinationIn source e.1.name) =
        (entries.map (·.1.name)).map (destinationIn source) := by simp
    rw [hmap]
    refine List.Nodup.map_on ?_ hvalid'.distinct
    intro name hname name' hname' heq
    obtain ⟨e, he, rfl⟩ := List.mem_map.mp hname
    obtain ⟨e', he', rfl⟩ := List.mem_map.mp hname'
    have hsafe := hvalid'.safe e he
    have hsafe' := hvalid'.safe e' he'
    rw [destinationIn_eq habs hsafe, destinationIn_eq habs hsafe'] at heq
    exact elements_injective hsafe hsafe' (List.append_cancel_left heq)
  · intro done rest hsplit q n hn hq
    have hkept := kept_extractBelow host hplace hroot hstored hsplit
    exact hkept.files q n hn hq

/-- The sample archive, extracted into `/s`. -/
theorem extraction_confined_sample :
    let m : Machine := ⟨(∅ : Files).insert [[115]] ⟨.directory, 0o755, 0, 0, 0⟩,
      (∅ : AList fun _ : String => Stored).insert "volume.tar.gz"
        (.tar (archiveOf (sampleVolume 0o640)) true), 0⟩
    (∀ q, ¬ elements [47, 115] <+: q →
      (after (extractBelow sampleHost (destinationIn [47, 115]) "volume.tar.gz") m).files.lookup
        q = m.files.lookup q) ∧
    (∀ e ∈ archiveOf (sampleVolume 0o640), ∃ rest,
      destinationIn [47, 115] e.1.name = elements [47, 115] ++ rest ∧
      ∀ name ∈ rest, Plain name) ∧
    ((archiveOf (sampleVolume 0o640)).map fun e => destinationIn [47, 115] e.1.name).Nodup ∧
    ∀ done rest, archiveOf (sampleVolume 0o640) = done ++ rest → ∀ q n, n.kind ≠ .directory →
      (reached sampleHost (destinationIn [47, 115]) done m).files.lookup q = some n →
      (after (extractBelow sampleHost (destinationIn [47, 115]) "volume.tar.gz") m).files.lookup
        q = some n := by
  intro m
  have hstored : m.archives.lookup "volume.tar.gz" =
      some (.tar (archiveOf (sampleVolume 0o640)) true) := AList.lookup_insert _
  have hroot : Rooted (elements [47, 115]) m := by
    intro p hp
    have helements : elements [47, 115] = [[115]] := by decide
    rw [helements] at hp
    rcases List.prefix_cons_iff.mp hp with rfl | ⟨t, rfl, ht⟩
    · exact isDirectory_nil _
    · rw [List.prefix_nil.mp ht]
      rfl
  exact extraction_confined sampleHost [47, 115] "volume.tar.gz" m _ true (by decide) hroot
    hstored (validateArchive_ok (sampleVolume_accepted _) hstored)

end GatewayControl.Extraction
