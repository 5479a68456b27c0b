import Mathlib.Algebra.BigOperators.Group.List.Basic
import Mathlib.Data.List.Induction
import GatewayControl.BackupHelper

/-!
What a backup followed by a restore does to a volume.

The loop over an archive keeps one invariant: up to the times and modes of directories,
which are put right at the end, the tree holds what the entries read so far restore to.
-/

namespace GatewayControl.BackupRoundTrip

open FileTree BackupHelper

/-! ### Running the helper -/

def outcome {α : Type} (x : Helper α) (m : Machine) : Except HelperError α × Machine :=
  x.run m

variable {α β : Type}

@[simp] lemma outcome_pure (a : α) (m : Machine) :
    outcome (pure a) m = (.ok a, m) := rfl

@[simp] lemma outcome_throw (e : HelperError) (m : Machine) :
    outcome (throw e : Helper α) m = (.error e, m) := rfl

@[simp] lemma outcome_get (m : Machine) : outcome get m = (.ok m, m) := rfl

@[simp] lemma outcome_modify (f : Machine → Machine) (m : Machine) :
    outcome (modify f) m = (.ok (), f m) := rfl

@[simp] lemma outcome_now (host : Host) (m : Machine) :
    outcome (now host) m = (.ok (host.clock m.ticks), { m with ticks := m.ticks + 1 }) := rfl

lemma outcome_bind (x : Helper α) (f : α → Helper β) (m : Machine) :
    outcome (x >>= f) m = match outcome x m with
      | (.ok a, m') => outcome (f a) m'
      | (.error e, m') => (.error e, m') := by
  unfold outcome
  rw [ExceptT.run_bind]
  change StateT.bind x.run _ m = _
  unfold StateT.bind
  rcases x.run m with ⟨r, m'⟩
  cases r <;> rfl

lemma outcome_bind_ok {x : Helper α} {f : α → Helper β} {m m' : Machine} {a : α}
    (h : outcome x m = (.ok a, m')) : outcome (x >>= f) m = outcome (f a) m' := by
  rw [outcome_bind, h]

/-! ### System calls -/

lemma lookup_put (m : Machine) (p : Path) (n : Node) :
    (m.put p n).files.lookup p = some n := AList.lookup_insert _

lemma lookup_put_ne (m : Machine) {p q : Path} (n : Node) (h : q ≠ p) :
    (m.put p n).files.lookup q = m.files.lookup q := AList.lookup_insert_ne h

lemma updateNode_ok {p : Path} {n : Node} {m : Machine} (f : Node → Node) (hp : p ≠ [])
    (h : m.files.lookup p = some n) :
    outcome (updateNode p f) m = (.ok (), m.put p (f n)) := by
  unfold updateNode
  rw [if_neg hp, outcome_bind_ok (outcome_get m), h]
  rfl

/-- What adding files to a tree leaves of a node. -/
def fixed (n : Node) : Node :=
  if n.kind = .directory then ⟨.directory, 0, 0, 0, 0⟩ else n

lemma fixed_kind (n : Node) : (fixed n).kind = n.kind := by
  unfold fixed
  by_cases h : n.kind = .directory <;> simp [h]

lemma fixed_eq_self {n : Node} (h : n.kind ≠ .directory) : fixed n = n := if_neg h

lemma fixed_congr {n n' : Node} (h : n.kind = .directory) (h' : n'.kind = .directory) :
    fixed n = fixed n' := by
  simp [fixed, h, h']

def skeleton (files : Files) (p : Path) : Option Node := (files.lookup p).map fixed

lemma skeleton_put_ne (m : Machine) {p q : Path} (n : Node) (h : q ≠ p) :
    skeleton (m.put p n).files q = skeleton m.files q := by
  unfold skeleton
  rw [lookup_put_ne m n h]

lemma addEntry_ok (host : Host) {p : Path} (n : Node) {m : Machine} (hp : p ≠ [])
    (hdir : m.files.isDirectory p.dropLast) :
    ∃ m' t, outcome (addEntry host p n) m = (.ok (), m') ∧ m'.archives = m.archives ∧
      m'.files.lookup p = some { n with modTime := t } ∧
      ∀ q ≠ p, skeleton m'.files q = skeleton m.files q := by
  have hne : p.dropLast ≠ p := by
    intro h
    have hlen := congrArg List.length h
    have hpos := List.length_pos_of_ne_nil hp
    rw [List.length_dropLast] at hlen
    omega
  let time := host.clock m.ticks
  let m₁ := { m with ticks := m.ticks + 1 }.put p { n with modTime := time }
  have hadd : outcome (addEntry host p n) m =
      outcome (if p.dropLast ≠ [] then
          updateNode p.dropLast fun parent => { parent with modTime := time }
        else pure ()) m₁ := by
    unfold addEntry
    rw [outcome_bind_ok (outcome_get m), hdir]
    rfl
  by_cases hroot : p.dropLast = []
  · refine ⟨m₁, time, ?_, rfl, lookup_put _ _ _, ?_⟩
    · rw [hadd]
      simp [hroot]
    · intro q hq
      exact skeleton_put_ne _ _ hq
  · obtain ⟨parent, hparent, hkind⟩ := (isDirectory_iff hroot).mp hdir
    have hparent' : m₁.files.lookup p.dropLast = some parent := by
      rw [lookup_put_ne _ _ hne]
      exact hparent
    refine ⟨m₁.put p.dropLast { parent with modTime := time }, time, ?_, rfl, ?_, ?_⟩
    · rw [hadd, if_pos hroot, updateNode_ok _ hroot hparent']
    · rw [lookup_put_ne _ _ hne.symm]
      exact lookup_put _ _ _
    · intro q hq
      by_cases hqp : q = p.dropLast
      · subst hqp
        unfold skeleton
        rw [lookup_put, hparent]
        simp [fixed, hkind]
      · rw [skeleton_put_ne _ _ hqp]
        exact skeleton_put_ne _ _ hq

lemma mkdirAll_step (host : Host) (perm : BitVec 12) {base : Path} {name : Bytes}
    (rest : Path) {m : Machine} (h : m.files.isDirectory (base ++ [name])) :
    outcome (mkdirAll host perm base (name :: rest)) m =
      outcome (mkdirAll host perm (base ++ [name]) rest) m := by
  obtain ⟨n, hn, hkind⟩ := (isDirectory_iff (by simp)).mp h
  rw [mkdirAll, outcome_bind_ok (outcome_get m), hn]
  simp [hkind]

lemma mkdirAll_exists (host : Host) (perm : BitVec 12) {base rest : Path} {m : Machine}
    (h : ∀ q, q <+: rest → m.files.isDirectory (base ++ q)) :
    outcome (mkdirAll host perm base rest) m = (.ok (), m) := by
  induction rest generalizing base with
  | nil => rfl
  | cons name rest ih =>
    rw [mkdirAll_step host perm rest (h [name] (by simp))]
    apply ih
    intro q hq
    simpa using h (name :: q) (by simpa using hq)

lemma mkdirAll_new (host : Host) (perm : BitVec 12) {base rest : Path} {m : Machine}
    (hrest : rest ≠ []) (h : ∀ q, q <+: rest → q ≠ rest → m.files.isDirectory (base ++ q))
    (hnew : m.files.lookup (base ++ rest) = none) :
    outcome (mkdirAll host perm base rest) m =
      outcome (mkdir host (base ++ rest) perm) m := by
  induction rest generalizing base with
  | nil => exact absurd rfl hrest
  | cons name rest ih =>
    by_cases hlast : rest = []
    · subst hlast
      rw [mkdirAll, outcome_bind_ok (outcome_get m), hnew]
      simp only [mkdirAll]
      rw [outcome_bind]
      rcases outcome (mkdir host (base ++ [name]) perm) m with ⟨_ | _, _⟩ <;> rfl
    · have hassoc : base ++ name :: rest = base ++ [name] ++ rest := by simp
      rw [mkdirAll_step host perm rest (h [name] (by simp) (by simpa using Ne.symm hlast)),
        hassoc]
      apply ih hlast
      · intro q hq hne
        simpa using h (name :: q) (by simpa using hq) (by simpa using hne)
      · rw [← hassoc, hnew]

/-! ### Entries of an archive -/

abbrev Entry := Path × Node

def headerOf (e : Entry) : Header := written (fileInfoHeader e.2 (joined e.1))

def contentOf (e : Entry) : Bytes := Kind.content e.2.kind

def IsDirectory (e : Entry) : Prop := e.2.kind = .directory

instance : DecidablePred IsDirectory := fun e => inferInstanceAs (Decidable (e.2.kind = _))

/-- The modification time a file has after it went through the archive. -/
def restoredTime (time : Int) : Int :=
  (if roundSecond time = zeroTime then 0 else roundSecond time).bmod (2 ^ 64)

/-- The file or directory a restore makes of one that was archived. -/
def restored (umask : BitVec 12) (n : Node) : Node where
  kind := n.kind
  mode := match n.kind with
    | .directory => n.mode &&& 0o777
    | _ => n.mode &&& 0o666 &&& ~~~umask
  uid := n.uid
  gid := n.gid
  modTime := restoredTime n.modTime

lemma headerOf_time_ne_zero (e : Entry) : (headerOf e).modTime ≠ zeroTime := by
  unfold headerOf written
  dsimp only
  by_cases h : roundSecond (fileInfoHeader e.2 (joined e.1)).modTime = zeroTime
  · rw [if_pos h]
    decide
  · rwa [if_neg h]

lemma headerOf_time (e : Entry) :
    (headerOf e).modTime.bmod (2 ^ 64) = restoredTime e.2.modTime := rfl

lemma chtimes_ok {p : Path} {n : Node} {m : Machine} {e : Entry} (hp : p ≠ [])
    (h : m.files.lookup p = some n) :
    outcome (chtimes p (headerOf e).modTime) m =
      (.ok (), m.put p { n with modTime := restoredTime e.2.modTime }) := by
  unfold chtimes
  rw [updateNode_ok _ hp h, if_neg (headerOf_time_ne_zero e), headerOf_time]

lemma restoreOwnership_ok {p : Path} {n : Node} {m : Machine} {e : Entry} (hp : p ≠ [])
    (h : m.files.lookup p = some n) :
    outcome (restoreOwnership p (headerOf e)) m =
      (.ok (), m.put p { n with uid := e.2.uid, gid := e.2.gid }) := by
  unfold restoreOwnership chown
  rw [updateNode_ok _ hp h]
  simp [headerOf, written, fileInfoHeader]

/-! ### Extracting the entries -/

/-- The tree holds what the entries restore to, but for what `fixed` leaves out. -/
def Extracted (umask : BitVec 12) (done : List Entry) (files : Files) : Prop :=
  ∀ p, skeleton files p = (done.lookup p).map fun n => fixed (restored umask n)

/-- An entry may come next: its path is new, and its directory has been read. -/
structure Next (done : List Entry) (e : Entry) : Prop where
  nonempty : e.1 ≠ []
  plain : ∀ name ∈ e.1, Plain name
  fresh : done.lookup e.1 = none
  under : ∀ q, q <+: e.1 → q ≠ e.1 → q = [] ∨ ∃ d, done.lookup q = some d ∧ d.kind = .directory
  supported : e.2.kind ≠ .special

variable {umask : BitVec 12} {done : List Entry} {files : Files}

lemma Extracted.isDirectory (h : Extracted umask done files) {q : Path}
    (hq : q = [] ∨ ∃ d, done.lookup q = some d ∧ d.kind = .directory) :
    files.isDirectory q := by
  rcases hq with rfl | ⟨d, hd, hkind⟩
  · exact isDirectory_nil files
  · have hs := h q
    rw [hd, Option.map_some] at hs
    obtain ⟨n, hn, hfixed⟩ := Option.map_eq_some_iff.mp hs
    have hnkind : n.kind = .directory := by
      rw [← fixed_kind, hfixed, fixed_kind]
      exact hkind
    simp [Files.isDirectory, hn, hnkind]

lemma Extracted.lookup_eq_none (h : Extracted umask done files) {p : Path}
    (hp : done.lookup p = none) : files.lookup p = none := by
  have hs := h p
  rw [hp, Option.map_none] at hs
  exact Option.map_eq_none_iff.mp hs

lemma lookup_append_single (done : List Entry) (e : Entry) (q : Path) :
    (done ++ [e]).lookup q = (done.lookup q).or (if q = e.1 then some e.2 else none) := by
  obtain ⟨p, node⟩ := e
  rw [List.lookup_append]
  by_cases h : q = p
  · subst h
    simp
  · simp [List.lookup_cons, h, beq_false_of_ne h]

/-- One more entry: the tree changed at its path only. -/
lemma Extracted.snoc (h : Extracted umask done files) {e : Entry} {files' : Files} {n : Node}
    (hnext : Next done e) (hentry : files'.lookup e.1 = some n)
    (hfixed : fixed n = fixed (restored umask e.2))
    (hothers : ∀ q ≠ e.1, skeleton files' q = skeleton files q) :
    Extracted umask (done ++ [e]) files' := by
  intro q
  rw [lookup_append_single]
  by_cases hq : q = e.1
  · subst hq
    rw [hnext.fresh]
    simp [skeleton, hentry, hfixed]
  · rw [hothers q hq, h q]
    simp [hq]

lemma dropLast_prefix_ne {p : Path} (hp : p ≠ []) : p.dropLast <+: p ∧ p.dropLast ≠ p := by
  refine ⟨List.dropLast_prefix p, ?_⟩
  intro h
  have hlen := congrArg List.length h
  have hpos := List.length_pos_of_ne_nil hp
  rw [List.length_dropLast] at hlen
  omega

lemma destination_headerOf {e : Entry} (h : Next done e) :
    destination (headerOf e).name = e.1 :=
  elements_joined h.nonempty h.plain

lemma extractEntry_directory (host : Host) (ds : List Header) {m : Machine} {e : Entry}
    (hkind : e.2.kind = .directory) (hnext : Next done e)
    (hm : Extracted host.umask done m.files) :
    ∃ m', outcome (extractEntry host destination ds (headerOf e) (contentOf e)) m =
        (.ok (ds ++ [headerOf e]), m') ∧ m'.archives = m.archives ∧
      Extracted host.umask (done ++ [e]) m'.files := by
  have hflag : (headerOf e).typeflag = .dir := by simp [headerOf, written, fileInfoHeader, hkind]
  have hunder : ∀ q, q <+: e.1 → q ≠ e.1 → m.files.isDirectory ([] ++ q) := by
    intro q hq hne
    exact hm.isDirectory (hnext.under q hq hne)
  have hparent : m.files.isDirectory e.1.dropLast :=
    hunder _ (dropLast_prefix_ne hnext.nonempty).1 (dropLast_prefix_ne hnext.nonempty).2
  obtain ⟨m', t, hadd, harch, hentry, hothers⟩ := addEntry_ok host
    ⟨.directory, ((headerOf e).mode &&& 0o777) &&& ~~~host.umask, 0, 0, 0⟩ hnext.nonempty hparent
  refine ⟨m', ?_, harch, hm.snoc hnext hentry ?_ hothers⟩
  · have hmk : outcome (mkdirAll host ((headerOf e).mode &&& 0o777) [] e.1) m = (.ok (), m') := by
      rw [mkdirAll_new host _ hnext.nonempty hunder (hm.lookup_eq_none hnext.fresh)]
      exact hadd
    unfold extractEntry
    simp only [hflag, destination_headerOf hnext]
    rw [outcome_bind_ok hmk, outcome_pure]
  · exact fixed_congr rfl hkind

lemma extractEntry_regular (host : Host) (ds : List Header) {m : Machine} {e : Entry}
    {content : Bytes} (hkind : e.2.kind = .regular content) (hnext : Next done e)
    (hm : Extracted host.umask done m.files) :
    ∃ m', outcome (extractEntry host destination ds (headerOf e) (contentOf e)) m = (.ok ds, m') ∧
      m'.archives = m.archives ∧ Extracted host.umask (done ++ [e]) m'.files := by
  have hflag : (headerOf e).typeflag = .reg := by simp [headerOf, written, fileInfoHeader, hkind]
  have hsize : (headerOf e).size.toNat = content.length := by
    simp [headerOf, written, fileInfoHeader, hkind]
  have hcontent : contentOf e = content := by simp [contentOf, Kind.content, hkind]
  have hmode : (headerOf e).mode = e.2.mode := rfl
  obtain ⟨hpre', hne⟩ := dropLast_prefix_ne hnext.nonempty
  have hparents : ∀ q, q <+: e.1.dropLast → m.files.isDirectory ([] ++ q) := by
    intro q hq
    refine hm.isDirectory (hnext.under q (hq.trans hpre') ?_)
    rintro rfl
    have := hq.length_le
    have hpos := List.length_pos_of_ne_nil hnext.nonempty
    rw [List.length_dropLast] at this
    omega
  have hmk := mkdirAll_exists host 0o755 hparents
  obtain ⟨m₁, t, hadd, harch, hentry, hothers⟩ := addEntry_ok host
    ⟨.regular content, (e.2.mode &&& 0o666) &&& ~~~host.umask, 0, 0, 0⟩ hnext.nonempty
    (hparents _ List.prefix_rfl)
  have hcreate : outcome (createFile host e.1 (e.2.mode &&& 0o666) content) m =
      (.ok (), m₁) := by
    have hfree : ¬ (e.1 = [] ∨ (none : Option Node).isSome) := by simp [hnext.nonempty]
    unfold createFile
    rw [outcome_bind_ok (outcome_get m), hm.lookup_eq_none hnext.fresh]
    simp only [if_neg hfree]
    exact hadd
  let owned : Node :=
    ⟨.regular content, (e.2.mode &&& 0o666) &&& ~~~host.umask, e.2.uid, e.2.gid, t⟩
  have hown : outcome (restoreOwnership e.1 (headerOf e)) m₁ = (.ok (), m₁.put e.1 owned) :=
    restoreOwnership_ok hnext.nonempty hentry
  have htime := chtimes_ok (e := e) hnext.nonempty (lookup_put m₁ e.1 owned)
  refine ⟨(m₁.put e.1 owned).put e.1 { owned with modTime := restoredTime e.2.modTime }, ?_,
    harch, hm.snoc hnext (lookup_put _ _ _) ?_ ?_⟩
  · unfold extractEntry
    simp only [hflag, destination_headerOf hnext, hsize, hcontent, hmode, List.take_length,
      lt_irrefl, if_false]
    rw [outcome_bind_ok hmk, outcome_bind_ok hcreate, outcome_bind_ok hown,
      outcome_bind_ok htime, outcome_pure]
  · simp [owned, restored, hkind]
  · intro q hq
    rw [skeleton_put_ne _ _ hq, skeleton_put_ne _ _ hq, hothers q hq]

/-- Every entry may come when it does. -/
def Ordered (es : List Entry) : Prop := ∀ done e rest, es = done ++ e :: rest → Next done e

/-- **Run of the extraction.** The entries read one by one leave the tree holding what
they restore to, and the directories among them collected. -/
lemma extract_ok (host : Host) (rest : List Entry) {done : List Entry} (ds : List Header)
    {m : Machine} (hordered : Ordered (done ++ rest))
    (hm : Extracted host.umask done m.files) :
    ∃ m', outcome (rest.foldlM (fun ds e => extractEntry host destination ds (headerOf e) (contentOf e)) ds)
        m = (.ok (ds ++ (rest.filter IsDirectory).map headerOf), m') ∧
      m'.archives = m.archives ∧ Extracted host.umask (done ++ rest) m'.files := by
  induction rest generalizing done ds m with
  | nil => exact ⟨m, by simp, rfl, by simpa using hm⟩
  | cons e rest ih =>
    have hnext : Next done e := hordered done e rest rfl
    have happ : done ++ e :: rest = done ++ [e] ++ rest := by simp
    rw [happ] at hordered ⊢
    by_cases hkind : e.2.kind = .directory
    · obtain ⟨m₁, hrun, harch, hm₁⟩ := extractEntry_directory host ds hkind hnext hm
      obtain ⟨m', hrun', harch', hm'⟩ := ih (ds ++ [headerOf e]) hordered hm₁
      refine ⟨m', ?_, harch'.trans harch, hm'⟩
      rw [List.foldlM_cons, outcome_bind_ok hrun, hrun']
      simp [IsDirectory, hkind]
    · obtain ⟨content, hcontent⟩ : ∃ content, e.2.kind = .regular content := by
        have hsupported := hnext.supported
        cases h : e.2.kind with
        | directory => exact absurd h hkind
        | regular content => exact ⟨content, rfl⟩
        | special => exact absurd h hsupported
      obtain ⟨m₁, hrun, harch, hm₁⟩ := extractEntry_regular host ds hcontent hnext hm
      obtain ⟨m', hrun', harch', hm'⟩ := ih ds hordered hm₁
      refine ⟨m', ?_, harch'.trans harch, hm'⟩
      rw [List.foldlM_cons, outcome_bind_ok hrun, hrun']
      simp [IsDirectory, hkind]

/-! ### Finishing the directories -/

lemma finishDirectory_ok (umask : BitVec 12) {e : Entry} {n : Node} {m : Machine} (hne : e.1 ≠ [])
    (hplain : ∀ name ∈ e.1, Plain name) (he : e.2.kind = .directory)
    (hn : m.files.lookup e.1 = some n) (hkind : n.kind = .directory) :
    ∃ m', outcome (finishDirectory destination (headerOf e)) m = (.ok (), m') ∧
      m'.files.lookup e.1 = some (restored umask e.2) ∧
      ∀ q ≠ e.1, m'.files.lookup q = m.files.lookup q := by
  have hdest : destination (headerOf e).name = e.1 := elements_joined hne hplain
  let moded : Node := { n with mode := e.2.mode &&& 0o777 }
  let owned : Node := { moded with uid := e.2.uid, gid := e.2.gid }
  have hmod : outcome (chmod e.1 ((headerOf e).mode &&& 0o777)) m =
      (.ok (), m.put e.1 moded) := updateNode_ok _ hne hn
  have hown : outcome (restoreOwnership e.1 (headerOf e)) (m.put e.1 moded) =
      (.ok (), (m.put e.1 moded).put e.1 owned) := restoreOwnership_ok hne (lookup_put m e.1 moded)
  have htime := chtimes_ok (e := e) hne (lookup_put (m.put e.1 moded) e.1 owned)
  refine ⟨((m.put e.1 moded).put e.1 owned).put e.1
    { owned with modTime := restoredTime e.2.modTime }, ?_, ?_, ?_⟩
  · unfold finishDirectory
    simp only [hdest]
    rw [outcome_bind_ok hmod, outcome_bind_ok hown, htime]
  · rw [lookup_put]
    simp [moded, owned, restored, he, hkind]
  · intro q hq
    rw [lookup_put_ne _ _ hq, lookup_put_ne _ _ hq, lookup_put_ne _ _ hq]

lemma finish_ok (umask : BitVec 12) (es : List Entry) {m : Machine} (hnodup : (es.map (·.1)).Nodup)
    (hes : ∀ e ∈ es, e.1 ≠ [] ∧ (∀ name ∈ e.1, Plain name) ∧ e.2.kind = .directory ∧
      ∃ n, m.files.lookup e.1 = some n ∧ n.kind = .directory) :
    ∃ m', outcome ((es.map headerOf).forM (finishDirectory destination)) m = (.ok (), m') ∧
      (∀ e ∈ es, m'.files.lookup e.1 = some (restored umask e.2)) ∧
      ∀ q ∉ es.map (·.1), m'.files.lookup q = m.files.lookup q := by
  induction es generalizing m with
  | nil => exact ⟨m, rfl, by simp, by simp⟩
  | cons e es ih =>
    rw [List.map_cons, List.nodup_cons] at hnodup
    obtain ⟨hfresh, hnodup⟩ := hnodup
    obtain ⟨hne, hplain, hkind, n, hn, hnkind⟩ := hes e (by simp)
    obtain ⟨m₁, hrun, hentry, hothers⟩ :=
      finishDirectory_ok umask hne hplain hkind hn hnkind
    have hkeep : ∀ f ∈ es, m₁.files.lookup f.1 = m.files.lookup f.1 := by
      intro f hf
      apply hothers
      intro heq
      exact hfresh (heq ▸ List.mem_map_of_mem hf)
    obtain ⟨m', hrun', hentries, hothers'⟩ := ih hnodup (by
      intro f hf
      rw [hkeep f hf]
      exact hes f (by simp [hf]))
    refine ⟨m', ?_, ?_, ?_⟩
    · rw [List.map_cons]
      change outcome (finishDirectory destination (headerOf e) >>= fun _ => _) m = _
      rw [outcome_bind_ok hrun]
      exact hrun'
    · intro f hf
      rcases List.mem_cons.mp hf with rfl | hf
      · rw [hothers' _ hfresh, hentry]
      · exact hentries f hf
    · intro q hq
      rw [List.map_cons, List.mem_cons, not_or] at hq
      rw [hothers' q hq.2, hothers q hq.1]

/-! ### The two loops over a tree within the limits -/

def sizeOf (e : Entry) : Nat := (contentOf e).length

lemma archiveEntries_eq (es : List Entry) (count total : Nat)
    (hkind : ∀ e ∈ es, e.2.kind ≠ .special)
    (hsafe : ∀ e ∈ es, safeArchivePath (joined e.1) = true)
    (hcount : count + es.length ≤ maximumFiles)
    (htotal : total + (es.map sizeOf).sum ≤ maximumExpandedBytes) :
    archiveEntries count total es = .ok (es.map fun e => (headerOf e, contentOf e)) := by
  induction es generalizing count total with
  | nil => rfl
  | cons e es ih =>
    rw [List.length_cons] at hcount
    rw [List.map_cons, List.sum_cons] at htotal
    have hnext := ih (count + 1) (total + sizeOf e)
      (fun f hf => hkind f (by simp [hf])) (fun f hf => hsafe f (by simp [hf]))
      (by omega) (by omega)
    have h₁ : ¬ count + 1 > maximumFiles := by omega
    have h₂ : ¬ (Kind.content e.2.kind).length + total > maximumExpandedBytes := by
      change ¬ sizeOf e + total > _
      omega
    obtain ⟨path, info⟩ := e
    unfold archiveEntries
    simp only [h₁, h₂, hkind _ List.mem_cons_self, hsafe _ List.mem_cons_self, if_false,
      Bool.not_true, Bool.false_eq_true]
    change (archiveEntries (count + 1) (total + sizeOf (path, info)) es >>= _) = _
    rw [hnext]
    rfl

lemma clean_of_safe {name : Bytes} (h : safeArchivePath name = true) : clean name = name := by
  unfold safeArchivePath at h
  simp only [Bool.and_eq_true, beq_iff_eq] at h
  exact h.1.1.2

lemma walkEntries_eq {σ : Type} (visit : σ → Header → Bytes → Helper σ) (es : List Entry)
    (seen : List Bytes) (count total : Nat) (s : σ)
    (hkind : ∀ e ∈ es, e.2.kind ≠ .special)
    (hsafe : ∀ e ∈ es, safeArchivePath (joined e.1) = true)
    (hnodup : (es.map fun e => joined e.1).Nodup)
    (hseen : ∀ e ∈ es, joined e.1 ∉ seen)
    (hcount : count + es.length ≤ maximumFiles)
    (htotal : total + (es.map sizeOf).sum ≤ maximumExpandedBytes) :
    walkEntries visit true seen count total s (es.map fun e => (headerOf e, contentOf e)) =
      es.foldlM (fun s e => visit s (headerOf e) (contentOf e)) s := by
  induction es generalizing seen count total s with
  | nil => rfl
  | cons e es ih =>
    rw [List.length_cons] at hcount
    rw [List.map_cons, List.sum_cons] at htotal
    rw [List.map_cons, List.nodup_cons] at hnodup
    have hname : (headerOf e).name = joined e.1 := rfl
    have hclean : clean (headerOf e).name = joined e.1 := clean_of_safe (hsafe e (by simp))
    have hnext := fun s => ih (joined e.1 :: seen) (count + 1)
      (total + sizeOf e) s (fun f hf => hkind f (by simp [hf]))
      (fun f hf => hsafe f (by simp [hf])) hnodup.2 (by
        intro f hf hmem
        rcases List.mem_cons.mp hmem with heq | hmem
        · exact hnodup.1 (List.mem_map.mpr ⟨f, hf, heq⟩)
        · exact hseen f (by simp [hf]) hmem) (by omega) (by omega)
    have hsize : (headerOf e).size = sizeOf e := by
      cases h : e.2.kind <;>
        simp [headerOf, written, fileInfoHeader, sizeOf, contentOf, Kind.content, h]
    have hflag : (headerOf e).typeflag ≠ .other := by
      have := hkind e (by simp)
      cases h : e.2.kind <;> simp_all [headerOf, written, fileInfoHeader]
    have hlimits : (decide (count + 1 > maximumFiles) || !safeArchivePath (headerOf e).name ||
        decide ((headerOf e).size < 0) || decide ((headerOf e).uid < 0) ||
        decide ((headerOf e).gid < 0)) = false := by
      have huid : (headerOf e).uid = e.2.uid := rfl
      have hgid : (headerOf e).gid = e.2.gid := rfl
      rw [hname, hsafe e (by simp), hsize, huid, hgid]
      simp only [Bool.not_true, Bool.or_false, Bool.or_eq_false_iff, decide_eq_false_iff_not]
      omega
    have hroom : ¬ ((headerOf e).typeflag = .reg ∨ (headerOf e).typeflag = .regA) ∨
        ¬ (headerOf e).size > (maximumExpandedBytes : Int) - total := by
      rw [hsize]
      omega
    have htotal' : (if (headerOf e).typeflag = .reg ∨ (headerOf e).typeflag = .regA
        then (total : Int) + (headerOf e).size else total) = ((total + sizeOf e : Nat) : Int) := by
      rw [hsize]
      cases h : e.2.kind <;>
        simp [headerOf, written, fileInfoHeader, sizeOf, contentOf, Kind.content, h]
    have hnew : seen.contains (joined e.1) = false := by simpa using hseen e (by simp)
    rw [List.map_cons, List.foldlM_cons, walkEntries]
    simp only [hlimits, hflag, hnew, not_and_or.mpr hroom, htotal', hclean, if_false,
      Bool.false_eq_true]
    exact bind_congr hnext

/-! ### The walk of a volume -/

/-- The volume is one that `createArchive` takes: nothing but files and directories, with
acceptable names, within the three limits. -/
structure Accepted (volume : Volume) : Prop where
  kinds : ∀ p n, volume.files.lookup p = some n → n.kind ≠ .special
  names : ∀ p ∈ volume.files, safeArchivePath (joined p) = true
  count : volume.files.entries.length ≤ maximumFiles
  bytes : (volume.files.entries.map fun e => (Kind.content e.2.kind).length).sum ≤
    maximumExpandedBytes

lemma mem_walkOrder {files : Files} {e : Entry} :
    e ∈ files.walkOrder ↔ files.lookup e.1 = some e.2 := by
  obtain ⟨p, n⟩ := e
  unfold Files.walkOrder
  rw [List.mem_map]
  constructor
  · rintro ⟨⟨q, d⟩, hmem, heq⟩
    rw [List.mem_insertionSort] at hmem
    obtain ⟨rfl, rfl⟩ := Prod.mk.inj heq
    exact AList.mem_lookup_iff.mpr hmem
  · intro h
    exact ⟨⟨p, n⟩, (List.mem_insertionSort _).mpr (AList.mem_lookup_iff.mp h), rfl⟩

lemma nodup_walkOrder (files : Files) : (files.walkOrder.map (·.1)).Nodup := by
  have hperm := (List.perm_insertionSort (fun a b : Sigma fun _ : Path => Node => a.1 ≤ b.1)
    files.entries).map Sigma.fst
  have hkeys : (files.entries.map Sigma.fst).Nodup := files.nodupKeys
  unfold Files.walkOrder
  rw [List.map_map]
  exact hperm.nodup_iff.mpr hkeys

lemma sorted_walkOrder (files : Files) :
    files.walkOrder.Pairwise fun a b => a.1 ≤ b.1 := by
  unfold Files.walkOrder
  rw [List.pairwise_map]
  have : Std.Total fun a b : Sigma fun _ : Path => Node => a.1 ≤ b.1 :=
    ⟨fun a b => le_total a.1 b.1⟩
  have : IsTrans (Sigma fun _ : Path => Node) fun a b => a.1 ≤ b.1 := ⟨fun _ _ _ => le_trans⟩
  exact List.pairwise_insertionSort _ _

lemma lookup_eq_of_mem {es : List Entry} {e : Entry} (hnodup : (es.map (·.1)).Nodup)
    (he : e ∈ es) : es.lookup e.1 = some e.2 := by
  induction es with
  | nil => simp at he
  | cons f es ih =>
    obtain ⟨p, node⟩ := f
    rw [List.map_cons, List.nodup_cons] at hnodup
    rcases List.mem_cons.mp he with rfl | hmem
    · simp
    · have hne : e.1 ≠ p := by
        rintro rfl
        exact hnodup.1 (List.mem_map.mpr ⟨e, hmem, rfl⟩)
      simp [List.lookup_cons, beq_false_of_ne hne, ih hnodup.2 hmem]

lemma lookup_eq_none_of_not_mem {es : List Entry} {p : Path} (h : p ∉ es.map (·.1)) :
    es.lookup p = none := by
  rw [List.lookup_eq_none_iff]
  intro e he
  have hne : e.1 ≠ p := by
    rintro rfl
    exact h (List.mem_map_of_mem he)
  simpa using hne.symm

lemma lookup_walkOrder (files : Files) (p : Path) :
    files.walkOrder.lookup p = files.lookup p := by
  cases h : files.lookup p with
  | some n =>
    have hmem : (p, n) ∈ files.walkOrder := mem_walkOrder.mpr h
    exact lookup_eq_of_mem (nodup_walkOrder files) hmem
  | none =>
    apply lookup_eq_none_of_not_mem
    intro hmem
    obtain ⟨⟨q, n⟩, he, rfl⟩ := List.mem_map.mp hmem
    rw [mem_walkOrder.mp he] at h
    cases h

lemma prefix_isDirectory (volume : Volume) {p q : Path} (hp : p ∈ volume.files)
    (hq : q <+: p) (hne : q ≠ p) : volume.files.isDirectory q := by
  induction p using List.reverseRecOn with
  | nil => exact absurd (List.prefix_nil.mp hq) hne
  | append_singleton p name ih =>
    have hdir := volume.closed p name hp
    have hpre : q <+: p := by
      rcases List.prefix_concat_iff.mp hq with h | h
      · exact absurd h hne
      · exact h
    by_cases hqp : q = p
    · exact hqp ▸ hdir
    · have hp' : p ≠ [] := by
        rintro rfl
        exact hqp (List.prefix_nil.mp hpre)
      obtain ⟨n, hn, -⟩ := (isDirectory_iff hp').mp hdir
      exact ih (AList.lookup_isSome.mp (by simp [hn])) hpre hqp

lemma prefix_lt {p q : Path} (h : q <+: p) (hne : q ≠ p) : q < p := by
  obtain ⟨s, rfl⟩ := h
  cases s with
  | nil => simp at hne
  | cons name s =>
    have hnil : ([] : Path) < name :: s := by simp
    have hlt : q ++ [] < q ++ name :: s := List.append_left_lt hnil
    rwa [List.append_nil] at hlt

lemma ordered_walkOrder {volume : Volume} (h : Accepted volume) :
    Ordered volume.files.walkOrder := by
  intro done e rest hes
  have hnodup := nodup_walkOrder volume.files
  have hsorted := sorted_walkOrder volume.files
  have hmem : e ∈ volume.files.walkOrder := by simp [hes]
  have hlookup := mem_walkOrder.mp hmem
  have hin : e.1 ∈ volume.files := AList.lookup_isSome.mp (by simp [hlookup])
  rw [hes] at hnodup hsorted
  rw [List.map_append, List.map_cons] at hnodup
  refine ⟨volume.nonempty _ hin, volume.plain _ hin, ?_, ?_, h.kinds _ _ hlookup⟩
  · apply lookup_eq_none_of_not_mem
    intro hdone
    exact (List.nodup_append.mp hnodup).2.2 _ hdone _ List.mem_cons_self rfl
  · intro q hq hne
    by_cases hroot : q = []
    · exact .inl hroot
    · obtain ⟨d, hd, hkind⟩ := (isDirectory_iff hroot).mp (prefix_isDirectory volume hin hq hne)
      have hqmem : (q, d) ∈ done ++ e :: rest := by
        rw [← hes]
        exact mem_walkOrder.mpr hd
      have hlt := prefix_lt hq hne
      have hdone : (q, d) ∈ done := by
        rcases List.mem_append.mp hqmem with hmem | hmem
        · exact hmem
        · exfalso
          rcases List.mem_cons.mp hmem with rfl | hmem
          · exact hne rfl
          · have hle := (List.pairwise_cons.mp (List.pairwise_append.mp hsorted).2.1).1 _ hmem
            exact absurd hlt (not_lt.mpr hle)
      exact .inr ⟨d, lookup_eq_of_mem (List.nodup_append.mp hnodup).1 hdone, hkind⟩

/-! ### Clearing a volume -/

lemma lookup_removeAll (files : Files) (p q : Path) :
    (files.removeAll p).lookup q = if p <+: q then none else files.lookup q := by
  apply Option.ext
  intro n
  have hmem : n ∈ (files.removeAll p).lookup q ↔
      (⟨q, n⟩ : Sigma fun _ : Path => Node) ∈ (files.removeAll p).entries :=
    AList.mem_lookup_iff
  rw [← Option.mem_def, hmem]
  unfold Files.removeAll
  rw [List.mem_filter, ← AList.mem_lookup_iff]
  by_cases h : p <+: q
  · simp [h, List.isPrefixOf_iff_prefix.mpr h]
  · have hbool : p.isPrefixOf q = false := by
      rw [Bool.eq_false_iff]
      exact fun hp => h (List.isPrefixOf_iff_prefix.mp hp)
    simp [h, hbool]

def cleared (names : List Bytes) (files : Files) : Files :=
  names.foldl (fun files name => files.removeAll [name]) files

lemma outcome_cleared (names : List Bytes) (m : Machine) :
    outcome (names.forM fun name =>
        modify fun m => { m with files := m.files.removeAll [name] }) m =
      (.ok (), { m with files := cleared names m.files }) := by
  induction names generalizing m with
  | nil => rfl
  | cons name names ih =>
    change outcome (modify _ >>= fun _ => _) m = _
    rw [outcome_bind_ok (outcome_modify _ _)]
    exact ih _

lemma lookup_cleared {names : List Bytes} {files : Files} {q : Path}
    (h : files.lookup q = none ∨ ∃ name ∈ names, [name] <+: q) :
    (cleared names files).lookup q = none := by
  induction names generalizing files with
  | nil =>
    rcases h with h | ⟨_, hmem, _⟩
    · exact h
    · simp at hmem
  | cons name names ih =>
    apply ih
    rw [lookup_removeAll]
    by_cases hq : [name] <+: q
    · exact .inl (if_pos hq)
    · rw [if_neg hq]
      rcases h with h | ⟨other, hmem, hother⟩
      · exact .inl h
      · rcases List.mem_cons.mp hmem with rfl | hmem
        · exact absurd hother hq
        · exact .inr ⟨other, hmem, hother⟩

lemma mem_rootNames {files : Files} {name : Bytes} (h : [name] ∈ files) :
    name ∈ files.rootNames := by
  unfold Files.rootNames
  rw [List.mem_filterMap]
  exact ⟨[name], h, rfl⟩

lemma clearDirectory_ok (volume : Volume) {m : Machine} (hm : m.files = volume.files) :
    ∃ m', outcome clearDirectory m = (.ok (), m') ∧ m'.archives = m.archives ∧
      ∀ q, m'.files.lookup q = none := by
  refine ⟨_, (outcome_bind_ok (outcome_get m)).trans (outcome_cleared _ m), rfl, ?_⟩
  intro q
  apply lookup_cleared
  rw [hm]
  by_cases hq : q ∈ volume.files
  · right
    cases q with
    | nil => exact absurd rfl (volume.nonempty _ hq)
    | cons name rest =>
      refine ⟨name, mem_rootNames ?_, by simp⟩
      by_cases hrest : rest = []
      · exact hrest ▸ hq
      · have hdir := prefix_isDirectory volume hq (q := [name]) (by simp)
          (by simpa using Ne.symm hrest)
        obtain ⟨n, hn, -⟩ := (isDirectory_iff (by simp)).mp hdir
        exact AList.lookup_isSome.mp (by simp [hn])
  · exact .inl (AList.lookup_eq_none.mpr hq)

/-! ### The two runs -/

/-- The path is one the helper accepts as a mounted directory. -/
def UsableRoot (host : Host) (root : Bytes) : Prop :=
  isAbs root = true ∧ clean root = root ∧ host.isRealDirectory root = true

instance (host : Host) (root : Bytes) : Decidable (UsableRoot host root) :=
  inferInstanceAs (Decidable (_ ∧ _))

section Run

variable {host : Host} {sourceRoot backupRoot : Bytes} {archiveName : String}

lemma requireDirectory_ok {root : Bytes} (h : UsableRoot host root) :
    requireDirectory host root = pure root := by
  obtain ⟨habs, hclean, hreal⟩ := h
  simp [requireDirectory, habs, hclean, hreal]

lemma run_backup (hname : archiveNamePattern archiveName = true)
    (hsource : UsableRoot host sourceRoot) (hbackup : UsableRoot host backupRoot) :
    run host "backup" sourceRoot backupRoot archiveName = createArchive archiveName := by
  unfold run
  simp only [hname, requireDirectory_ok hsource, requireDirectory_ok hbackup, Bool.not_true,
    Bool.false_eq_true, if_false, pure_bind]

lemma run_restore (hname : archiveNamePattern archiveName = true)
    (hsource : UsableRoot host sourceRoot) (hbackup : UsableRoot host backupRoot) :
    run host "restore" sourceRoot backupRoot archiveName = (do
      validateArchive archiveName
      clearDirectory
      extractArchive host archiveName) := by
  unfold run
  simp only [hname, requireDirectory_ok hsource, requireDirectory_ok hbackup, Bool.not_true,
    Bool.false_eq_true, if_false, pure_bind]

end Run

def archiveOf (volume : Volume) : Archive :=
  volume.files.walkOrder.map fun e => (headerOf e, contentOf e)

lemma perm_walkOrder (files : Files) :
    files.walkOrder.Perm (files.entries.map fun e => (e.1, e.2)) :=
  (List.perm_insertionSort _ _).map _

lemma Accepted.walkOrder {volume : Volume} (h : Accepted volume) :
    (∀ e ∈ volume.files.walkOrder, e.2.kind ≠ .special) ∧
    (∀ e ∈ volume.files.walkOrder, safeArchivePath (joined e.1) = true) ∧
    0 + volume.files.walkOrder.length ≤ maximumFiles ∧
    0 + (volume.files.walkOrder.map sizeOf).sum ≤ maximumExpandedBytes := by
  refine ⟨?_, ?_, ?_, ?_⟩
  · intro e he
    exact h.kinds _ _ (mem_walkOrder.mp he)
  · intro e he
    exact h.names _ (AList.lookup_isSome.mp (by simp [mem_walkOrder.mp he]))
  · rw [(perm_walkOrder _).length_eq, List.length_map, zero_add]
    exact h.count
  · rw [((perm_walkOrder _).map sizeOf).sum_eq, List.map_map, zero_add]
    exact h.bytes

lemma createArchive_ok {volume : Volume} (h : Accepted volume) (archiveName : String)
    {m : Machine} (hm : m.files = volume.files) :
    outcome (createArchive archiveName) m = (.ok (), { m with
      archives := m.archives.insert archiveName (.tar (archiveOf volume) true) }) := by
  obtain ⟨hkinds, hnames, hcount, hbytes⟩ := h.walkOrder
  have hentries : archiveEntries 0 0 m.files.walkOrder = .ok (archiveOf volume) := by
    rw [hm]
    exact archiveEntries_eq _ 0 0 hkinds hnames hcount hbytes
  unfold createArchive
  rw [outcome_bind_ok (outcome_get m), hentries]
  rfl

lemma walkArchive_ok {σ : Type} {volume : Volume} (h : Accepted volume) {archiveName : String}
    {m : Machine} (hm : m.archives.lookup archiveName = some (.tar (archiveOf volume) true))
    (s : σ) (visit : σ → Header → Bytes → Helper σ) :
    outcome (walkArchive archiveName s visit) m =
      outcome (volume.files.walkOrder.foldlM
        (fun s e => visit s (headerOf e) (contentOf e)) s) m := by
  obtain ⟨hkinds, hnames, hcount, hbytes⟩ := h.walkOrder
  have hnodup : (volume.files.walkOrder.map fun e => joined e.1).Nodup := by
    have hpaths := nodup_walkOrder volume.files
    have hmap : (volume.files.walkOrder.map fun e => joined e.1) =
        (volume.files.walkOrder.map (·.1)).map joined := by simp
    rw [hmap]
    refine List.Nodup.map_on ?_ hpaths
    intro p hp q hq heq
    obtain ⟨⟨p, n⟩, hmem, rfl⟩ := List.mem_map.mp hp
    obtain ⟨⟨q, d⟩, hmem', rfl⟩ := List.mem_map.mp hq
    have hpin : p ∈ volume.files :=
      AList.lookup_isSome.mp (by simp [mem_walkOrder.mp hmem])
    have hqin : q ∈ volume.files :=
      AList.lookup_isSome.mp (by simp [mem_walkOrder.mp hmem'])
    exact joined_injective (volume.nonempty _ hpin) (volume.nonempty _ hqin)
      (volume.plain _ hpin) (volume.plain _ hqin) heq
  unfold walkArchive
  rw [outcome_bind_ok (outcome_get m), hm]
  have heq := walkEntries_eq visit volume.files.walkOrder [] 0 0 s hkinds hnames hnodup
    (by simp) hcount hbytes
  exact congrArg (fun x => outcome x m) heq

lemma foldlM_visit_nothing (es : List Entry) :
    es.foldlM (fun (_ : Unit) _ => (pure () : Helper Unit)) () = pure () := by
  induction es with
  | nil => rfl
  | cons e es ih => rw [List.foldlM_cons, pure_bind, ih]

lemma validateArchive_ok {volume : Volume} (h : Accepted volume) {archiveName : String}
    {m : Machine} (hm : m.archives.lookup archiveName = some (.tar (archiveOf volume) true)) :
    outcome (validateArchive archiveName) m = (.ok (), m) := by
  unfold validateArchive
  rw [outcome_bind_ok (outcome_get m), hm]
  change outcome (walkArchive archiveName () _) m = _
  rw [walkArchive_ok h hm, foldlM_visit_nothing, outcome_pure]

lemma lookup_extracted {umask : BitVec 12} {volume : Volume} {files : Files} {p : Path}
    (h : Extracted umask volume.files.walkOrder files)
    (hp : ∀ n, volume.files.lookup p = some n → n.kind ≠ .directory) :
    files.lookup p = (volume.files.lookup p).map (restored umask) := by
  have hs := h p
  rw [lookup_walkOrder] at hs
  cases hn : volume.files.lookup p with
  | none =>
    rw [hn, Option.map_none] at hs
    exact Option.map_eq_none_iff.mp hs
  | some n =>
    have hkind : (restored umask n).kind ≠ .directory := hp n hn
    rw [hn, Option.map_some, fixed_eq_self hkind] at hs
    obtain ⟨d, hd, hfixed⟩ := Option.map_eq_some_iff.mp hs
    have hdkind : d.kind ≠ .directory := by
      rw [← fixed_kind, hfixed]
      exact hkind
    rw [fixed_eq_self hdkind] at hfixed
    rw [hd, hfixed, Option.map_some]

/-- **Extraction into an empty tree.** Every path of the archived volume, and no other,
holds what its entry restores to. -/
lemma extractArchive_ok (host : Host) {volume : Volume} (h : Accepted volume)
    {archiveName : String} {m : Machine}
    (hm : m.archives.lookup archiveName = some (.tar (archiveOf volume) true))
    (hempty : ∀ q, m.files.lookup q = none) :
    ∃ m', outcome (extractArchive host archiveName) m = (.ok (), m') ∧
      ∀ q, m'.files.lookup q = (volume.files.lookup q).map (restored host.umask) := by
  have hstart : Extracted host.umask [] m.files := by
    intro q
    simp [skeleton, hempty q]
  have hordered := ordered_walkOrder h
  obtain ⟨m₁, hrun, -, hm₁⟩ := extract_ok host volume.files.walkOrder [] hordered hstart
  simp only [List.nil_append] at hrun hm₁
  let directories := (volume.files.walkOrder.filter IsDirectory).reverse
  have hsub : ∀ e ∈ directories, volume.files.lookup e.1 = some e.2 ∧ e.2.kind = .directory := by
    intro e he
    have hfilter := List.mem_filter.mp (List.mem_reverse.mp he)
    exact ⟨mem_walkOrder.mp hfilter.1, of_decide_eq_true hfilter.2⟩
  have hnodup : (directories.map (·.1)).Nodup := by
    rw [List.map_reverse, List.nodup_reverse]
    exact (nodup_walkOrder volume.files).sublist (List.filter_sublist.map _)
  obtain ⟨m', hfinish, hdirs, hothers⟩ := finish_ok host.umask directories hnodup (by
    intro e he
    obtain ⟨hlookup, hkind⟩ := hsub e he
    have hin : e.1 ∈ volume.files := AList.lookup_isSome.mp (by simp [hlookup])
    have hdir : m₁.files.isDirectory e.1 := by
      refine hm₁.isDirectory (.inr ⟨e.2, ?_, hkind⟩)
      rw [lookup_walkOrder, hlookup]
    exact ⟨volume.nonempty _ hin, volume.plain _ hin, hkind,
      (isDirectory_iff (volume.nonempty _ hin)).mp hdir⟩)
  refine ⟨m', ?_, ?_⟩
  · unfold extractArchive extractBelow
    rw [outcome_bind_ok ((walkArchive_ok h hm _ _).trans hrun), ← List.map_reverse]
    exact hfinish
  · intro q
    by_cases hq : q ∈ directories.map (·.1)
    · obtain ⟨e, he, rfl⟩ := List.mem_map.mp hq
      rw [hdirs e he, (hsub e he).1, Option.map_some]
    · rw [hothers q hq]
      apply lookup_extracted hm₁
      intro n hn hkind
      apply hq
      refine List.mem_map.mpr ⟨(q, n), ?_, rfl⟩
      rw [List.mem_reverse, List.mem_filter]
      exact ⟨mem_walkOrder.mpr hn, decide_eq_true hkind⟩

/-! ### What is kept -/

/-- What a backup is meant to keep of a file or directory. -/
def observed (n : Node) : Node := { n with mode := n.mode &&& 0o777 }

def SameTree (a b : Files) : Prop := ∀ p, (a.lookup p).map observed = (b.lookup p).map observed

/-- The helper can put the file or directory back: the permissions of a file name no
execute bit and nothing the umask takes away, and the modification time is a whole second
that fits the 64 bits of `UnixNano`. -/
structure Preservable (umask : BitVec 12) (n : Node) : Prop where
  mode : n.kind ≠ .directory → n.mode &&& 0o777 &&& (0o111 ||| umask) = 0
  wholeSecond : n.modTime % 10 ^ 9 = 0
  range : -2 ^ 63 ≤ n.modTime ∧ n.modTime < 2 ^ 63

lemma restoredTime_eq_iff (t : Int) :
    restoredTime t = t ↔ t % 10 ^ 9 = 0 ∧ -2 ^ 63 ≤ t ∧ t < 2 ^ 63 := by
  unfold restoredTime roundSecond zeroTime
  rw [Int.bmod_def]
  split <;> split <;> omega

lemma and_not_eq_self_iff {w : Nat} (x y : BitVec w) : x &&& ~~~y = x ↔ x &&& y = 0 := by
  constructor
  · intro h
    rw [← h, BitVec.and_assoc, BitVec.and_comm (~~~y) y]
    simp
  · intro h
    ext i hi
    have hbit := congrArg (·.getLsbD i) h
    simp [hi] at hbit ⊢
    exact hbit

lemma fileMode_eq_iff (mode umask : BitVec 12) :
    mode &&& 0o666 &&& ~~~umask &&& 0o777 = mode &&& 0o777 ↔
      mode &&& 0o777 &&& (0o111 ||| umask) = 0 := by
  have hmask : (0o777 : BitVec 12) &&& ~~~0o111 = 0o666 := by decide
  have hwhole : (0o666 : BitVec 12) &&& 0o777 = 0o666 := by decide
  have hand : mode &&& 0o666 &&& ~~~umask &&& 0o777 =
      mode &&& 0o777 &&& ~~~(0o111 ||| umask) := by
    rw [BitVec.not_or, ← hwhole, ← hmask]
    ac_rfl
  rw [hand, and_not_eq_self_iff]

lemma observed_restored_iff {umask : BitVec 12} {n : Node} (h : n.kind ≠ .special) :
    observed (restored umask n) = observed n ↔ Preservable umask n := by
  have htime := restoredTime_eq_iff n.modTime
  have hmode := fileMode_eq_iff n.mode umask
  have hdirectory : n.mode &&& 0o777 &&& 0o777 = n.mode &&& 0o777 := by
    rw [BitVec.and_assoc, BitVec.and_self]
  obtain ⟨kind, mode, uid, gid, modTime⟩ := n
  constructor
  · intro heq
    have hmode' := congrArg Node.mode heq
    have htime' := htime.mp (congrArg Node.modTime heq)
    refine ⟨?_, htime'.1, htime'.2⟩
    intro hkind
    cases kind with
    | directory => exact absurd rfl hkind
    | regular content => exact hmode.mp hmode'
    | special => exact absurd rfl h
  · rintro ⟨hmode', hsecond, hrange⟩
    have htime' := htime.mpr ⟨hsecond, hrange⟩
    unfold observed restored
    rw [Node.mk.injEq]
    cases kind with
    | directory => exact ⟨rfl, hdirectory, rfl, rfl, htime'⟩
    | regular content => exact ⟨rfl, hmode.mpr (hmode' (by simp)), rfl, rfl, htime'⟩
    | special => exact absurd rfl h

/-- **A backup followed by a restore.** Both runs succeed on every volume within the limits,
whatever the cleared volume held, and they give the volume back exactly when each of its
files and directories is one the helper can put back. -/
theorem round_trip_iff (writer reader : Host) (volume earlier : Volume)
    (archives : AList fun _ : String => Stored) (ticks : Nat) (sourceRoot backupRoot : Bytes)
    (archiveName : String) (accepted : Accepted volume)
    (hname : archiveNamePattern archiveName = true)
    (hsource : UsableRoot writer sourceRoot) (hbackup : UsableRoot writer backupRoot)
    (hsource' : UsableRoot reader sourceRoot) (hbackup' : UsableRoot reader backupRoot) :
    ∃ saved after,
      outcome (run writer "backup" sourceRoot backupRoot archiveName)
        ⟨volume.files, archives, ticks⟩ = (.ok (), saved) ∧ saved.files = volume.files ∧
      outcome (run reader "restore" sourceRoot backupRoot archiveName)
        { saved with files := earlier.files } = (.ok (), after) ∧
      (SameTree after.files volume.files ↔
        ∀ p n, volume.files.lookup p = some n → Preservable reader.umask n) := by
  let saved : Machine :=
    ⟨volume.files, archives.insert archiveName (.tar (archiveOf volume) true), ticks⟩
  have hstored : saved.archives.lookup archiveName = some (.tar (archiveOf volume) true) :=
    AList.lookup_insert _
  obtain ⟨m₁, hclear, harch, hempty⟩ :=
    clearDirectory_ok earlier (m := { saved with files := earlier.files }) rfl
  obtain ⟨after, hextract, hafter⟩ :=
    extractArchive_ok reader accepted (harch ▸ hstored) hempty
  refine ⟨saved, after, ?_, rfl, ?_, ?_⟩
  · rw [run_backup hname hsource hbackup]
    exact createArchive_ok accepted archiveName rfl
  · rw [run_restore hname hsource' hbackup',
      outcome_bind_ok (validateArchive_ok (m := { saved with files := earlier.files })
        accepted hstored), outcome_bind_ok hclear]
    exact hextract
  · unfold SameTree
    constructor
    · intro hsame p n hn
      have hp := hsame p
      rw [hafter, hn] at hp
      exact (observed_restored_iff (accepted.kinds p n hn)).mp (Option.some.inj hp)
    · intro hkeep p
      rw [hafter]
      cases hn : volume.files.lookup p with
      | none => rfl
      | some n =>
        exact congrArg some
          ((observed_restored_iff (accepted.kinds p n hn)).mpr (hkeep p n hn))

/-! ### A sample volume -/

def sampleHost : Host := ⟨0o022, fun tick => tick, fun _ => true⟩

/-- A directory that holds one file, both last changed ten seconds into 1970. -/
def sampleVolume (mode : BitVec 12) : Volume where
  files := ⟨[⟨[[97]], ⟨.directory, 0o755, 5, 5, 10 ^ 10⟩⟩,
    ⟨[[97], [98]], ⟨.regular [1, 2], mode, 5, 6, 10 ^ 10⟩⟩], by
      change ([[[97]], [[97], [98]]] : List Path).Nodup
      decide⟩
  nonempty := by
    intro p hp
    have : p = [[97]] ∨ p = [[97], [98]] := by simpa [AList.mem_keys, AList.keys] using hp
    rcases this with rfl | rfl <;> simp
  plain := by
    intro p hp
    have : p = [[97]] ∨ p = [[97], [98]] := by simpa [AList.mem_keys, AList.keys] using hp
    rcases this with rfl | rfl <;> decide
  closed := by
    intro p name hp
    have hcases : p ++ [name] = [] ++ [[97]] ∨ p ++ [name] = [[97]] ++ [[98]] := by
      simpa [AList.mem_keys, AList.keys] using hp
    rcases hcases with h | h
    · rw [(List.append_inj' h rfl).1]
      rfl
    · rw [(List.append_inj' h rfl).1]
      rfl

lemma sampleVolume_accepted (mode : BitVec 12) : Accepted (sampleVolume mode) := by
  have hmem : ∀ p, p ∈ (sampleVolume mode).files → p = [[97]] ∨ p = [[97], [98]] := by
    intro p hp
    simpa [sampleVolume, AList.mem_keys, AList.keys] using hp
  refine ⟨?_, ?_, ?_, ?_⟩
  · intro p n hn
    rcases hmem p (AList.lookup_isSome.mp (by simp [hn])) with rfl | rfl
    · obtain rfl : (⟨.directory, 0o755, 5, 5, 10 ^ 10⟩ : Node) = n := Option.some.inj hn
      simp
    · obtain rfl : (⟨.regular [1, 2], mode, 5, 6, 10 ^ 10⟩ : Node) = n := Option.some.inj hn
      simp
  · intro p hp
    rcases hmem p hp with rfl | rfl <;> decide
  · change 2 ≤ maximumFiles
    decide
  · change 2 ≤ maximumExpandedBytes
    decide

theorem round_trip_iff_sample :
    ∃ saved after,
      outcome (run sampleHost "backup" [47, 115] [47, 98] "volume.tar.gz")
        ⟨(sampleVolume 0o640).files, ∅, 0⟩ = (.ok (), saved) ∧
      saved.files = (sampleVolume 0o640).files ∧
      outcome (run sampleHost "restore" [47, 115] [47, 98] "volume.tar.gz")
        { saved with files := (sampleVolume 0o777).files } = (.ok (), after) ∧
      (SameTree after.files (sampleVolume 0o640).files ↔
        ∀ p n, (sampleVolume 0o640).files.lookup p = some n → Preservable 0o022 n) :=
  round_trip_iff sampleHost sampleHost (sampleVolume 0o640) (sampleVolume 0o777) ∅ 0
    [47, 115] [47, 98] "volume.tar.gz" (sampleVolume_accepted _) (by decide)
    (by decide) (by decide) (by decide) (by decide)

/-- An executable file comes back without its execute bits. -/
theorem execute_bits_lost :
    Accepted (sampleVolume 0o755) ∧
    ∃ saved after,
      outcome (run sampleHost "backup" [47, 115] [47, 98] "volume.tar.gz")
        ⟨(sampleVolume 0o755).files, ∅, 0⟩ = (.ok (), saved) ∧
      outcome (run sampleHost "restore" [47, 115] [47, 98] "volume.tar.gz") saved =
        (.ok (), after) ∧
      (after.files.lookup [[97], [98]]).map (·.mode &&& 0o777) = some 0o644 ∧
      ¬ SameTree after.files (sampleVolume 0o755).files := by
  refine ⟨sampleVolume_accepted _, _, _, rfl, rfl, ?_, ?_⟩
  · decide
  · intro h
    have := h [[97], [98]]
    revert this
    decide

end GatewayControl.BackupRoundTrip
