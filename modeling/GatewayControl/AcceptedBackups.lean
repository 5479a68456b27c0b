import GatewayControl.CompleteBackup

/-!
What is backed up against what the helper takes: the archives it makes, and the names the
executor gives them.
-/

namespace GatewayControl.AcceptedBackups

open FileTree BackupHelper BackupRoundTrip Text Programs Host StackRestore

/-! ### Archives -/

/-- A walk that ends well kept within every limit. -/
lemma archiveEntries_limits {es : List Entry} {count total : ℕ} {entries : Archive}
    (hcount : count ≤ maximumFiles) (htotal : total ≤ maximumExpandedBytes)
    (h : archiveEntries count total es = .ok entries) :
    (∀ e ∈ es, e.2.kind ≠ .special) ∧ (∀ e ∈ es, safeArchivePath (joined e.1) = true) ∧
      count + es.length ≤ maximumFiles ∧ total + (es.map BackupRoundTrip.sizeOf).sum ≤ maximumExpandedBytes := by
  induction es generalizing count total entries with
  | nil => simp [hcount, htotal]
  | cons e es ih =>
    obtain ⟨path, info⟩ := e
    unfold archiveEntries at h
    by_cases h₁ : count + 1 > maximumFiles
    · simp only [h₁, if_true] at h
      cases h
    by_cases h₂ : info.kind = .special
    · simp only [h₁, h₂, if_false, if_true] at h
      cases h
    by_cases h₃ : safeArchivePath (joined path) = true
    swap
    · simp only [h₁, h₂, h₃, if_false, if_true, Bool.not_false] at h
      cases h
    by_cases h₄ : (Kind.content info.kind).length + total > maximumExpandedBytes
    · simp only [h₁, h₂, h₃, h₄, if_false, if_true, Bool.not_true, Bool.false_eq_true] at h
      cases h
    have hsize : BackupRoundTrip.sizeOf (path, info) = (Kind.content info.kind).length := rfl
    cases hrest : archiveEntries (count + 1) (total + (Kind.content info.kind).length) es with
    | error err =>
      simp only [h₁, h₂, h₃, h₄, hrest, if_false, Bool.not_true, Bool.false_eq_true] at h
      cases h
    | ok rest =>
      obtain ⟨hkinds, hsafe, hfiles, hbytes⟩ := ih (by omega) (by omega) hrest
      refine ⟨?_, ?_, ?_, ?_⟩
      · intro e he
        rcases List.mem_cons.mp he with rfl | he
        · exact h₂
        · exact hkinds e he
      · intro e he
        rcases List.mem_cons.mp he with rfl | he
        · exact h₃
        · exact hsafe e he
      · rw [List.length_cons]
        omega
      · rw [List.map_cons, List.sum_cons, hsize]
        omega

/-- A volume that is archived without an error is within the limits. -/
lemma accepted_of_created {volume : Volume} {archive : String} {m m' : Machine}
    (hm : m.files = volume.files) (h : outcome (createArchive archive) m = (.ok (), m')) :
    Accepted volume := by
  cases hentries : archiveEntries 0 0 m.files.walkOrder with
  | error err =>
    unfold createArchive at h
    rw [outcome_bind_ok (outcome_get m), hentries] at h
    cases congrArg Prod.fst h
  | ok entries =>
    rw [hm] at hentries
    obtain ⟨hkinds, hsafe, hfiles, hbytes⟩ :=
      archiveEntries_limits (Nat.zero_le _) (Nat.zero_le _) hentries
    refine ⟨?_, ?_, ?_, ?_⟩
    · intro p n hn
      exact hkinds (p, n) (mem_walkOrder.mpr hn)
    · intro p hp
      obtain ⟨n, hn⟩ := Option.isSome_iff_exists.mp (AList.lookup_isSome.mpr hp)
      exact hsafe (p, n) (mem_walkOrder.mpr hn)
    · rw [(perm_walkOrder _).length_eq, List.length_map] at hfiles
      omega
    · rw [((perm_walkOrder _).map BackupRoundTrip.sizeOf).sum_eq, List.map_map, Nat.zero_add] at hbytes
      exact hbytes

/-- The validation accepts what the creation writes. -/
lemma created_valid {volume : Volume} {archive : String} {m m' : Machine}
    (hm : m.files = volume.files) (h : outcome (createArchive archive) m = (.ok (), m')) :
    outcome (validateArchive archive) m' = (.ok (), m') := by
  have haccepted := accepted_of_created hm h
  rw [createArchive_ok haccepted archive hm] at h
  obtain ⟨-, rfl⟩ := Prod.mk.inj h
  exact validateArchive_ok haccepted (AList.lookup_insert _)

/-! ### Names -/

/-- The helper does not refuse an archive for its name. -/
def TakesName (archive : String) : Prop :=
  ∀ host source backup m,
    (outcome (run host "backup" source backup archive) m).1 ≠
      .error { text := "invalid archive name" }

lemma requireDirectory_cases (host : BackupHelper.Host) (root : Bytes) :
    requireDirectory host root = pure root ∨
      requireDirectory host root = BackupHelper.fail "root must be an absolute, clean path" ∨
      requireDirectory host root = BackupHelper.fail "root must be a real directory" := by
  unfold requireDirectory
  by_cases h₁ : (!isAbs root || clean root != root) = true
  · right
    left
    simp only [h₁, if_true]
    rfl
  by_cases h₂ : (!host.isRealDirectory root) = true
  · right
    right
    simp only [h₁, h₂, if_true]
    rfl
  · left
    simp only [h₁, h₂]
    rfl

lemma takesName_iff {archive : String} :
    TakesName archive ↔ archiveNamePattern archive = true := by
  constructor
  · intro h
    by_contra hname
    rw [Bool.not_eq_true] at hname
    refine h sampleHost [47] [47] ⟨∅, ∅, 0⟩ ?_
    unfold run
    simp only [hname, Bool.not_false, if_true]
    rfl
  · intro hname host source backup m
    unfold run
    simp only [hname, Bool.not_true, Bool.false_eq_true, if_false]
    rcases requireDirectory_cases host source with h | h | h
    · rcases requireDirectory_cases host backup with h' | h' | h'
      · rw [h, h']
        change (outcome (createArchive archive) m).1 ≠ _
        unfold createArchive
        rw [outcome_bind_ok (outcome_get m)]
        cases archiveEntries 0 0 m.files.walkOrder with
        | ok entries => exact nofun
        | error err =>
          intro heq
          have htext : "create archive: " ++ err.text = "invalid archive name" :=
            congrArg HelperError.text (Except.error.inj heq)
          have hchars := congrArg (fun s : String => s.toList.head?) htext
          simp [String.toList_append] at hchars
      · rw [h, h']
        exact fun heq => absurd (congrArg HelperError.text (Except.error.inj heq)) (by decide)
      · rw [h, h']
        exact fun heq => absurd (congrArg HelperError.text (Except.error.inj heq)) (by decide)
    · rw [h]
      exact fun heq => absurd (congrArg HelperError.text (Except.error.inj heq)) (by decide)
    · rw [h]
      exact fun heq => absurd (congrArg HelperError.text (Except.error.inj heq)) (by decide)

/-- The names `resolveOwnedVolumes` returns are names Compose allows. -/
lemma resolveVolume_ends (e : Executor) (projectName logical : String) :
    (resolveVolume e projectName logical).Ends fun v => composeServicePattern v.1 = true := by
  unfold resolveVolume
  by_cases hlogical : composeServicePattern logical = true
  swap
  · rw [if_pos (by simpa using hlogical)]
    exact Fallible.ends_throw _
  rw [if_neg (by simp [hlogical])]
  refine Fallible.Ends.bind (Fallible.ends_true _) fun listed _ => ?_
  split
  · split_ifs
    · exact Fallible.ends_throw _
    · refine Fallible.Ends.bind (Fallible.ends_true _) fun inspected _ => ?_
      split_ifs
      · exact Fallible.ends_pure hlogical
      · exact Fallible.ends_throw _
  · exact Fallible.ends_throw _

lemma resolveVolumes_ends (e : Executor) (projectName : String) (names : List String) :
    (resolveVolumes e projectName names).Ends
      fun vs => ∀ v ∈ vs, composeServicePattern v.1 = true := by
  induction names with
  | nil => exact Fallible.ends_pure fun v hv => absurd hv List.not_mem_nil
  | cons logical rest ih =>
    refine Fallible.Ends.bind (resolveVolume_ends e projectName logical) fun v hv => ?_
    refine Fallible.Ends.bind ih fun vs hvs => Fallible.ends_pure ?_
    intro w hw
    rcases List.mem_cons.mp hw with rfl | hw
    · exact hv
    · exact hvs w hw

lemma resolveOwnedVolumes_ends (e : Executor) (base : List String) (projectName : String) :
    (resolveOwnedVolumes e base projectName).Ends
      fun vs => ∀ v ∈ vs, composeServicePattern v.1 = true := by
  unfold resolveOwnedVolumes
  refine Fallible.Ends.bind (Fallible.ends_true _) fun output _ => ?_
  dsimp only
  split_ifs
  · exact Fallible.ends_throw _
  · exact resolveVolumes_ends e projectName _

lemma lowerOrDigit_iff {c : Char} (h : c.isAlphanum = true) :
    isLowerOrDigit c = true ↔ c.isUpper = false := by
  rw [isAlphanum_iff, isUpper_iff, isLower_iff, isDigit_iff] at h
  rw [isLowerOrDigit_iff, ← Bool.not_eq_true, isUpper_iff]
  omega

/-- The archive of a volume can be named after it exactly when the name has no capitals. -/
lemma archiveNamePattern_iff {logical : String} (h : composeServicePattern logical = true) :
    archiveNamePattern (logical ++ ".tar.gz") = true ↔
      ∀ c ∈ logical.toList, c.isUpper = false := by
  have hsuffix : (logical ++ ".tar.gz").toList =
      logical.toList ++ ['.', 't', 'a', 'r', '.', 'g', 'z'] := by
    rw [String.toList_append]
    rfl
  unfold archiveNamePattern
  unfold composeServicePattern at h
  unfold identifierPattern at h ⊢
  rw [hsuffix]
  simp only [List.length_append, List.length_cons, List.length_nil, Nat.add_sub_cancel,
    List.drop_left, List.take_left, String.toList_ofList, beq_self_eq_true, Bool.true_and]
  cases hlist : logical.toList with
  | nil =>
    rw [hlist] at h
    cases h
  | cons c cs =>
    rw [hlist] at h
    simp only [Bool.and_eq_true, List.all_eq_true, decide_eq_true_eq] at h ⊢
    obtain ⟨⟨hhead, htail⟩, hlen⟩ := h
    have hchar : ∀ x ∈ cs, ((isLowerOrDigit x || ['_', '.', '-'].contains x) = true ↔
        x.isUpper = false) := by
      intro x hx
      by_cases hmark : x ∈ ['_', '.', '-']
      · have hno : ∀ y ∈ ['_', '.', '-'], y.isUpper = false := by simp
        simp [hno x hmark, hmark]
      · have hmark' : x ∉ ['.', '_', '-'] := by
          simp only [List.mem_cons, List.not_mem_nil, or_false, not_or] at hmark ⊢
          exact ⟨hmark.2.1, hmark.1, hmark.2.2⟩
        have halpha := htail x hx
        rw [List.contains_eq_mem, decide_eq_false hmark', Bool.or_false] at halpha
        rw [List.contains_eq_mem, decide_eq_false hmark, Bool.or_false]
        exact lowerOrDigit_iff halpha
    constructor
    · rintro ⟨⟨hc, hcs⟩, -⟩ x hx
      rcases List.mem_cons.mp hx with rfl | hx
      · exact (lowerOrDigit_iff hhead).mp hc
      · exact (hchar x hx).mp (hcs x hx)
    · intro hall
      refine ⟨⟨(lowerOrDigit_iff hhead).mpr (hall c List.mem_cons_self), fun x hx => ?_⟩, ?_⟩
      · exact (hchar x hx).mpr (hall x (List.mem_cons_of_mem _ hx))
      · omega

/-! ### Whatever can be backed up -/

/-- Every archive of a tree is a valid one, and no volume is refused for its name. -/
def Accepts (volumes : List (String × String)) : Prop :=
  (∀ (volume : Volume) (archive : String) (m m' : Machine), m.files = volume.files →
    outcome (createArchive archive) m = (.ok (), m') →
    outcome (validateArchive archive) m' = (.ok (), m')) ∧
  ∀ v ∈ volumes, TakesName (v.1 ++ ".tar.gz")

/-- **The helper takes what is backed up exactly when no volume has a capital in its name.** The
effects the executor resolves the volumes with can be any. -/
theorem accepts_iff {σ : Type} (exec : σ → (o : HostOp) → o.Res → σ → Prop) (e : Executor)
    (base : List String) (projectName : String) (s t : σ) (volumes : List (String × String))
    (h : (resolveOwnedVolumes e base projectName).run.Can (F := interface) exec s
      (.ok volumes) t) :
    Accepts volumes ↔ ∀ v ∈ volumes, ∀ c ∈ v.1.toList, c.isUpper = false := by
  have hservice : ∀ v ∈ volumes, composeServicePattern v.1 = true :=
    can_ends h (resolveOwnedVolumes_ends e base projectName) _ rfl
  constructor
  · rintro ⟨-, hnames⟩ v hv
    exact (archiveNamePattern_iff (hservice v hv)).mp (takesName_iff.mp (hnames v hv))
  · intro hlower
    refine ⟨fun volume archive m m' hm hcreated => created_valid hm hcreated, fun v hv => ?_⟩
    exact takesName_iff.mpr ((archiveNamePattern_iff (hservice v hv)).mpr (hlower v hv))

/-! ### Two volumes -/

open CompleteBackup BackupRuns in
/-- The sample agent resolves a volume of that name. -/
lemma resolves_sample (name : List Char) (h : Usable name)
    (htext : nonemptyUniqueLines (LimitedOutput.received 1024 (String.ofList name)) =
      [String.ofList name]) : ∃ s t,
    (resolveOwnedVolumes sampleSetup.e ["compose"] "shop").run.Can (F := interface)
      (backupEffect sampleSetup) s
      (.ok [(String.ofList name, sampleDockerName (String.ofList name))]) t := by
  have hreadable : Readable sampleSetup samplePayload.projectName ([name].map String.ofList)
      sampleDockerName fun n => labelText n.toList :=
    readable_of_usable (by simp) (by simp) (by simpa using h)
  let start : HostState Docker := ⟨fun _ => none, none, [], fun _ => none⟩
  obtain ⟨_, t, hcan, vs, rfl, -, rfl, -⟩ :=
    resolveOwnedVolumes_backs [] hreadable htext start fun _ => rfl
  exact ⟨start, t, hcan⟩

theorem accepts_iff_sample : Accepts [("data", "shop-d")] ↔
    ∀ v ∈ [("data", "shop-d")], ∀ c ∈ v.1.toList, c.isUpper = false := by
  obtain ⟨s, t, h⟩ := resolves_sample ['d', 'a', 't', 'a']
    ⟨by decide, by decide, by decide, by decide⟩ (by decide)
  have hname : String.ofList ['d', 'a', 't', 'a'] = "data" := rfl
  have hdocker : CompleteBackup.sampleDockerName "data" = "shop-d" := by decide
  rw [hname, hdocker] at h
  exact accepts_iff _ _ _ _ s t _ h

/-- A volume called `Data` is resolved, and the helper refuses its archive. -/
theorem capital_refused :
    (∃ s t, (resolveOwnedVolumes CompleteBackup.sampleSetup.e ["compose"] "shop").run.Can
      (F := interface) (BackupRuns.backupEffect CompleteBackup.sampleSetup) s
      (.ok [("Data", "shop-D")]) t) ∧ ¬ Accepts [("Data", "shop-D")] := by
  constructor
  · obtain ⟨s, t, h⟩ := resolves_sample ['D', 'a', 't', 'a']
      ⟨by decide, by decide, by decide, by decide⟩ (by decide)
    have hname : String.ofList ['D', 'a', 't', 'a'] = "Data" := rfl
    have hdocker : CompleteBackup.sampleDockerName "Data" = "shop-D" := by decide
    rw [hname, hdocker] at h
    exact ⟨s, t, h⟩
  · rintro ⟨-, hnames⟩
    have htakes := takesName_iff.mp (hnames _ List.mem_cons_self)
    revert htakes
    decide

end GatewayControl.AcceptedBackups
