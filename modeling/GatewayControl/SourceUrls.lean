import GatewayControl.GitSource

/-!
Which content a Git source stands for.

The parts of a source are checked one by one and joined to a URL; the URL parser then resolves
dot segments. A compose path has none, but a repository may be called `.` or `..`. `pinned_iff`
says that these are the only ones whose sources are not pinned to the recorded commit.
-/

namespace GatewayControl.SourceUrls

open Text WebUrl Checks GitSource

/-- The recorded parts of a source that is accepted. -/
structure Parts (owner repo revision : List Char) (segments : List (List Char)) : Prop where
  owner : ownerPattern owner = true
  repo : repoPattern repo = true
  length : revision.length = 40
  revision : ∀ c ∈ revision, c.isDigit = true ∨ 'a' ≤ c ∧ c ≤ 'f'
  kept : ∀ segment ∈ segments, Kept segment
  nonempty : segments ≠ []

def sourceOf (owner repo revision : List Char) (segments : List (List Char)) : GitComposeSource where
  repository := String.ofList ("https://github.com/".toList ++ joined [owner, repo])
  owner := String.ofList owner
  repo := String.ofList repo
  commitSha := String.ofList revision
  composePath := String.ofList (joined segments)
  rawUrl := rawUrlOf owner repo revision segments

lemma sourceOf_split (owner repo revision path : List Char) :
    sourceOf owner repo revision (path.splitOn '/') =
      { repository := String.ofList ("https://github.com/".toList ++ joined [owner, repo])
        owner := String.ofList owner
        repo := String.ofList repo
        commitSha := String.ofList revision
        composePath := String.ofList path
        rawUrl := rawUrlOf owner repo revision (path.splitOn '/') } := by
  have hjoined : joined (path.splitOn '/') = path := List.intercalate_splitOn '/'
  unfold sourceOf
  rw [hjoined]

/-! ### What is accepted -/

lemma lowered_hex {text : List Char} (h : ∀ c ∈ text, isHex c = true) :
    ∀ c ∈ lowered text, c.isDigit = true ∨ 'a' ≤ c ∧ c ≤ 'f' := by
  have hlower : ∀ n < 71, 65 ≤ n → 'a' ≤ Char.ofNat (n + 32) ∧ Char.ofNat (n + 32) ≤ 'f' := by
    decide
  intro c hc
  unfold lowered asciiLower at hc
  rw [String.toList_ofList] at hc
  obtain ⟨d, hd, rfl⟩ := List.mem_map.mp hc
  have hhex := h d hd
  simp only [isHex, decide_eq_true_eq] at hhex
  split
  · next hupper =>
    have hlow : 65 ≤ d.toNat := hupper.1
    refine .inr (hlower _ ?_ hlow)
    rcases hhex with hhex | hhex | hhex
    · have : d.toNat ≤ 57 := hhex.2
      omega
    · have hfrom : 97 ≤ d.toNat := hhex.1
      have hto : d.toNat ≤ 90 := hupper.2
      omega
    · have : d.toNat ≤ 70 := hhex.2
      omega
  · next hupper =>
    rcases hhex with hhex | hhex | hhex
    · exact .inl (isDigit_iff.mpr hhex)
    · exact .inr hhex
    · refine absurd ⟨hhex.1, ?_⟩ hupper
      have hto : d.toNat ≤ 70 := hhex.2
      change d.toNat ≤ 90
      omega

lemma length_lowered (text : List Char) : (lowered text).length = text.length := by
  simp [lowered, asciiLower]

lemma repositoryMatch_eq {repository : String} {owner repo : List Char}
    (h : repositoryMatch repository = some (owner, repo)) :
    ownerPattern owner = true ∧ repoPattern repo = true ∧
      repository = String.ofList ("https://github.com/".toList ++ joined [owner, repo]) := by
  unfold repositoryMatch at h
  split at h
  · next hstart =>
    split at h
    · next owner' repo' hsplit =>
      split at h
      · next hpatterns =>
        obtain ⟨rfl, rfl⟩ : owner' = owner ∧ repo' = repo := by simpa using h
        obtain ⟨howner, hrepo⟩ := Bool.and_eq_true_iff.mp hpatterns
        refine ⟨howner, hrepo, ?_⟩
        obtain ⟨rest, hrest⟩ := List.isPrefixOf_iff_prefix.mp hstart
        rw [← hrest, List.drop_left] at hsplit
        have hjoined : rest = joined [owner', repo'] := by
          rw [splitFirst_eq hsplit]
          simp [joined]
        rw [← hjoined, hrest, String.ofList_toList]
      · cases h
    · cases h
  · cases h

lemma path_segments {path : List Char} (hpath : composePathPattern path = true)
    (hparts : (path.splitOn '/').any (fun part => part = [] || part = ['.'] || part = ['.', '.']) =
      false) : ∀ segment ∈ path.splitOn '/', Kept segment := by
  have hplain : ∀ c ∈ path, plain c = true ∨ c = '/' := by
    simp only [composePathPattern, List.any_eq_true, Bool.and_eq_true, List.all_eq_true,
      Bool.or_eq_true, decide_eq_true_eq] at hpath
    obtain ⟨-, -, -, hall⟩ := hpath
    exact hall
  intro segment hsegment
  have hpart := List.any_eq_false.mp hparts segment hsegment
  simp only [Bool.or_eq_true, decide_eq_true_eq, not_or] at hpart
  refine ⟨fun c hc => ?_, hpart.1.2, hpart.2⟩
  have hjoined : ['/'].intercalate (path.splitOn '/') = path := List.intercalate_splitOn '/'
  have hin : c ∈ path := hjoined ▸ mem_joined_of_mem hsegment hc
  refine (hplain c hin).resolve_right ?_
  rintro rfl
  exact notMem_of_mem_splitOn hsegment hc

lemma normalize_ok {repository commitSha composePath : String} {source : GitComposeSource}
    (h : normalizeGitComposeSource repository commitSha composePath = .ok source) :
    ∃ owner repo revision segments, Parts owner repo revision segments ∧
      source = sourceOf owner repo revision segments ∧ source.repository = repository := by
  unfold normalizeGitComposeSource at h
  split at h
  · cases h
  · next owner repo hmatch =>
    obtain ⟨howner, hrepo, hrepository⟩ := repositoryMatch_eq hmatch
    split at h
    · cases h
    · split at h
      · cases h
      · next hcommit =>
        dsimp only at h
        split at h
        · cases h
        · next hpath =>
          obtain rfl := Except.ok.inj h
          simp only [Bool.not_eq_true', Bool.not_eq_false, commitPattern, Bool.and_eq_true,
            beq_iff_eq, List.all_eq_true] at hcommit
          simp only [Bool.or_eq_true, not_or, Bool.not_eq_true', Bool.not_eq_false] at hpath
          obtain ⟨⟨hpattern, -⟩, hparts⟩ := hpath
          refine ⟨owner, repo, lowered commitSha.toList, (normalizedPath composePath).splitOn '/',
            ?_, ?_, hrepository.symm⟩
          · exact ⟨howner, hrepo, by rw [length_lowered, hcommit.1], lowered_hex hcommit.2,
              path_segments hpattern (Bool.eq_false_iff.mpr hparts), List.splitOn_ne_nil _ _⟩
          · exact (sourceOf_split owner repo _ _).symm

/-! ### What is requested -/

variable {r : Runtime} {owner repo revision : List Char} {segments : List (List Char)}

def rawHost : String := "raw.githubusercontent.com"

/-- Node takes the host as it is. -/
structure Reads (r : Runtime) : Prop where
  authority : r.authority rawHost = some { hostname := rawHost }
  isIP : r.isIP rawHost = false

lemma plain_unreserved {c : Char} (h : plain c = true) : unreserved c = true := by
  simp only [plain, Bool.or_eq_true, decide_eq_true_eq] at h
  rcases h with ((h | rfl) | rfl) | rfl
  · unfold unreserved
    rw [h, Bool.true_or]
  · decide
  · decide
  · decide

lemma encodeURIComponent_plain {text : List Char} (h : ∀ c ∈ text, plain c = true) :
    encodeURIComponent text = text := by
  unfold encodeURIComponent
  induction text with
  | nil => rfl
  | cons c cs ih =>
    have hc : percentEncode (fun c => !unreserved c) c = [c] :=
      if_neg (by simp [plain_unreserved (h c List.mem_cons_self)])
    rw [List.flatMap_cons, hc, ih fun c' hc' => h c' (List.mem_cons_of_mem _ hc')]
    rfl

lemma Parts.plain_owner (h : Parts owner repo revision segments) :
    ∀ c ∈ owner, plain c = true := by
  have howner := h.owner
  cases owner with
  | nil => simp
  | cons c cs =>
    simp only [ownerPattern, Bool.and_eq_true, List.all_eq_true, Bool.or_eq_true,
      decide_eq_true_eq] at howner
    obtain ⟨⟨hfirst, -⟩, hrest⟩ := howner
    intro d hd
    unfold plain
    rcases List.mem_cons.mp hd with rfl | hd
    · simp [hfirst]
    · rcases hrest d hd with hd | rfl
      · simp [hd]
      · decide

lemma Parts.plain_repo (h : Parts owner repo revision segments) : ∀ c ∈ repo, plain c = true := by
  have hrepo := h.repo
  simp only [repoPattern, Bool.and_eq_true, List.all_eq_true] at hrepo
  exact hrepo.2

lemma Parts.plain_revision (h : Parts owner repo revision segments) :
    ∀ c ∈ revision, plain c = true := by
  intro c hc
  rcases h.revision c hc with hdigit | ⟨hlow, hhigh⟩
  · have halnum : c.isAlphanum = true := isAlphanum_iff.mpr (.inr hdigit)
    simp [plain, halnum]
  · have hfrom : 97 ≤ c.toNat := hlow
    have hto : c.toNat ≤ 102 := hhigh
    have hlower : c.isLower = true := isLower_iff.mpr ⟨hfrom, by omega⟩
    have halnum : c.isAlphanum = true := isAlphanum_iff.mpr (.inl (.inr hlower))
    simp [plain, halnum]

/-- An owner begins with a letter or a digit, a revision is longer than any dots. -/
lemma Parts.kept_owner (h : Parts owner repo revision segments) : Kept owner := by
  refine ⟨h.plain_owner, ?_, ?_⟩
  · rintro rfl
    exact absurd h.owner (by decide)
  · rintro rfl
    exact absurd h.owner (by decide)

lemma Parts.kept_revision (h : Parts owner repo revision segments) : Kept revision := by
  refine ⟨h.plain_revision, ?_, ?_⟩
  · rintro rfl
    exact absurd h.length (by decide)
  · rintro rfl
    exact absurd h.length (by decide)

lemma Parts.requested (h : Parts owner repo revision segments) (hr : Reads r) :
    requestedUrl r (sourceOf owner repo revision segments) =
      .ok { hostname := rawHost, protocol := "https:", rest := "",
            path := addSegments [] (owner :: repo :: revision :: segments) } := by
  have hsegments : ∀ segment ∈ owner :: repo :: revision :: segments,
      ∀ c ∈ segment, plain c = true := by
    intro segment hsegment
    simp only [List.mem_cons] at hsegment
    rcases hsegment with rfl | rfl | rfl | hsegment
    · exact h.plain_owner
    · exact h.plain_repo
    · exact h.plain_revision
    · exact (h.kept segment hsegment).1
  have hencoded : segments.map encodeURIComponent = segments :=
    (List.map_congr_left fun s hs => encodeURIComponent_plain (h.kept s hs).1).trans
      (List.map_id _)
  have htext : (sourceOf owner repo revision segments).rawUrl =
      plainText rawHost.toList (owner :: repo :: revision :: segments) := by
    unfold sourceOf rawUrlOf
    rw [encodeURIComponent_plain h.plain_owner, encodeURIComponent_plain h.plain_repo, hencoded]
    rfl
  have hhost : ∀ c ∈ rawHost.toList, plain c = true := forall_of_all (by decide)
  unfold requestedUrl
  rw [htext, parseUrl_plain hhost (by decide) hsegments (by simp), String.ofList_toList,
    hr.authority]
  change (if _ then _ else _) = _
  rw [if_neg]
  simp only [hr.isIP]
  decide

/-! ### Pinned sources -/

/-- The request reads the recorded path at the recorded commit of the recorded repository. -/
def Pinned (r : Runtime) (source : GitComposeSource) : Prop :=
  ∃ url, requestedUrl r source = .ok url ∧ url.hostname = rawHost ∧
    url.path = source.owner :: source.repo :: source.commitSha ::
      (source.composePath.toList.splitOn '/').map String.ofList ∧ url.rest = "" ∧
    source.commitSha.toList.length = 40 ∧
    (∀ c ∈ source.commitSha.toList, c.isDigit = true ∨ 'a' ≤ c ∧ c ≤ 'f') ∧
    source.repository = "https://github.com/" ++ source.owner ++ "/" ++ source.repo

/-- The repository is called `.` or `..`. -/
def Dotted (repository : String) : Prop :=
  "/.".toList <:+ repository.toList ∨ "/..".toList <:+ repository.toList

instance (repository : String) : Decidable (Dotted repository) := inferInstanceAs (Decidable (_ ∨ _))

lemma suffix_slash_iff {a b start : List Char} (ha : '/' ∉ a) (hb : '/' ∉ b) :
    '/' :: a <:+ start ++ '/' :: b ↔ b = a := by
  constructor
  · intro h
    rcases List.suffix_or_suffix_of_suffix h (List.suffix_append start ('/' :: b)) with h | h
    · rcases List.suffix_cons_iff.mp h with h | h
      · exact (List.cons.inj h).2.symm
      · exact absurd (h.mem List.mem_cons_self) hb
    · rcases List.suffix_cons_iff.mp h with h | h
      · exact (List.cons.inj h).2
      · exact absurd (h.mem List.mem_cons_self) ha
  · rintro rfl
    exact List.suffix_append _ _

lemma Parts.dotted_iff (h : Parts owner repo revision segments) :
    Dotted (sourceOf owner repo revision segments).repository ↔
      repo = ['.'] ∨ repo = ['.', '.'] := by
  have hslash : '/' ∉ repo := fun hmem => plain_ne (h.plain_repo _ hmem) (by decide) rfl
  have htext : (sourceOf owner repo revision segments).repository.toList =
      ("https://github.com/".toList ++ owner) ++ '/' :: repo := by
    unfold sourceOf joined
    rw [String.toList_ofList, List.append_assoc, List.intercalate_cons_of_ne_nil (by simp),
      List.intercalate_singleton, List.append_assoc]
    rfl
  unfold Dotted
  rw [htext]
  exact or_congr (suffix_slash_iff (by decide) hslash) (suffix_slash_iff (by decide) hslash)

/-- A repository that is kept stands in the path of the request. -/
lemma Parts.path_of_kept (h : Parts owner repo revision segments)
    (hrepo : repo ≠ ['.'] ∧ repo ≠ ['.', '.']) :
    addSegments [] (owner :: repo :: revision :: segments) =
      String.ofList owner :: String.ofList repo :: String.ofList revision ::
        segments.map String.ofList := by
  rw [addSegments_kept]
  · rfl
  · intro segment hsegment
    simp only [List.mem_cons] at hsegment
    rcases hsegment with rfl | rfl | rfl | hsegment
    · exact h.kept_owner
    · exact ⟨h.plain_repo, hrepo⟩
    · exact h.kept_revision
    · exact h.kept segment hsegment

/-- The dots take the repository's own segment away, and two dots take the owner too. -/
lemma Parts.path_of_dots (h : Parts owner repo revision segments)
    (hrepo : repo = ['.'] ∨ repo = ['.', '.']) :
    (addSegments [] (owner :: repo :: revision :: segments)).length < segments.length + 3 := by
  have hrest : ∀ path, addSegments path (revision :: segments) =
      path ++ (revision :: segments).map String.ofList := by
    refine addSegments_kept fun segment hsegment => ?_
    rcases List.mem_cons.mp hsegment with rfl | hsegment
    · exact h.kept_revision
    · exact h.kept segment hsegment
  rw [addSegments_cons _ _ (by simp), addSegments_cons _ _ (by simp), addSegment_kept h.kept_owner,
    hrest]
  rcases hrepo with rfl | rfl
  · have hpath : addSegment ([] ++ [String.ofList owner]) ['.'] false = [String.ofList owner] := rfl
    rw [hpath]
    simp
  · have hpath : addSegment ([] ++ [String.ofList owner]) ['.', '.'] false = [] := rfl
    rw [hpath]
    simp

lemma Parts.splitOn_path (h : Parts owner repo revision segments) :
    (sourceOf owner repo revision segments).composePath.toList.splitOn '/' = segments := by
  have hslash : ∀ segment ∈ segments, '/' ∉ segment := fun segment hs hmem =>
    plain_ne ((h.kept segment hs).1 _ hmem) (by decide) rfl
  unfold sourceOf joined
  rw [String.toList_ofList]
  exact List.splitOn_intercalate '/' hslash h.nonempty

lemma repository_joined (owner repo revision : List Char) (segments : List (List Char)) :
    (sourceOf owner repo revision segments).repository =
      "https://github.com/" ++ (sourceOf owner repo revision segments).owner ++ "/" ++
        (sourceOf owner repo revision segments).repo := by
  unfold sourceOf joined
  rw [List.intercalate_cons_of_ne_nil (by simp), List.intercalate_singleton, String.ofList_append,
    String.ofList_append, String.ofList_append, String.ofList_toList, String.append_assoc,
    String.append_assoc]
  rfl

lemma Parts.pinned_of (h : Parts owner repo revision segments) (hr : Reads r) :
    Pinned r (sourceOf owner repo revision segments) ↔
      ¬Dotted (sourceOf owner repo revision segments).repository := by
  unfold Pinned
  rw [h.dotted_iff, h.requested hr, h.splitOn_path]
  constructor
  · rintro ⟨url, hurl, -, hpath, -⟩ hdots
    obtain rfl := Except.ok.inj hurl
    have hshort := h.path_of_dots hdots
    have hlong := congrArg List.length hpath
    simp only [List.length_cons, List.length_map] at hlong
    omega
  · intro hdots
    refine ⟨_, rfl, rfl, h.path_of_kept (not_or.mp hdots), rfl, ?_, ?_, ?_⟩
    · exact (congrArg List.length String.toList_ofList).trans h.length
    · intro c hc
      unfold sourceOf at hc
      rw [String.toList_ofList] at hc
      exact h.revision c hc
    · exact repository_joined owner repo revision segments

/-- The path of a pinned request says which source it is. -/
lemma Parts.eq_of_requested {owner' repo' revision' : List Char} {segments' : List (List Char)}
    (h : Parts owner repo revision segments) (h' : Parts owner' repo' revision' segments')
    (hr : Reads r) (hrepo : ¬Dotted (sourceOf owner repo revision segments).repository)
    (hrepo' : ¬Dotted (sourceOf owner' repo' revision' segments').repository)
    (heq : requestedUrl r (sourceOf owner repo revision segments) =
      requestedUrl r (sourceOf owner' repo' revision' segments')) :
    sourceOf owner repo revision segments = sourceOf owner' repo' revision' segments' := by
  rw [h.dotted_iff, not_or] at hrepo
  rw [h'.dotted_iff, not_or] at hrepo'
  rw [h.requested hr, h'.requested hr, h.path_of_kept hrepo, h'.path_of_kept hrepo'] at heq
  have hpath := congrArg Url.path (Except.ok.inj heq)
  simp only [List.cons.injEq, String.ofList_inj] at hpath
  obtain ⟨rfl, rfl, rfl, hmap⟩ := hpath
  obtain rfl := List.map_injective_iff.mpr (fun _ _ => String.ofList_inj.mp) hmap
  rfl

/-- Accepted sources are pinned to their commits and told apart by their requests just if no
repository is called `.` or `..`. -/
theorem pinned_iff {repository commitSha composePath repository' commitSha' composePath' : String}
    {source source' : GitComposeSource} (hr : Reads r)
    (hsource : normalizeGitComposeSource repository commitSha composePath = .ok source)
    (hsource' : normalizeGitComposeSource repository' commitSha' composePath' = .ok source') :
    (Pinned r source ∧ Pinned r source' ∧
        (source ≠ source' → requestedUrl r source ≠ requestedUrl r source')) ↔
      ¬Dotted repository ∧ ¬Dotted repository' := by
  obtain ⟨owner, repo, revision, segments, hparts, rfl, rfl⟩ := normalize_ok hsource
  obtain ⟨owner', repo', revision', segments', hparts', rfl, rfl⟩ := normalize_ok hsource'
  rw [hparts.pinned_of hr, hparts'.pinned_of hr]
  constructor
  · rintro ⟨hrepo, hrepo', -⟩
    exact ⟨hrepo, hrepo'⟩
  · rintro ⟨hrepo, hrepo'⟩
    refine ⟨hrepo, hrepo', fun hne heq => hne ?_⟩
    exact hparts.eq_of_requested hparts' hr hrepo hrepo' heq

def revisionA : String := String.ofList (List.replicate 40 'a')

def node : Runtime where
  authority := fun text => some { hostname := text }
  isIP := fun _ => false

lemma reads_node : Reads node := ⟨rfl, rfl⟩

def sampleSource : GitComposeSource :=
  sourceOf "octo".toList "hello".toList revisionA.toList ["main".toList, "compose.yaml".toList]

def dottedSource : GitComposeSource :=
  sourceOf "octo".toList ['.'] revisionA.toList ["main".toList, "compose.yaml".toList]

lemma sample_accepted : normalizeGitComposeSource "https://github.com/octo/hello" revisionA
    "main/compose.yaml" = .ok sampleSource := by
  decide

lemma dotted_accepted : normalizeGitComposeSource "https://github.com/octo/." revisionA
    "main/compose.yaml" = .ok dottedSource := by
  decide

theorem pinned_sample :
    (Pinned node sampleSource ∧ Pinned node dottedSource ∧ (sampleSource ≠ dottedSource →
        requestedUrl node sampleSource ≠ requestedUrl node dottedSource)) ↔
      ¬Dotted "https://github.com/octo/hello" ∧ ¬Dotted "https://github.com/octo/." :=
  pinned_iff reads_node sample_accepted dotted_accepted

lemma dotted_parts : Parts "octo".toList ['.'] revisionA.toList
    ["main".toList, "compose.yaml".toList] where
  owner := by decide
  repo := by decide
  length := by decide
  revision := forall_of_all (by decide)
  kept := by
    simp only [List.forall_mem_cons]
    exact ⟨⟨forall_of_all (by decide), by decide, by decide⟩,
      ⟨forall_of_all (by decide), by decide, by decide⟩, by simp⟩
  nonempty := by decide

/-- The branch `main` of a repository that is called like the commit is read. -/
theorem branch_requested :
    normalizeGitComposeSource "https://github.com/octo/." revisionA "main/compose.yaml" =
        .ok dottedSource ∧
      (requestedUrl node dottedSource).toOption.map Url.path =
        some ["octo", revisionA, "main", "compose.yaml"] ∧ ¬Pinned node dottedSource := by
  refine ⟨dotted_accepted, ?_, ?_⟩
  · unfold dottedSource
    rw [dotted_parts.requested reads_node]
    decide
  · have hdotted : Dotted dottedSource.repository := dotted_parts.dotted_iff.mpr (.inl rfl)
    exact fun hpinned => (dotted_parts.pinned_of reads_node).mp hpinned hdotted

end GatewayControl.SourceUrls
