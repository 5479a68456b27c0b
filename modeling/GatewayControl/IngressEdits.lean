import GatewayControl.Ingress

/-!
What enabling and disabling a host name promise of the list they write, and which lists they keep
that promise for.
-/

namespace GatewayControl.IngressEdits

open Json Requests Ingress

variable {m : CaseMapping}

/-- How the connector matches rules, where a rule for a host name without a path is matched by
every request for that host. -/
structure Router (m : CaseMapping) extends Matching m where
  exact : ∀ rule s request, rule.lookup "hostname" = some (.str s) →
    rule.lookup "path" = none → request.host = s → matched rule request

/-- The rule has a host name, which is not this one. -/
def namesOther (m : CaseMapping) (hostname : String) (rule : Rule) : Bool :=
  isNamed rule && lowerHostname m rule != some (some hostname)

/-- The service a rule sends its requests to. -/
def SendsTo (rule : Rule) (service : String) : Prop := rule.lookup "service" = some (.str service)

def CatchAll (c : Router m) (rule : Rule) : Prop := ∀ request, c.matched rule request

/-- What the two functions are to do with a list. -/
structure Edits (c : Router m) (hostname : String) (list on off : List Rule) : Prop where
  enabled : enabledIngress m list hostname = some on
  disabled : disabledIngress m list hostname = some off
  routed : ∀ request, request.host = hostname →
    ∃ rule, on.find? (c.matched · request) = some rule ∧ SendsTo rule tunnelService
  unnamed : ∀ rule ∈ off, lowerHostname m rule ≠ some (some hostname)
  closed : ∀ written ∈ [on, off], ∃ rule, written.getLast? = some rule ∧ CatchAll c rule
  kept : ∀ rule ∈ list, lowerHostname m rule ≠ some (some hostname) → rule ∈ on ∧ rule ∈ off
  again : enabledIngress m on hostname = some on ∧ disabledIngress m off hostname = some off
  undone : disabledIngress m on hostname = some off

/-- The lists that can be edited. -/
structure Editable (c : Router m) (hostname : String) (list : List Rule) : Prop where
  texts : ∀ rule ∈ list, (lowerHostname m rule).isSome
  clear : ∀ request, request.host = hostname → ∀ rule,
    (list.filter (namesOther m hostname)).find? (c.matched · request) = some rule →
      SendsTo rule tunnelService
  closed : ∀ rule, (list.filter fun rule => !isNamed rule).getLast? = some rule →
    CatchAll c rule

/-! ### What is written -/

lemma retained_iff {list kept : List Rule} {hostname : String} :
    retained m list hostname = some kept ↔ (∀ rule ∈ list, (lowerHostname m rule).isSome) ∧
      kept = list.filter fun rule => lowerHostname m rule != some (some hostname) := by
  unfold retained
  rw [← List.all_eq_true]
  split_ifs with h
  · simp [h, eq_comm]
  · simp [h]

lemma lowerHostname_unnamed {rule : Rule} (h : ¬ isNamed rule) :
    lowerHostname m rule = some none := by
  unfold isNamed at h
  rw [Option.not_isSome_iff_eq_none] at h
  unfold lowerHostname
  rw [h]

lemma catchAllRules_ne_nil (kept : List Rule) : catchAllRules kept ≠ [] := by
  unfold catchAllRules
  dsimp only
  split_ifs with h
  · simp
  · simpa using h

lemma catchAllRules_unnamed (kept : List Rule) : ∀ rule ∈ catchAllRules kept, ¬ isNamed rule := by
  intro rule hrule
  unfold catchAllRules at hrule
  dsimp only at hrule
  split_ifs at hrule
  · rw [List.mem_singleton.mp hrule]
    decide
  · simpa using (List.mem_filter.mp hrule).2

lemma mem_catchAllRules {kept : List Rule} {rule : Rule} (hrule : rule ∈ kept)
    (h : ¬ isNamed rule) : rule ∈ catchAllRules kept := by
  have hmem : rule ∈ kept.filter fun rule => !isNamed rule :=
    List.mem_filter.mpr ⟨hrule, by simpa using h⟩
  unfold catchAllRules
  dsimp only
  rwa [if_neg (by simpa using List.ne_nil_of_mem hmem)]

lemma enabledIngress_eq {list kept : List Rule} {hostname : String}
    (h : retained m list hostname = some kept) : enabledIngress m list hostname =
      some (kept.filter isNamed ++ [hostnameRule hostname] ++ catchAllRules kept) := by
  unfold enabledIngress
  rw [h]
  rfl

lemma disabledIngress_eq {list kept : List Rule} {hostname : String}
    (h : retained m list hostname = some kept) :
    disabledIngress m list hostname = some (kept.filter isNamed ++ catchAllRules kept) := by
  unfold disabledIngress
  rw [h]
  rfl

/-- A written list is read again as what was kept of it: the named rules and the others. -/
lemma retained_written (own : List Rule) {kept : List Rule} {hostname : String}
    (hkept : ∀ rule ∈ kept, (lowerHostname m rule).isSome ∧
      lowerHostname m rule ≠ some (some hostname))
    (hown : ∀ rule ∈ own, lowerHostname m rule = some (some hostname)) :
    retained m (kept.filter isNamed ++ own ++ catchAllRules kept) hostname =
      some (kept.filter isNamed ++ catchAllRules kept) := by
  have hother := catchAllRules_unnamed kept
  refine retained_iff.mpr ⟨fun rule hrule => ?_, ?_⟩
  · rcases List.mem_append.mp hrule with hrule | hrule
    · rcases List.mem_append.mp hrule with hrule | hrule
      · exact (hkept rule (List.mem_filter.mp hrule).1).1
      · rw [hown rule hrule]
        rfl
    · rw [lowerHostname_unnamed (hother rule hrule)]
      rfl
  · rw [List.filter_append, List.filter_append]
    have hnamed : (kept.filter isNamed).filter
        (fun rule => lowerHostname m rule != some (some hostname)) = kept.filter isNamed := by
      rw [List.filter_eq_self]
      intro rule hrule
      rw [bne_iff_ne]
      exact (hkept rule (List.mem_filter.mp hrule).1).2
    have hnone : own.filter (fun rule => lowerHostname m rule != some (some hostname)) = [] := by
      rw [List.filter_eq_nil_iff]
      intro rule hrule
      simp [hown rule hrule]
    have hrest : (catchAllRules kept).filter
        (fun rule => lowerHostname m rule != some (some hostname)) = catchAllRules kept := by
      rw [List.filter_eq_self]
      intro rule hrule
      simp [lowerHostname_unnamed (m := m) (hother rule hrule)]
    rw [hnamed, hnone, hrest, List.append_nil]

lemma filter_written (kept : List Rule) :
    (kept.filter isNamed ++ catchAllRules kept).filter isNamed = kept.filter isNamed := by
  have hrest : (catchAllRules kept).filter isNamed = [] := by
    rw [List.filter_eq_nil_iff]
    exact catchAllRules_unnamed kept
  rw [List.filter_append, hrest, List.append_nil, List.filter_filter]
  simp

lemma catchAllRules_written (kept : List Rule) :
    catchAllRules (kept.filter isNamed ++ catchAllRules kept) = catchAllRules kept := by
  have hnamed : (kept.filter isNamed).filter (fun rule => !isNamed rule) = [] := by
    rw [List.filter_eq_nil_iff]
    intro rule hrule
    simp [(List.mem_filter.mp hrule).2]
  have hrest : (catchAllRules kept).filter (fun rule => !isNamed rule) = catchAllRules kept := by
    rw [List.filter_eq_self]
    intro rule hrule
    simpa using catchAllRules_unnamed kept rule hrule
  have hwritten : (kept.filter isNamed ++ catchAllRules kept).filter (fun rule => !isNamed rule) =
      catchAllRules kept := by
    rw [List.filter_append, hnamed, hrest, List.nil_append]
  have hne := catchAllRules_ne_nil kept
  generalize catchAllRules kept = others at hwritten hne ⊢
  unfold catchAllRules
  dsimp only
  rw [hwritten, if_neg (by simpa using hne)]

/-- The last rule of a written list. -/
lemma getLast?_written (front kept : List Rule) :
    (front ++ catchAllRules kept).getLast? =
      ((kept.filter fun rule => !isNamed rule).getLast?).or
        (some [("service", .str tunnelCatchAllService)]) := by
  rw [List.getLast?_append_of_ne_nil _ (catchAllRules_ne_nil kept)]
  unfold catchAllRules
  dsimp only
  split_ifs with h
  · rw [List.isEmpty_iff.mp h]
    rfl
  · rw [List.isEmpty_iff] at h
    obtain ⟨rule, hrule⟩ := Option.ne_none_iff_exists'.mp (mt List.getLast?_eq_none_iff.mp h)
    rw [hrule]
    rfl

lemma lowerHostname_hostnameRule {given hostname : String}
    (hv : validateHostname m given = some hostname) :
    lowerHostname m (hostnameRule hostname) = some (some hostname) := by
  change some (some (toLowerCase m hostname)) = _
  rw [toLowerCase_hostname hv]

/-- The rules that decide where the requests for the host go. -/
lemma routed_iff (c : Router m) {named rest : List Rule} {hostname : String}
    {request : Request} (hhost : request.host = hostname) :
    (∃ rule, (named ++ [hostnameRule hostname] ++ rest).find? (c.matched · request) = some rule ∧
      SendsTo rule tunnelService) ↔
    ∀ rule, named.find? (c.matched · request) = some rule → SendsTo rule tunnelService := by
  have hown : c.matched (hostnameRule hostname) request :=
    c.exact _ hostname request rfl rfl hhost
  rw [List.append_assoc, List.find?_append]
  cases hfind : named.find? (c.matched · request) with
  | some rule => simp
  | none =>
    have hfirst : (hostnameRule hostname :: rest).find? (c.matched · request) =
        some (hostnameRule hostname) := List.find?_cons_of_pos hown
    rw [Option.none_or, List.singleton_append, hfirst]
    have hsends : SendsTo (hostnameRule hostname) tunnelService := rfl
    simp [hsends]

/-- **Tunnel ingress edits do what they say** exactly for the lists whose host names are texts,
whose rules for other host names send no request for this one elsewhere, and whose last rule
without a host name, if there is one, matches every request. -/
theorem edits_iff (c : Router m) {given hostname : String} (list : List Rule)
    (hv : validateHostname m given = some hostname) :
    (∃ on off, Edits c hostname list on off) ↔ Editable c hostname list := by
  let kept := list.filter fun rule => lowerHostname m rule != some (some hostname)
  have hunnamed : kept.filter (fun rule => !isNamed rule) =
      list.filter fun rule => !isNamed rule := by
    rw [List.filter_filter]
    refine List.filter_congr fun rule _ => ?_
    by_cases h : isNamed rule
    · simp [h]
    · simp [h, lowerHostname_unnamed (m := m) h]
  have hnamed : kept.filter isNamed = list.filter (namesOther m hostname) := by
    rw [List.filter_filter]
    rfl
  have hclosed : ∀ front, (∃ rule, (front ++ catchAllRules kept).getLast? = some rule ∧
      CatchAll c rule) ↔ ∀ rule, (list.filter fun rule => !isNamed rule).getLast? = some rule →
        CatchAll c rule := by
    intro front
    rw [getLast?_written, hunnamed]
    cases hlast : (list.filter fun rule => !isNamed rule).getLast? with
    | some rule => simp
    | none =>
      have hdefault : CatchAll c [("service", .str tunnelCatchAllService)] :=
        fun request => c.catchAll _ request rfl rfl
      simp [hdefault]
  constructor
  · rintro ⟨on, off, h⟩
    obtain ⟨kept', hkept', hon⟩ := Option.bind_eq_some_iff.mp h.enabled
    obtain ⟨htexts, rfl⟩ := retained_iff.mp hkept'
    obtain rfl := Option.some.inj hon
    refine ⟨htexts, fun request hhost => ?_, ?_⟩
    · rw [← hnamed]
      exact (routed_iff c hhost).mp (h.routed request hhost)
    · exact (hclosed _).mp (h.closed _ List.mem_cons_self)
  · rintro ⟨htexts, hclear, hlast⟩
    have hretained : retained m list hostname = some kept := retained_iff.mpr ⟨htexts, rfl⟩
    have hkept : ∀ rule ∈ kept, (lowerHostname m rule).isSome ∧
        lowerHostname m rule ≠ some (some hostname) := by
      intro rule hrule
      obtain ⟨hmem, hne⟩ := List.mem_filter.mp hrule
      exact ⟨htexts rule hmem, by simpa using hne⟩
    have hon := retained_written [hostnameRule hostname] hkept (by
      intro rule hrule
      rw [List.mem_singleton.mp hrule]
      exact lowerHostname_hostnameRule hv)
    have hoff := retained_written [] hkept (by simp)
    rw [List.append_nil] at hoff
    have hwritten := filter_written kept
    have hothers := catchAllRules_written kept
    refine ⟨kept.filter isNamed ++ [hostnameRule hostname] ++ catchAllRules kept,
      kept.filter isNamed ++ catchAllRules kept, ?_⟩
    constructor
    case enabled => exact enabledIngress_eq hretained
    case disabled => exact disabledIngress_eq hretained
    case routed =>
      intro request hhost
      refine (routed_iff c hhost).mpr ?_
      rw [hnamed]
      exact hclear request hhost
    case unnamed =>
      intro rule hrule
      rcases List.mem_append.mp hrule with hrule | hrule
      · exact (hkept rule (List.mem_filter.mp hrule).1).2
      · rw [lowerHostname_unnamed (catchAllRules_unnamed kept rule hrule)]
        simp
    case closed =>
      intro written hmem
      rcases List.mem_pair.mp hmem with rfl | rfl
      · exact (hclosed _).mpr hlast
      · exact (hclosed _).mpr hlast
    case kept =>
      intro rule hrule hne
      have hmem : rule ∈ kept := List.mem_filter.mpr ⟨hrule, by simpa using hne⟩
      by_cases h : isNamed rule
      · have hfirst : rule ∈ kept.filter isNamed := List.mem_filter.mpr ⟨hmem, h⟩
        exact ⟨by simp [hfirst], List.mem_append_left _ hfirst⟩
      · have hlater := mem_catchAllRules hmem h
        exact ⟨List.mem_append_right _ hlater, List.mem_append_right _ hlater⟩
    case again =>
      refine ⟨(enabledIngress_eq hon).trans ?_, (disabledIngress_eq hoff).trans ?_⟩
      · rw [hwritten, hothers]
      · rw [hwritten, hothers]
    case undone =>
      refine (disabledIngress_eq hon).trans ?_
      rw [hwritten, hothers]

/-! ### Two lists -/

/-- `*.` stands for any labels before the rest of the name. -/
def wildcardMatches (name host : String) : Bool :=
  match name.toList with
  | '*' :: '.' :: rest => ('.' :: rest).isSuffixOf host.toList
  | _ => name == host

lemma validateHostname_wildcard {name h : String} {rest : List Char}
    (hname : name.toList = '*' :: '.' :: rest) : validateHostname .caseless name ≠ some h := by
  have hlower : (toLowerCase .caseless name).toList =
      '*' :: '.' :: lowerFrom .caseless ['.', '*'] rest := by
    unfold toLowerCase
    rw [hname, String.toList_ofList]
    rfl
  have hsplit : (toLowerCase .caseless name).toList.splitOn '.' =
      ['*'] :: (lowerFrom .caseless ['.', '*'] rest).splitOn '.' := by
    rw [hlower]
    simp [List.splitOn, List.splitOnP_cons_eq_if_modifyHead]
  unfold validateHostname
  dsimp only
  rw [hsplit]
  simp [show hostnameLabel ['*'] = false from by decide]

/-- A name that is a host name is matched by that host only. -/
lemma eq_of_wildcardMatches {name host h : String}
    (hv : validateHostname .caseless name = some h) (hmatch : wildcardMatches name host) :
    name = host := by
  unfold wildcardMatches at hmatch
  split at hmatch
  · next rest hs => exact absurd hv (validateHostname_wildcard hs)
  · exact eq_of_beq hmatch

lemma wildcardMatches_self (name : String) : wildcardMatches name name = true := by
  unfold wildcardMatches
  split
  · next rest hs =>
    rw [hs, List.isSuffixOf_iff_suffix]
    exact List.suffix_cons _ _
  · exact beq_self_eq_true name

/-- How the connector matches rules whose paths are literal texts. -/
def wildcardRouter : Router .caseless where
  matched := fun rule request =>
    (match rule.lookup "hostname" with
      | some (.str name) => wildcardMatches name request.host
      | _ => true) &&
    match rule.lookup "path" with
      | some (.str path) => Text.occurs path.toList request.path.toList
      | _ => true
  own := by
    intro rule s h request hname hv hmatch
    simp only [hname, Bool.and_eq_true] at hmatch
    rw [← eq_of_wildcardMatches hv hmatch.1]
    exact (validateHostname_eq hv).symm
  catchAll := by
    intro rule request hname hpath
    simp [hname, hpath]
  exact := by
    intro rule s request hname hpath hhost
    simp only [hname, hpath, Bool.and_true, hhost]
    exact wildcardMatches_self s

def wildcardRule : Rule :=
  [("hostname", .str "*.example.com"), ("service", .str "http://other:80")]

/-- A wildcard before the new rule takes its requests, and a rule for a path alone at the end
leaves the list without a catch-all. -/
theorem wildcard_first :
    let list : List Rule := [wildcardRule, healthRule]
    ∃ on, enabledIngress .caseless list "a.example.com" = some on ∧
      on.find? (wildcardRouter.matched · ⟨"a.example.com", "/"⟩) = some wildcardRule ∧
      on.getLast? = some healthRule ∧
      wildcardRouter.matched healthRule ⟨"b.example.com", "/"⟩ = false ∧
      ¬ ∃ on off, Edits wildcardRouter "a.example.com" list on off := by
  refine ⟨_, rfl, by rfl, by rfl, by rfl, ?_⟩
  rintro ⟨on, off, h⟩
  obtain rfl := Option.some.inj (h.enabled.symm.trans rfl)
  obtain ⟨rule, hrule, hsends⟩ := h.routed ⟨"a.example.com", "/"⟩ rfl
  obtain rfl : wildcardRule = rule := Option.some.inj hrule
  exact absurd (Option.some.inj hsends) (by simp [tunnelService])

theorem edits_iff_plain :
    (∃ on off, Edits wildcardRouter "a.example.com"
      [otherRule, [("service", .str tunnelCatchAllService)]] on off) ↔
      Editable wildcardRouter "a.example.com"
        [otherRule, [("service", .str tunnelCatchAllService)]] :=
  @edits_iff .caseless wildcardRouter "A.example.com" "a.example.com" _ (by decide)

end GatewayControl.IngressEdits
