import GatewayControl.FirstMatch
import GatewayControl.Requests

/-!
The ingress rules of a remotely managed tunnel: what publishing a host name or taking it back
writes, and which requests for other hosts notice.

A rule is the object Cloudflare returns, with every key it has. How the connector matches a
rule is a parameter, of which two things are asked: a rule for a host name is matched by
requests for that host only, and one with neither host name nor path by every request.
-/

namespace GatewayControl.Ingress

open Json Requests

abbrev Rule := Entries

/-! ### The configuration at Cloudflare -/

def ingressRule : Json → Option Rule
  | .obj es =>
      match es.lookup "service" with
      | some (.str _) => some es
      | _ => none
  | _ => none

/-- `getTunnelConfig`, given the `config` object of the answer. -/
def getTunnelConfig (config : Entries) : Option (List Rule) :=
  match config.lookup "ingress" with
  | some (.arr rules) => rules.mapM ingressRule
  | _ => none

/-- `putTunnelConfig` sends a new `config` object, which takes the old one's place. -/
def putTunnelConfig (ingress : List Rule) : Entries :=
  [("ingress", .arr (ingress.map .obj))]

/-! ### The rewritten list -/

variable (m : CaseMapping)

/-- `rule.hostname?.toLowerCase()`; a value other than a string throws. -/
def lowerHostname (rule : Rule) : Option (Option String) :=
  match rule.lookup "hostname" with
  | none | some .null => some none
  | some (.str s) => some (some (toLowerCase m s))
  | some _ => none

/-- `rule.hostname !== undefined`. -/
def isNamed (rule : Rule) : Bool := (rule.lookup "hostname").isSome

def retained (ingress : List Rule) (hostname : String) : Option (List Rule) :=
  if ingress.all fun rule => (lowerHostname m rule).isSome then
    some (ingress.filter fun rule => lowerHostname m rule != some (some hostname))
  else none

def tunnelService : String := "http://traefik:80"

def tunnelCatchAllService : String := "http_status:404"

def catchAllRules (retained : List Rule) : List Rule :=
  let rules := retained.filter fun rule => !isNamed rule
  if rules.isEmpty then [[("service", .str tunnelCatchAllService)]] else rules

def hostnameRule (hostname : String) : Rule :=
  [("hostname", .str hostname), ("service", .str tunnelService)]

def enabledIngress (ingress : List Rule) (hostname : String) : Option (List Rule) := do
  let retained ← retained m ingress hostname
  return retained.filter isNamed ++ [hostnameRule hostname] ++ catchAllRules retained

def disabledIngress (ingress : List Rule) (hostname : String) : Option (List Rule) := do
  let retained ← retained m ingress hostname
  return retained.filter isNamed ++ catchAllRules retained

/-- The list a reconciliation writes for an access that is enabled or not. -/
def rewritten (enabled : Bool) (ingress : List Rule) (hostname : String) :
    Option (List Rule) :=
  if enabled then enabledIngress m ingress hostname else disabledIngress m ingress hostname

/-! ### Matching -/

structure Request where
  host : String
  path : String

structure Matching where
  matched : Rule → Request → Bool
  own : ∀ rule s h request, rule.lookup "hostname" = some (.str s) →
    validateHostname m s = some h → matched rule request → toLowerCase m request.host = h
  catchAll : ∀ rule request, rule.lookup "hostname" = none → rule.lookup "path" = none →
    matched rule request

variable {m}

/-- The rule that answers a request: the first one it matches. -/
def answering (c : Matching m) (config : Entries) (request : Request) : Option Rule :=
  (getTunnelConfig config).bind fun rules => rules.find? (c.matched · request)

/-- Nothing but the requests for one host notices a change of the configuration, and nothing
but the ingress list has changed. -/
structure LeavesRest (c : Matching m) (hostname : String) (config config' : Entries) :
    Prop where
  routing : ∀ request, toLowerCase m request.host ≠ hostname →
    answering c config' request = answering c config request
  fields : ∀ key, key ≠ "ingress" → config'.lookup key = config.lookup key

/-- No rule without a host name answers a request for another host that a rule with a host
name matches too, and some rule has no host name unless every such request is matched. -/
structure Settled (c : Matching m) (hostname : String) (rules : List Rule) : Prop where
  order : ∀ request, toLowerCase m request.host ≠ hostname →
    ∀ rule, rules.find? (c.matched · request) = some rule → ¬isNamed rule →
      ∀ other ∈ rules, isNamed other → ¬c.matched other request
  complete : (∃ rule ∈ rules, ¬isNamed rule) ∨
    ∀ request, toLowerCase m request.host ≠ hostname → ∃ rule ∈ rules, c.matched rule request

/-! ### Reading back what was written -/

lemma ingressRule_obj {value : Json} {rule : Rule} (h : ingressRule value = some rule) :
    value = .obj rule ∧ ingressRule (.obj rule) = some rule := by
  cases value with
  | obj es =>
    have hes : es = rule := by
      unfold ingressRule at h
      dsimp only at h
      split at h
      · exact Option.some.inj h
      · cases h
    subst hes
    exact ⟨rfl, h⟩
  | _ => simp [ingressRule] at h

lemma mapM_ingressRule {values : List Json} {rules : List Rule}
    (h : values.mapM ingressRule = some rules) :
    ∀ rule ∈ rules, ingressRule (.obj rule) = some rule := by
  induction values generalizing rules with
  | nil =>
    rw [List.mapM_nil] at h
    obtain rfl := Option.some.inj h
    simp
  | cons value values ih =>
    rw [List.mapM_cons] at h
    obtain ⟨rule, hrule, h⟩ := Option.bind_eq_some_iff.mp h
    obtain ⟨rest, hrest, h⟩ := Option.bind_eq_some_iff.mp h
    obtain rfl := Option.some.inj h
    intro r hr
    rcases List.mem_cons.mp hr with rfl | hr
    · exact (ingressRule_obj hrule).2
    · exact ih hrest r hr

lemma getTunnelConfig_put {rules : List Rule}
    (h : ∀ rule ∈ rules, ingressRule (.obj rule) = some rule) :
    getTunnelConfig (putTunnelConfig rules) = some rules := by
  change (rules.map Json.obj).mapM ingressRule = some rules
  induction rules with
  | nil => rfl
  | cons rule rules ih =>
    have ih' := ih fun r hr => h r (List.mem_cons_of_mem _ hr)
    rw [List.map_cons, List.mapM_cons, h rule (by simp), ih']
    rfl

lemma getTunnelConfig_rules {config : Entries} {rules : List Rule}
    (h : getTunnelConfig config = some rules) :
    ∀ rule ∈ rules, ingressRule (.obj rule) = some rule := by
  unfold getTunnelConfig at h
  split at h
  · exact mapM_ingressRule h
  · cases h

/-! ### The requests for other hosts -/

lemma retained_eq {ingress kept : List Rule} {hostname : String}
    (h : retained m ingress hostname = some kept) :
    kept = ingress.filter fun rule => lowerHostname m rule != some (some hostname) := by
  unfold retained at h
  split_ifs at h
  exact (Option.some.inj h).symm

/-- A rule that is dropped is matched by requests for the host only. -/
lemma dropped_own (c : Matching m) {given hostname : String} {rule : Rule} {request : Request}
    (hv : validateHostname m given = some hostname)
    (hdrop : lowerHostname m rule = some (some hostname)) (h : c.matched rule request) :
    toLowerCase m request.host = hostname := by
  unfold lowerHostname at hdrop
  split at hdrop
  · simp at hdrop
  · simp at hdrop
  · rename_i s hs
    have hlower : toLowerCase m s = hostname := by simpa using hdrop
    exact c.own rule s hostname request hs (validateHostname_of_lower hv hlower) h
  · cases hdrop

lemma hostnameRule_own (c : Matching m) {given hostname : String} {request : Request}
    (hv : validateHostname m given = some hostname)
    (h : c.matched (hostnameRule hostname) request) :
    toLowerCase m request.host = hostname :=
  c.own _ hostname hostname request rfl
    (validateHostname_of_lower hv (toLowerCase_hostname hv)) h

lemma isNamed_dropped {rule : Rule} {hostname : String}
    (h : lowerHostname m rule = some (some hostname)) : isNamed rule := by
  unfold lowerHostname at h
  unfold isNamed
  split at h
  · simp at h
  · simp at h
  · simp_all
  · cases h

/-- What is written: the retained rules with a host name, perhaps the host's own, the others. -/
lemma rewritten_eq {enabled : Bool} {ingress written : List Rule} {hostname : String}
    (h : rewritten m enabled ingress hostname = some written) :
    ∃ kept own, retained m ingress hostname = some kept ∧
      own = (if enabled then [hostnameRule hostname] else []) ∧
      written = kept.filter isNamed ++ own ++ catchAllRules kept := by
  cases enabled with
  | true =>
    obtain ⟨kept, hkept, h⟩ := Option.bind_eq_some_iff.mp h
    exact ⟨kept, [hostnameRule hostname], hkept, rfl, (Option.some.inj h).symm⟩
  | false =>
    obtain ⟨kept, hkept, h⟩ := Option.bind_eq_some_iff.mp h
    refine ⟨kept, [], hkept, rfl, ?_⟩
    rw [List.append_nil]
    exact (Option.some.inj h).symm

lemma own_rule {enabled : Bool} {own : List Rule} {hostname : String}
    (h : own = if enabled then [hostnameRule hostname] else []) :
    ∀ rule ∈ own, rule = hostnameRule hostname := by
  cases enabled <;> simp [h]

lemma written_rules {kept own written : List Rule} {hostname : String}
    (hkept : ∀ rule ∈ kept, ingressRule (.obj rule) = some rule)
    (hown : ∀ rule ∈ own, rule = hostnameRule hostname)
    (hw : written = kept.filter isNamed ++ own ++ catchAllRules kept) :
    ∀ rule ∈ written, ingressRule (.obj rule) = some rule := by
  intro rule hrule
  rw [hw] at hrule
  simp only [List.mem_append] at hrule
  rcases hrule with (hrule | hrule) | hrule
  · exact hkept rule (List.mem_filter.mp hrule).1
  · rw [hown rule hrule]
    rfl
  · unfold catchAllRules at hrule
    dsimp only at hrule
    split_ifs at hrule with hnone
    · rw [List.mem_singleton.mp hrule]
      rfl
    · exact hkept rule (List.mem_filter.mp hrule).1

/-- A rule for every request, added where no rule without a host name is. -/
lemma find?_catchAllRules (c : Matching m) {kept : List Rule} {request : Request} :
    (kept.filter isNamed ++ catchAllRules kept).find? (c.matched · request) =
      kept.find? (c.matched · request) ↔
    (∀ rule, kept.find? (c.matched · request) = some rule → ¬isNamed rule →
      ∀ other ∈ kept, isNamed other → ¬c.matched other request) ∧
    ((∃ rule ∈ kept, ¬isNamed rule) ∨ ∃ rule ∈ kept, c.matched rule request) := by
  unfold catchAllRules
  dsimp only
  by_cases hunnamed : ∃ rule ∈ kept, ¬isNamed rule
  · obtain ⟨unnamed, hmem, hnot⟩ := hunnamed
    have hfilter : unnamed ∈ kept.filter fun rule => !isNamed rule :=
      List.mem_filter.mpr ⟨hmem, by simpa using hnot⟩
    have hne : (kept.filter fun rule => !isNamed rule).isEmpty = false := by
      rw [List.isEmpty_eq_false_iff]
      exact List.ne_nil_of_mem hfilter
    rw [hne]
    simp only [Bool.false_eq_true, if_false]
    rw [show kept.filter isNamed ++ (kept.filter fun rule => !isNamed rule) =
      FirstMatch.promote isNamed kept from rfl, FirstMatch.find?_promote_iff]
    exact ⟨fun h => ⟨h, Or.inl ⟨unnamed, hmem, hnot⟩⟩, And.left⟩
  · have hall : ∀ rule ∈ kept, isNamed rule := by
      intro rule hrule
      by_contra hnot
      exact hunnamed ⟨rule, hrule, hnot⟩
    have hnamed : kept.filter isNamed = kept := List.filter_eq_self.mpr hall
    have hempty : (kept.filter fun rule => !isNamed rule) = [] := by
      rw [List.filter_eq_nil_iff]
      intro rule hrule
      simp [hall rule hrule]
    rw [hnamed, hempty, List.find?_append]
    simp only [List.isEmpty_nil, if_true]
    have hcatch : List.find? (c.matched · request)
        [[("service", Json.str tunnelCatchAllService)]] =
        some [("service", Json.str tunnelCatchAllService)] := by
      rw [List.find?_cons_of_pos]
      exact c.catchAll _ _ rfl rfl
    rw [hcatch]
    have horder : ∀ rule, kept.find? (c.matched · request) = some rule → ¬isNamed rule →
        ∀ other ∈ kept, isNamed other → ¬c.matched other request := by
      intro rule hrule hnot
      exact absurd (hall rule (List.mem_of_find?_eq_some hrule)) hnot
    cases hfind : kept.find? (c.matched · request) with
    | none =>
      have hnone := List.find?_eq_none.mp hfind
      constructor
      · intro h
        cases h
      · rintro ⟨-, hex | ⟨rule, hrule, hmatch⟩⟩
        · exact absurd hex hunnamed
        · exact absurd hmatch (hnone rule hrule)
    | some rule =>
      refine ⟨fun _ => ⟨hfind ▸ horder, Or.inr ⟨rule, ?_, ?_⟩⟩, fun _ => rfl⟩
      · exact List.mem_of_find?_eq_some hfind
      · exact List.find?_some (p := fun r => c.matched r request) hfind

/-- One request for another host, before and after. -/
lemma answering_iff (c : Matching m) {given hostname : String} {enabled : Bool}
    {config : Entries} {rules written : List Rule} {request : Request}
    (hv : validateHostname m given = some hostname)
    (hget : getTunnelConfig config = some rules)
    (hw : rewritten m enabled rules hostname = some written)
    (hother : toLowerCase m request.host ≠ hostname) :
    answering c (putTunnelConfig written) request = answering c config request ↔
      (∀ rule, rules.find? (c.matched · request) = some rule → ¬isNamed rule →
        ∀ other ∈ rules, isNamed other → ¬c.matched other request) ∧
      ((∃ rule ∈ rules, ¬isNamed rule) ∨ ∃ rule ∈ rules, c.matched rule request) := by
  obtain ⟨kept, own, hkept, hlist, hwritten⟩ := rewritten_eq hw
  have hown := own_rule hlist
  have hfilter := retained_eq hkept
  have hrules := getTunnelConfig_rules hget
  have hmem : ∀ rule ∈ kept, rule ∈ rules := by
    intro rule hrule
    rw [hfilter] at hrule
    exact (List.mem_filter.mp hrule).1
  have hstays : ∀ rule ∈ rules, c.matched rule request → rule ∈ kept := by
    intro rule hrule hmatch
    rw [hfilter, List.mem_filter]
    refine ⟨hrule, ?_⟩
    rw [bne_iff_ne]
    intro hdrop
    exact hother (dropped_own c hv hdrop hmatch)
  have hunnamed : ∀ rule ∈ rules, ¬isNamed rule → rule ∈ kept := by
    intro rule hrule hnot
    rw [hfilter, List.mem_filter]
    refine ⟨hrule, ?_⟩
    rw [bne_iff_ne]
    intro hdrop
    exact hnot (isNamed_dropped hdrop)
  have hold : kept.find? (c.matched · request) = rules.find? (c.matched · request) := by
    rw [hfilter]
    apply FirstMatch.find?_filter_of_imp
    intro rule hrule hmatch
    rw [bne_iff_ne]
    intro hdrop
    exact hother (dropped_own c hv hdrop hmatch)
  have hnew : written.find? (c.matched · request) =
      (kept.filter isNamed ++ catchAllRules kept).find? (c.matched · request) := by
    rw [hwritten]
    apply FirstMatch.find?_skip
    intro rule hrule hmatch
    rw [hown rule hrule] at hmatch
    exact hother (hostnameRule_own c hv hmatch)
  have hreread : getTunnelConfig (putTunnelConfig written) = some written :=
    getTunnelConfig_put (written_rules (fun rule h => hrules rule (hmem rule h)) hown hwritten)
  unfold answering
  rw [hreread, hget, Option.bind_some, Option.bind_some, hnew, ← hold, find?_catchAllRules c]
  constructor
  · rintro ⟨horder, hcomplete⟩
    refine ⟨fun rule hrule hnot other hmem' hnamed hmatch =>
      horder rule hrule hnot other (hstays other hmem' hmatch) hnamed hmatch, ?_⟩
    rcases hcomplete with ⟨rule, hrule, hnot⟩ | ⟨rule, hrule, hmatch⟩
    · exact Or.inl ⟨rule, hmem rule hrule, hnot⟩
    · exact Or.inr ⟨rule, hmem rule hrule, hmatch⟩
  · rintro ⟨horder, hcomplete⟩
    refine ⟨fun rule hrule hnot other hmem' => horder rule hrule hnot other (hmem other hmem'),
      ?_⟩
    rcases hcomplete with ⟨rule, hrule, hnot⟩ | ⟨rule, hrule, hmatch⟩
    · exact Or.inl ⟨rule, hunnamed rule hrule hnot, hnot⟩
    · exact Or.inr ⟨rule, hstays rule hrule hmatch, hmatch⟩

/-- **What publishing leaves alone.** Enabling or disabling a host name in a configuration
leaves every other host's requests and every other field alone exactly when the rules are
settled and there are no other fields. -/
theorem leavesRest_iff (c : Matching m) {given hostname : String} {enabled : Bool}
    {config : Entries} {rules written : List Rule}
    (hv : validateHostname m given = some hostname)
    (hget : getTunnelConfig config = some rules)
    (hw : rewritten m enabled rules hostname = some written) :
    LeavesRest c hostname config (putTunnelConfig written) ↔
      Settled c hostname rules ∧ ∀ key, key ≠ "ingress" → config.lookup key = none := by
  have hfields : ∀ key, key ≠ "ingress" → (putTunnelConfig written).lookup key = none := by
    intro key hkey
    have hne : (key == "ingress") = false := beq_eq_false_iff_ne.mpr hkey
    simp [putTunnelConfig, List.lookup_cons, hne]
  constructor
  · rintro ⟨hrouting, hkeys⟩
    refine ⟨⟨fun request hother => ?_, ?_⟩, fun key hkey => ?_⟩
    · exact ((answering_iff c hv hget hw hother).mp (hrouting request hother)).1
    · by_cases hunnamed : ∃ rule ∈ rules, ¬isNamed rule
      · exact Or.inl hunnamed
      · refine Or.inr fun request hother => ?_
        have hcomplete :=
          ((answering_iff c hv hget hw hother).mp (hrouting request hother)).2
        exact hcomplete.resolve_left hunnamed
    · rw [← hkeys key hkey]
      exact hfields key hkey
  · rintro ⟨hsettled, hnone⟩
    refine ⟨fun request hother => ?_, fun key hkey => ?_⟩
    · refine (answering_iff c hv hget hw hother).mpr ⟨hsettled.order request hother, ?_⟩
      exact hsettled.complete.imp_right fun h => h request hother
    · rw [hnone key hkey]
      exact hfields key hkey

/-! ### A tunnel that serves other sites too -/

/-- How the connector matches rules without wildcards whose paths are literal texts. -/
def literalMatching : Matching .caseless where
  matched := fun rule request =>
    (match rule.lookup "hostname" with
      | some (.str s) => s == request.host
      | _ => true) &&
    match rule.lookup "path" with
      | some (.str path) => Text.occurs path.toList request.path.toList
      | _ => true
  own := by
    intro rule s h request hname hv hmatch
    rw [hname, Bool.and_eq_true, beq_iff_eq] at hmatch
    rw [← hmatch.1]
    exact (validateHostname_eq hv).symm
  catchAll := by
    intro rule request hname hpath
    simp [hname, hpath]

def healthRule : Rule := [("path", .str "health"), ("service", .str "http://health:80")]

def otherRule : Rule := [("hostname", .str "b.example.com"), ("service", .str "http://b:80")]

def sharedTunnel : Entries :=
  [("ingress", .arr [.obj healthRule, .obj otherRule,
      .obj [("service", .str tunnelCatchAllService)]]),
    ("warp-routing", .obj [("enabled", .bool true)])]

/-- Publishing `a.example.com` hands the health checks of `b.example.com` to its web server
and turns the private network's routing off. -/
theorem sharedTunnel_disturbed :
    ∃ rules written, getTunnelConfig sharedTunnel = some rules ∧
      rewritten .caseless true rules "a.example.com" = some written ∧
      answering literalMatching sharedTunnel ⟨"b.example.com", "/health"⟩ = some healthRule ∧
      answering literalMatching (putTunnelConfig written) ⟨"b.example.com", "/health"⟩ =
        some otherRule ∧
      (putTunnelConfig written).lookup "warp-routing" = none ∧
      ¬LeavesRest literalMatching "a.example.com" sharedTunnel (putTunnelConfig written) := by
  refine ⟨_, _, rfl, rfl, by rfl, by rfl, by rfl, fun h => ?_⟩
  have hfield := h.fields "warp-routing" (by decide)
  cases hfield

/-- A tunnel that serves another site and has nothing but its ingress list. -/
def plainTunnel : Entries :=
  [("ingress", .arr [.obj otherRule, .obj [("service", .str tunnelCatchAllService)]])]

theorem leavesRest_iff_plain :
    LeavesRest literalMatching "a.example.com" plainTunnel
      (putTunnelConfig [otherRule, hostnameRule "a.example.com",
        [("service", .str tunnelCatchAllService)]]) ↔
      Settled literalMatching "a.example.com"
        [otherRule, [("service", .str tunnelCatchAllService)]] ∧
      ∀ key, key ≠ "ingress" → plainTunnel.lookup key = none :=
  @leavesRest_iff .caseless literalMatching "A.example.com" "a.example.com" true plainTunnel _ _
    (by decide) rfl rfl

end GatewayControl.Ingress
