import GatewayControl.Ingress

/-!
The rules of one host name in a tunnel's configuration, and what a rewrite of the list does
to them: its own host name gets its rule or loses all, the others keep theirs.
-/

namespace GatewayControl.TunnelRules

open Json Requests Ingress

variable {m : CaseMapping}

/-- The rules that name a host. -/
def rulesFor (m : CaseMapping) (hostname : String) (rules : List Rule) : List Rule :=
  rules.filter fun rule => lowerHostname m rule == some (some hostname)

def hostRules (m : CaseMapping) (config : Entries) (hostname : String) : List Rule :=
  (getTunnelConfig config).elim [] (rulesFor m hostname)

/-! ### The parts of a rewritten list -/

lemma rulesFor_append (hostname : String) (rules rules' : List Rule) :
    rulesFor m hostname (rules ++ rules') =
      rulesFor m hostname rules ++ rulesFor m hostname rules' :=
  List.filter_append ..

lemma rulesFor_unnamed {hostname : String} {rules : List Rule}
    (h : ∀ rule ∈ rules, ¬isNamed rule) : rulesFor m hostname rules = [] := by
  refine List.filter_eq_nil_iff.mpr fun rule hrule hname => h rule hrule ?_
  exact isNamed_dropped (beq_iff_eq.mp hname)

lemma rulesFor_catchAllRules (hostname : String) (kept : List Rule) :
    rulesFor m hostname (catchAllRules kept) = [] := by
  refine rulesFor_unnamed fun rule hrule => ?_
  unfold catchAllRules at hrule
  dsimp only at hrule
  split_ifs at hrule with hnone
  · rw [List.mem_singleton.mp hrule]
    decide
  · simpa using (List.mem_filter.mp hrule).2

lemma rulesFor_named (hostname : String) (rules : List Rule) :
    rulesFor m hostname (rules.filter isNamed) = rulesFor m hostname rules := by
  unfold rulesFor
  rw [List.filter_filter]
  refine List.filter_congr fun rule _ => ?_
  by_cases hname : lowerHostname m rule = some (some hostname)
  · simp [hname, isNamed_dropped hname]
  · simp [hname]

lemma rulesFor_retained {hostname : String} {ingress kept : List Rule}
    (h : retained m ingress hostname = some kept) (hostname' : String) :
    rulesFor m hostname' kept =
      if hostname' = hostname then [] else rulesFor m hostname' ingress := by
  rw [retained_eq h]
  unfold rulesFor
  rw [List.filter_filter]
  by_cases hsame : hostname' = hostname
  · rw [if_pos hsame, hsame]
    refine List.filter_eq_nil_iff.mpr fun rule _ => ?_
    simp
  · rw [if_neg hsame]
    refine List.filter_congr fun rule _ => ?_
    by_cases hname : lowerHostname m rule = some (some hostname')
    · simp [hname, hsame]
    · simp [hname]

lemma rulesFor_hostnameRule {hostname : String} (hlower : toLowerCase m hostname = hostname)
    (hostname' : String) : rulesFor m hostname' [hostnameRule hostname] =
      if hostname' = hostname then [hostnameRule hostname] else [] := by
  have hname : lowerHostname m (hostnameRule hostname) = some (some hostname) := by
    change some (some (toLowerCase m hostname)) = _
    rw [hlower]
  unfold rulesFor
  rw [List.filter_singleton, hname]
  by_cases hsame : hostname' = hostname
  · simp [hsame]
  · have hne : (hostname == hostname') = false := beq_false_of_ne (Ne.symm hsame)
    simp [hsame, hne]

/-! ### A rewritten list -/

/-- The host's own rule replaces whatever named it, or nothing does. -/
lemma rulesFor_rewritten {enabled : Bool} {ingress written : List Rule} {hostname : String}
    (hlower : toLowerCase m hostname = hostname)
    (h : rewritten m enabled ingress hostname = some written) (hostname' : String) :
    rulesFor m hostname' written =
      if hostname' = hostname then (if enabled then [hostnameRule hostname] else [])
      else rulesFor m hostname' ingress := by
  obtain ⟨kept, own, hkept, rfl, rfl⟩ := rewritten_eq h
  rw [rulesFor_append, rulesFor_append, rulesFor_named, rulesFor_catchAllRules,
    rulesFor_retained hkept, List.append_nil]
  have hown : rulesFor m hostname' (if enabled then [hostnameRule hostname] else []) =
      if hostname' = hostname then (if enabled then [hostnameRule hostname] else []) else [] := by
    cases enabled with
    | true => exact rulesFor_hostnameRule hlower hostname'
    | false => simp [rulesFor]
  rw [hown]
  by_cases hsame : hostname' = hostname
  · simp [hsame]
  · simp [hsame]

/-- What was written is read back. -/
lemma hostRules_put {rules : List Rule} (h : ∀ rule ∈ rules, ingressRule (.obj rule) = some rule)
    (hostname : String) :
    hostRules m (putTunnelConfig rules) hostname = rulesFor m hostname rules := by
  rw [hostRules, getTunnelConfig_put h, Option.elim_some]

lemma hostRules_read {config : Entries} {rules : List Rule}
    (h : getTunnelConfig config = some rules) (hostname : String) :
    hostRules m config hostname = rulesFor m hostname rules := by
  rw [hostRules, h, Option.elim_some]

lemma rewritten_rules {enabled : Bool} {ingress written : List Rule} {hostname : String}
    (hingress : ∀ rule ∈ ingress, ingressRule (.obj rule) = some rule)
    (h : rewritten m enabled ingress hostname = some written) :
    ∀ rule ∈ written, ingressRule (.obj rule) = some rule := by
  obtain ⟨kept, own, hkept, hown, hw⟩ := rewritten_eq h
  refine written_rules (fun rule hrule => ?_) (own_rule hown) hw
  rw [retained_eq hkept] at hrule
  exact hingress rule (List.mem_filter.mp hrule).1

end GatewayControl.TunnelRules
