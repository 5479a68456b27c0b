import GatewayControl.TunnelRuns

/-!
What an enabled access depends on, and what keeps it so: the guards of the tables, and the
revision that every switch of an access counts up.
-/

namespace GatewayControl.AccessTopology

open Database Store Placement Publishing Ingress Cloudflare Calls Reconcile Verification Programs
open ControlPlane AccessHistory DnsOwnership DnsRuns TunnelUpdates TunnelRuns

/-! ### The topology of an access -/

/-- The route of an access, and for a tunnel its connector on the route's agent. -/
structure RouteFits (base : Db) (h : AccessRow) (r : RouteRow) : Prop where
  found : base.managedRoutes.find? h.routeId = some r
  enabled : r.enabled
  hostname : lower r.hostname = lower h.hostname
  exposure : r.exposure = expectedExposure h.accessMethod
  connector : h.accessMethod = .tunnel → ∃ c, h.connectorId.bind base.connectors.find? = some c ∧
    c.enabled ∧ c.agentId = r.gatewayAgentId

structure Topology (base : Db) (h : AccessRow) : Prop where
  account : ∃ a, base.accounts.find? h.accountId = some a ∧ a.enabled
  route : ∃ r, RouteFits base h r

lemma Later.topology {h h' : AccessRow} (l : Later h h') {base : Db} (ht : Topology base h) :
    Topology base h' := by
  obtain ⟨⟨a, ha, hen⟩, ⟨r, hr⟩⟩ := ht
  refine ⟨⟨a, ?_, hen⟩, ⟨r, ?_, hr.enabled, ?_, ?_, ?_⟩⟩
  · rw [l.congr AccessRow.accountId rfl]
    exact ha
  · rw [l.congr AccessRow.routeId rfl]
    exact hr.found
  · rw [l.hostname_eq]
    exact hr.hostname
  · rw [l.method_eq]
    exact hr.exposure
  · rw [l.method_eq, l.congr AccessRow.connectorId rfl]
    exact hr.connector

/-- **The check.** What a reconciliation has checked is the topology. -/
lemma topology_of_valid {db : PublishDb} {id : String} {d : Deployment}
    (h : getCloudflareDomainAccessDeployment db id = some d) (hvalid : topologyValid d) :
    Topology db.base d.access := by
  unfold getCloudflareDomainAccessDeployment at h
  obtain ⟨access, haccess, h⟩ := Option.bind_eq_some_iff.mp h
  obtain ⟨account, haccount, h⟩ := Option.bind_eq_some_iff.mp h
  obtain ⟨zone, hzone, h⟩ := Option.bind_eq_some_iff.mp h
  obtain ⟨route, hroute, h⟩ := Option.bind_eq_some_iff.mp h
  obtain rfl := Option.some.inj h
  simp only [topologyValid, Bool.and_eq_true, beq_iff_eq] at hvalid
  obtain ⟨⟨⟨⟨⟨⟨⟨⟨haccountOn, -⟩, -⟩, hexposure⟩, hrouteOn⟩, -⟩, hhostname⟩, -⟩, htunnel⟩ := hvalid
  refine ⟨⟨account, haccount, haccountOn⟩, ⟨route, hroute, hrouteOn, hhostname, hexposure, ?_⟩⟩
  intro hmethod
  change access.accessMethod = .tunnel at hmethod
  simp only [tunnelTopologyValid, hmethod, bne_self_eq_false, Bool.false_or, Bool.and_eq_true]
    at htunnel
  cases hconnector : access.connectorId.bind db.base.connectors.find? with
  | none =>
    rw [hconnector] at htunnel
    cases htunnel.2
  | some c =>
    rw [hconnector] at htunnel
    simp only [Option.any_some, Bool.and_eq_true, beq_iff_eq] at htunnel
    exact ⟨c, rfl, htunnel.2.1.1.1.1.1, htunnel.2.2⟩

/-! ### The guards -/

/-- A guard lets no topology change pass while an enabled access is linked. -/
lemma unchanged_of_guard {db : PublishDb} {linked : AccessRow → Bool} {changed : Bool}
    (hg : dependencyGuard db linked changed) {h : AccessRow} (hmem : h ∈ db.accesses.rows)
    (henabled : h.enabled) (hlinked : linked h) : changed = false := by
  unfold dependencyGuard at hg
  have hany : (db.accesses.rows.any fun h => h.enabled && linked h) = true :=
    List.any_eq_true.mpr ⟨h, hmem, by simp [henabled, hlinked]⟩
  rw [hany, Bool.and_true] at hg
  simpa using hg

lemma routes_guarded {db : PublishDb} {base : Db} {h : AccessRow} {r : RouteRow}
    (hg : routesGuarded db base) (hmem : h ∈ db.accesses.rows) (henabled : h.enabled)
    (hfound : db.base.managedRoutes.find? h.routeId = some r) (hon : r.enabled) :
    ∃ r', base.managedRoutes.find? h.routeId = some r' ∧ r'.enabled ∧
      r'.hostname = r.hostname ∧ r'.exposure = r.exposure ∧
      r'.gatewayAgentId = r.gatewayAgentId := by
  have hid : r.id = h.routeId := Table.key_find? hfound
  have hrow := List.all_eq_true.mp hg r (Table.mem_of_find? hfound)
  rw [hid] at hrow
  cases hnew : base.managedRoutes.find? h.routeId with
  | none =>
    rw [hnew] at hrow
    cases hrow
  | some r' =>
    rw [hnew, Option.any_some] at hrow
    have hsame := unchanged_of_guard hrow hmem henabled (by simp)
    simp only [routeTopologyChanged, hon, Bool.true_and, Bool.or_eq_false_iff,
      Bool.not_eq_false', bne_eq_false_iff_eq] at hsame
    obtain ⟨⟨⟨hen, hagent⟩, hhost⟩, hexposure⟩ := hsame
    exact ⟨r', rfl, hen, hhost.symm, hexposure.symm, hagent.symm⟩

lemma connectors_guarded {db : PublishDb} {base : Db} {h : AccessRow} {c : ConnectorRow}
    (hg : connectorsGuarded db base) (hmem : h ∈ db.accesses.rows) (henabled : h.enabled)
    (hfound : h.connectorId.bind db.base.connectors.find? = some c) (hon : c.enabled) :
    ∃ c', h.connectorId.bind base.connectors.find? = some c' ∧ c'.enabled ∧
      c'.agentId = c.agentId := by
  obtain ⟨connectorId, hconnector, hfound⟩ := Option.bind_eq_some_iff.mp hfound
  have hid : c.id = connectorId := Table.key_find? hfound
  have hrow := List.all_eq_true.mp hg c (Table.mem_of_find? hfound)
  rw [hid] at hrow
  rw [hconnector, Option.bind_some]
  cases hnew : base.connectors.find? connectorId with
  | none =>
    rw [hnew] at hrow
    cases hrow
  | some c' =>
    rw [hnew, Option.any_some] at hrow
    have hsame := unchanged_of_guard hrow hmem henabled (by simp [hconnector])
    simp only [connectorTopologyChanged, hon, Bool.true_and, Bool.or_eq_false_iff,
      Bool.not_eq_false', bne_eq_false_iff_eq] at hsame
    exact ⟨c', rfl, hsame.1.1.1.1, hsame.1.1.1.2.symm⟩

/-- **The tables' guards.** A change of the tables keeps the topology of enabled accesses. -/
lemma topology_guarded {db : PublishDb} {base : Db} {h : AccessRow}
    (haccounts : accountsKept db base) (hconnectors : connectorsGuarded db base)
    (hroutes : routesGuarded db base) (hmem : h ∈ db.accesses.rows) (henabled : h.enabled)
    (ht : Topology db.base h) : Topology base h := by
  obtain ⟨⟨a, ha, hen⟩, ⟨r, hr⟩⟩ := ht
  have hid : a.id = h.accountId := Table.key_find? ha
  obtain ⟨r', hr', hrEnabled, hhost, hexposure, hagent⟩ :=
    routes_guarded hroutes hmem henabled hr.found hr.enabled
  refine ⟨⟨a, ?_, hen⟩, ⟨r', hr', hrEnabled, hhost ▸ hr.hostname, hexposure ▸ hr.exposure,
    fun hmethod => ?_⟩⟩
  · rcases haccounts a (Table.mem_of_find? ha) with hkept | hfree
    · rw [← hid]
      exact hkept
    · exact absurd hid.symm (hfree h hmem)
  · obtain ⟨c, hc, hcEnabled, hcAgent⟩ := hr.connector hmethod
    obtain ⟨c', hc', hcEnabled', hcAgent'⟩ :=
      connectors_guarded hconnectors hmem henabled hc hcEnabled
    exact ⟨c', hc', hcEnabled', hcAgent'.trans (hcAgent.trans hagent.symm)⟩

lemma account_accesses {db db' : PublishDb} {id : String} {values : AccountChange}
    (h : updateCloudflareAccount db id values = some db') : db'.accesses = db.accesses := by
  unfold updateCloudflareAccount at h
  split at h
  · obtain rfl := Option.some.inj h
    rfl
  · split at h
    · obtain rfl := Option.some.inj h
      rfl
    · cases h

/-- **The accounts' guard.** -/
lemma topology_account {db db' : PublishDb} {id : String} {values : AccountChange}
    {h : AccessRow} (hupdate : updateCloudflareAccount db id values = some db')
    (hmem : h ∈ db.accesses.rows) (henabled : h.enabled) (ht : Topology db.base h) :
    Topology db'.base h := by
  unfold updateCloudflareAccount at hupdate
  split at hupdate
  · obtain rfl := Option.some.inj hupdate
    exact ht
  · rename_i old hold
    split at hupdate
    · rename_i hguard
      obtain rfl := Option.some.inj hupdate
      refine ⟨?_, ?_⟩
      · obtain ⟨a, ha, hen⟩ := ht.account
        have hfind := db.base.accounts.find?_update (·.id = id) (changeAccount values)
          (fun _ => rfl) h.accountId
        rw [ha, Option.map_some] at hfind
        refine ⟨_, hfind, ?_⟩
        by_cases hsame : a.id = id
        · have haccount : h.accountId = id := (Table.key_find? ha).symm.trans hsame
          rw [haccount, hold] at ha
          obtain rfl := Option.some.inj ha
          have hkept := unchanged_of_guard hguard hmem henabled (by simp [haccount])
          simp only [accountTopologyChanged, hen, Bool.true_and, Bool.or_eq_false_iff,
            Bool.not_eq_false'] at hkept
          simpa [hsame] using hkept.1.1
        · simpa [hsame] using hen
      · obtain ⟨r, hr⟩ := ht.route
        exact ⟨r, hr.found, hr.enabled, hr.hostname, hr.exposure, hr.connector⟩
    · cases hupdate

end GatewayControl.AccessTopology
