import GatewayControl.ActiveAccesses

/-!
Every active access has a valid topology, as long as the verification tick marks an access
only where a reconciliation has published it.
-/

namespace GatewayControl.ActiveSafety

open Database Store Publishing Ingress Cloudflare Calls Reconcile Verification Programs
open ControlPlane AccessHistory DnsOwnership TunnelUpdates TunnelRuns AccessTopology
open PublishedRecords ActiveAccesses

variable {n : Nat}

/-! ### The tick -/

/-- A tick writes no note, and its outcomes are vetted. -/
lemma vetted_step {s t : State} {id : String} {revision : Nat} {status : AccessStatus}
    {lastError : Option String} {r : Except Failure (Option AccessRow)} (hi : Inv s)
    (hexec : Exec (.tick n) s (.outcome id revision status lastError) r t)
    (hvetted : Vetted (.tick n) s (.outcome id revision status lastError)) :
    Inv t ∧ Grows s.world.db t.world.db := by
  refine outcome_step hi ?_ (Or.inl ?_) hexec
  · rintro rfl h hrow henabled
    exact (hi.reconciled id revision (hvetted h hrow henabled) h hrow).2
  · rw [hexec.notes]
    rfl

lemma tick_triple {p : Prog Plane (Except Failure Unit)} (hp : p.Only (isTickCall ·)) :
    Triple contract (.tick n) (fun _ => True) p fun _ _ => True := by
  refine triple_only hp stable_true (fun s c hc _ _ => ?_) ?_
  · cases c with
    | createAccess _ => cases hc
    | _ => trivial
  · rintro s c r t hc hi - ⟨hexec, hvetted⟩
    suffices h : Inv t ∧ Grows s.world.db t.world.db from ⟨h.1, fun _ _ => h.2, trivial⟩
    by_cases hframe : isFrame c
    · obtain ⟨haccesses, hbase, hnotes⟩ := frame_exec hframe hexec
      exact ⟨inv_frame hi haccesses hbase hnotes, grows_frame haccesses hbase⟩
    · cases c with
      | outcome id revision status lastError => exact vetted_step hi hexec hvetted
      | createAccess _ => cases hc
      | _ => exact absurd rfl hframe

lemma starts_triple {render : Render} {i : Slot} {p : Prog Plane (Except Failure Unit)}
    (hp : Starts render i p) : Triple contract i (fun _ => True) p fun _ _ => True := by
  cases hp with
  | reconcile id n requireHttpsObservation =>
    exact then_triple (reconcileDomainAccess_triple requireHttpsObservation)
      fun _ => triple_pure stable_true fun _ _ _ => trivial
  | tick n => exact tick_triple (reconcileGuidedVerifications_only render)

/-! ### The acts -/

/-- **Step lemma.** An act may change accesses that are not active afterwards, and make new
ones. -/
lemma inv_act {s t : State} (hi : Inv s) (hnotes : t.notes = s.notes)
    (hgrows : Grows s.world.db t.world.db)
    (hback : ∀ id a, t.world.db.accesses.find? id = some a →
      (∃ b, s.world.db.accesses.find? id = some b ∧ Later b a ∧ (a.status = .active → a = b)) ∨
        s.world.db.accesses.find? id = none ∧ a.status ≠ .active) : Inv t where
  active := by
    intro id a ha hstatus
    rcases hback id a ha with ⟨b, hb, -, hsame⟩ | ⟨-, hne⟩
    · obtain rfl := hsame hstatus
      obtain ⟨henabled, htop⟩ := hi.active id a hb hstatus
      obtain ⟨a', ha', -, hkept⟩ := hgrows id a hb
      obtain rfl := Option.some.inj (ha.symm.trans ha')
      exact ⟨henabled, hkept rfl henabled htop⟩
    · exact absurd hstatus hne
  reconciled := by
    intro id revision hmem a ha
    rw [hnotes] at hmem
    obtain ⟨hfound, hrevision⟩ := atRevision_some.mp ha
    obtain ⟨b', hb', hle⟩ := hi.past id revision hmem
    rcases hback id a hfound with ⟨b, hb, hlater, -⟩ | ⟨hnone, -⟩
    · obtain rfl := Option.some.inj (hb'.symm.trans hb)
      have hold : b'.revision = revision :=
        Nat.le_antisymm (hrevision ▸ hlater.revision) hle
      obtain ⟨henabled, htop⟩ := hi.reconciled id revision hmem b' (atRevision_some.mpr ⟨hb, hold⟩)
      obtain ⟨a', ha', hlater', hkept⟩ := hgrows id b' hb
      obtain rfl := Option.some.inj (hfound.symm.trans ha')
      have hsame : a.revision = b'.revision := hrevision.trans hold.symm
      exact ⟨(hlater'.enabled hsame).trans henabled, hkept hsame henabled htop⟩
    · rw [hnone] at hb'
      cases hb'
  past := by
    intro id revision hmem
    rw [hnotes] at hmem
    obtain ⟨b, hb, hle⟩ := hi.past id revision hmem
    obtain ⟨a, ha, hlater, -⟩ := hgrows id b hb
    exact ⟨a, ha, Nat.le_trans hle hlater.revision⟩

/-- A change of the tables an access depends on. -/
lemma inv_tables {s t : State} (hi : Inv s) (hnotes : t.notes = s.notes)
    (haccesses : t.world.db.accesses = s.world.db.accesses)
    (htop : ∀ h ∈ s.world.db.accesses.rows, h.enabled → Topology s.world.db.base h →
      Topology t.world.db.base h) : Inv t ∧ Grows s.world.db t.world.db := by
  have hgrows : Grows s.world.db t.world.db := fun id h hh =>
    ⟨h, by rw [haccesses]; exact hh, .refl h, fun _ => htop h (Table.mem_of_find? hh)⟩
  refine ⟨inv_act hi hnotes hgrows fun id a ha => Or.inl ⟨a, ?_, .refl a, fun _ => rfl⟩, hgrows⟩
  rw [haccesses] at ha
  exact ha

lemma request_step {s : State} (hi : Inv s) (id : String) (enabled : Option Bool) :
    Inv { s with world := (Act.request id enabled).run s.world } ∧
      Grows s.world.db ((Act.request id enabled).run s.world).db := by
  have hfind := find?_updateAccess s.world.db id (pendingRow enabled) fun _ => rfl
  have hlater (r : AccessRow) : Later r (if r.id = id then pendingRow enabled r else r) := by
    by_cases hr : r.id = id
    · rw [if_pos hr]
      exact later_pendingRow enabled r
    · rw [if_neg hr]
      exact .refl r
  have hgrows : Grows s.world.db ((Act.request id enabled).run s.world).db := by
    intro k h hh
    refine ⟨_, by rw [Act.run, setDomainAccessPending, hfind, hh, Option.map_some], hlater h, ?_⟩
    intro _ _ ht
    exact Later.topology (hlater h) ht
  refine ⟨inv_act hi rfl hgrows fun k a ha => Or.inl ?_, hgrows⟩
  have ha' : ((s.world.db.accesses.find? k).map fun r =>
      if r.id = id then pendingRow enabled r else r) = some a := by
    rw [← hfind]
    exact ha
  obtain ⟨b, hb, rfl⟩ := Option.map_eq_some_iff.mp ha'
  refine ⟨b, hb, hlater b, fun hstatus => ?_⟩
  by_cases hid : b.id = id
  · rw [if_pos hid] at hstatus
    cases hstatus
  · exact if_neg hid

lemma create_step {s : State} {row : AccessRow} {newId : String} {values : AccessValues}
    {accesses : Table AccessRow String AccessRow.id} (hi : Inv s)
    (hinsert : s.world.db.accesses.insert? row = some accesses)
    (hnew : New s.world.db newId values row) :
    Inv { s with world := { s.world with db := { s.world.db with accesses } } } ∧
      Grows s.world.db { s.world.db with accesses } := by
  have hfind := Table.find?_insert hinsert
  have hnone := Table.find?_new hinsert
  have hgrows : Grows s.world.db { s.world.db with accesses } := by
    intro id h hh
    have hne : id ≠ row.id := by
      rintro rfl
      rw [hnone] at hh
      cases hh
    refine ⟨h, ?_, .refl h, fun _ _ ht => ht⟩
    change accesses.find? id = some h
    rw [hfind, if_neg hne]
    exact hh
  refine ⟨inv_act hi rfl hgrows fun id a ha => ?_, hgrows⟩
  change accesses.find? id = some a at ha
  rw [hfind] at ha
  split_ifs at ha with hid
  · subst hid
    obtain rfl := Option.some.inj ha
    refine Or.inr ⟨hnone, fun hstatus => ?_⟩
    rw [hnew.status] at hstatus
    cases hstatus
  · exact Or.inl ⟨a, ha, .refl a, fun _ => rfl⟩

lemma act_step {s : State} {a : Act} (hi : Inv s) (hp : a.Possible s.world) :
    Inv { s with world := a.run s.world } ∧ Grows s.world.db (a.run s.world).db := by
  cases a with
  | request id enabled => exact request_step hi id enabled
  | create newId values =>
    rcases createPendingDomainAccess_cases s.world.db newId values with
      hsame | ⟨row, accesses, hinsert, hnew, hdb⟩
    · have hrun : (Act.create newId values).run s.world = s.world := by
        rw [Act.run, hsame]
      rw [hrun]
      exact ⟨hi, Grows.refl _⟩
    · have hrun : (Act.create newId values).run s.world =
          { s.world with db := { s.world.db with accesses } } := by
        rw [Act.run, hdb]
      rw [hrun]
      exact create_step hi hinsert hnew
  | account id values =>
    cases hupdate : updateCloudflareAccount s.world.db id values with
    | none =>
      have hrun : (Act.account id values).run s.world = s.world := by
        rw [Act.run, hupdate, Option.getD_none]
      rw [hrun]
      exact ⟨hi, Grows.refl _⟩
    | some db =>
      have hrun : (Act.account id values).run s.world = { s.world with db } := by
        rw [Act.run, hupdate, Option.getD_some]
      rw [hrun]
      exact inv_tables (t := { s with world := { s.world with db } }) hi rfl
        (account_accesses hupdate)
        fun h hmem henabled ht => topology_account hupdate hmem henabled ht
  | tables base zones apiTokens =>
    obtain ⟨haccounts, hconnectors, hroutes, -⟩ := hp
    exact inv_tables (t := { s with world := (Act.tables base zones apiTokens).run s.world })
      hi rfl rfl fun h hmem henabled ht =>
        topology_guarded haccounts hconnectors hroutes hmem henabled ht
  | operations guided => exact ⟨inv_frame hi rfl rfl rfl, grows_frame rfl rfl⟩
  | records edited nextRecord => exact ⟨inv_frame hi rfl rfl rfl, grows_frame rfl rfl⟩
  | tunnel address config => exact ⟨inv_frame hi rfl rfl rfl, grows_frame rfl rfl⟩

/-! ### The system -/

/-- The system in the runs whose ticks mark an access active only at a revision at which a
reconciliation has published it. -/
def vettedSystem (render : Render) : System Plane State Slot (Except Failure Unit) Act :=
  (system render).within (fun i s c _ => Vetted i s c) fun _ _ => True

lemma keeps_vettedSystem (render : Render) :
    Keeps (vettedSystem render) contract fun _ _ _ => True where
  lawful := lawful
  exec := fun i s c r t ⟨hvetted, hexec⟩ => ⟨hexec, hvetted⟩
  start := by
    rintro i a s p t ⟨rfl, hp⟩ hi -
    exact ⟨hi, fun j _ => lawful.refl j t, starts_triple hp t hi trivial⟩
  environment := by
    rintro a s t ⟨-, hpossible, rfl⟩ hi
    obtain ⟨hinv, hgrows⟩ := act_step hi hpossible
    exact ⟨hinv, fun _ => hgrows⟩
  crash := by
    rintro i s t p ⟨rfl, rfl⟩ hi
    exact ⟨inv_frame hi rfl rfl rfl, fun _ _ => grows_frame rfl rfl, fun _ _ _ => trivial⟩

lemma sound_initial {c : PlaneConfig} (h : Initial c) : Sound contract (fun _ _ _ => True) c := by
  have hnone (id : String) : c.state.world.db.accesses.find? id = none := by
    rw [h.db]
    rfl
  have hnotes : c.state.notes.reconciled = [] := by rw [h.notes]
  refine ⟨⟨fun id a ha => ?_, fun id revision hmem => ?_, fun id revision hmem => ?_⟩, fun i => ?_⟩
  · rw [hnone] at ha
    cases ha
  · rw [hnotes] at hmem
    cases hmem
  · rw [hnotes] at hmem
    cases hmem
  · rw [h.thread i]
    exact fun _ _ _ => trivial

/-- **Active accesses have a topology.** In every run whose verification ticks mark an access
active only at a revision at which a reconciliation has published it: every active access is
enabled, its account is enabled, its route is enabled and has its host name and the exposure
its method asks for, and for a tunnel its connector is enabled on the agent of the route. -/
theorem active_topology {render : Render} {c : PlaneConfig}
    (hc : Reach (vettedSystem render) Initial c) {id : String} {h : AccessRow}
    (hfound : c.state.world.db.accesses.find? id = some h) (hstatus : h.status = .active) :
    h.enabled ∧ Topology c.state.world.db.base h ∧
      ∃ r, RouteFits c.state.world.db.base h r ∧ r.hostname = h.hostname := by
  have hsound := reach_sound (keeps_vettedSystem render) (fun c hinit => sound_initial hinit) hc
  obtain ⟨henabled, htop⟩ := hsound.1.active id h hfound hstatus
  have hdns : Reach (DnsSafety.dnsSystem render anyScope) Initial c := by
    refine hc.of_within.within (fun i s o r => ?_) fun a s => ?_
    · cases o with
      | deployment id => exact False.elim
      | _ => trivial
    · cases a with
      | records edited next => exact False.elim
      | _ => trivial
  have hplain := reach_sound (DnsSafety.keeps_dnsSystem render anyScope)
    (fun c hinit => PublishedRecords.sound_initial hinit False.elim) hdns
  obtain ⟨r, hr⟩ := htop.route
  refine ⟨henabled, htop, r, hr, ?_⟩
  rw [← hplain.1.routes r (Table.mem_of_find? hr.found), ← (hplain.1.plain id h hfound).hostname]
  exact hr.hostname

/-! ### Examples -/

/-- A publication of the sample access that waits for its certificate. -/
def waitingOperation : GuidedRow :=
  { id := "operation", kind := .domainPublish, idempotencyKey := "key",
    requestedByUserId := "user", requestHash := "hash", request := none, status := .waiting,
    stage := "pending_https_verification", routeId := some "route",
    domainAccessId := some "access", updatedAt := 0 }

def vets (i : Slot) (s : State) : Call → Bool
  | .outcome id revision .active _ =>
      match i with
      | .reconcile _ _ => true
      | .tick _ => (atRevision s.world.db id revision).all fun h =>
          !h.enabled || s.notes.reconciled.contains (id, revision)
  | _ => true

lemma vetted_of_vets {i : Slot} {s : State} {c : Call} (h : vets i s c) : Vetted i s c := by
  cases i with
  | reconcile id n => cases c <;> trivial
  | tick n =>
    cases c with
    | outcome id revision status lastError =>
      cases status with
      | active =>
        intro a ha henabled
        have hall : (atRevision s.world.db id revision).all fun h =>
            !h.enabled || s.notes.reconciled.contains (id, revision) := h
        rw [ha, Option.all_some, henabled] at hall
        simpa using hall
      | _ => trivial
    | _ => trivial

/-- The access is published, up to its certificate. -/
def publication : List Move :=
  sampleCreation ++ [.act (.operations (.single waitingOperation)), .start sampleSlot true,
    .answer sampleSlot 20]

theorem active_topology_sample :
    ∃ c h, Reach (vettedSystem sampleRender) Initial c ∧
      c.state.world.db.accesses.find? "access" = some h ∧ h.status = .active ∧
      h.enabled ∧ Topology c.state.world.db.base h ∧
      ∃ r, RouteFits c.state.world.db.base h r ∧ r.hostname = h.hostname := by
  let c := play sampleRender sampleChoice
    (publication ++ [.start (.tick 0) false, .answer (.tick 0) 10]) sampleStart
  have hreach : Reach (vettedSystem sampleRender) Initial c := by
    refine reach_play (fun _ _ _ _ => vetted_of_vets) (fun _ _ _ => trivial)
      (.init sampleStart_clean.1) ?_
      ⟨sampleTables_possible, ⟨sampleValues_distinct, rfl⟩, trivial, trivial, trivial, trivial,
        trivial, trivial⟩
    decide +kernel
  have hend : (c.state.world.db.accesses.find? "access").map AccessRow.status =
      some .active := by
    decide +kernel
  clear_value c
  obtain ⟨h, hfound, hstatus⟩ := Option.map_eq_some_iff.mp hend
  exact ⟨c, h, hreach, hfound, hstatus, active_topology hreach hfound hstatus⟩

/-- The sample tables with the route switched off. -/
def routeOffBase : Db :=
  { sampleBase with
    managedRoutes := sampleBase.managedRoutes.update (fun _ => true)
      (fun r => { r with enabled := false }) fun _ => rfl }

/-- The user switches the access off, then its route, then the access on again. The
reconciliation refuses the topology. -/
def refusal : List Move :=
  [.act (.tables routeOffBase sampleZones fun _ => some "token"),
    .act (.request "access" (some true)), .start sampleSlot false, .answer sampleSlot 20]

/-- **An active access without a route.** The tick finds a certificate at the host name and
marks the access active, at a revision at which no reconciliation has published it. -/
theorem active_without_topology :
    ∃ c h, Reach (system sampleRender) Initial c ∧
      c.state.world.db.accesses.find? "access" = some h ∧ h.enabled ∧ h.status = .active ∧
      ¬Topology c.state.world.db.base h := by
  let b := play sampleRender sampleChoice
    (publication ++ [.act (.request "access" (some false))]) sampleStart
  have hbefore : Reach (system sampleRender) Initial b := by
    refine reach_play_any (.init sampleStart_clean.1) ?_
      ⟨sampleTables_possible, ⟨sampleValues_distinct, rfl⟩, trivial, trivial, trivial, trivial,
        trivial⟩
    decide
  have hpossible : (Act.tables routeOffBase sampleZones fun _ => some "token").Possible
      b.state.world := by
    refine ⟨?_, ?_, ?_, fun r hr => ?_⟩
    · unfold accountsKept
      decide
    · decide
    · decide
    · rw [List.mem_singleton.mp hr]
      decide
  let c := play sampleRender sampleChoice
    (refusal ++ [.start (.tick 0) false, .answer (.tick 0) 10]) b
  have hreach : Reach (system sampleRender) Initial c := by
    refine reach_play_any hbefore ?_
      ⟨hpossible, trivial, trivial, trivial, trivial, trivial, trivial⟩
    decide +kernel
  have hend : (c.state.world.db.accesses.find? "access").map
      (fun h => (h.enabled, h.status, h.routeId)) = some (true, .active, "route") ∧
      (c.state.world.db.base.managedRoutes.find? "route").map RouteRow.enabled =
        some false := by
    decide +kernel
  clear_value c
  obtain ⟨h, hfound, hrow⟩ := Option.map_eq_some_iff.mp hend.1
  obtain ⟨r, hr, hoff⟩ := Option.map_eq_some_iff.mp hend.2
  simp only [Prod.mk.injEq] at hrow
  refine ⟨c, h, hreach, hfound, hrow.1, hrow.2.1, fun htop => ?_⟩
  obtain ⟨r', hr'⟩ := htop.route
  have hsame := hr'.found
  rw [hrow.2.2, hr] at hsame
  obtain rfl := Option.some.inj hsame
  rw [hr'.enabled] at hoff
  cases hoff

end GatewayControl.ActiveSafety
