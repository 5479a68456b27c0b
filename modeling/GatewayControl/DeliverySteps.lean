import GatewayControl.Acceptance
import GatewayControl.RouteDelivery

/-!
What each step of an agent, of its control plane and of the others keeps: no success is reported
of a route that says more than what has taken effect.

The agent reports what it knows before it polls, so that the latest sync that arrived is the
only one whose success may still be unreported.
-/

namespace GatewayControl.RouteDelivery

open Text AgentTypes AgentPayloads AgentStore AgentLoop AgentRoutes Database Programs
open RouteSync RouteDirectory RouteQueue RouteHandouts Store Wire

variable {x : Installation} {a a' : Agent} {w w' : Site} {db' : Db}

/-! ### Steps of the others -/

/-- A sync as it has just been handed out: as the row of its route says. -/
def Fresh (x : Installation) (db : Db) (h : String × RouteSyncPayload) : Prop :=
  ∃ c r, db.commands.find? h.1 = some c ∧ c.agentId = x.agentId ∧ c.status = .claimed ∧
    c.work = .routeSync r.id ∧ db.managedRoutes.find? r.id = some r ∧
    r.gatewayAgentId = x.agentId ∧ h.2 = normal (payloadOf r)

lemma fresh_of_handed {db : Db} {c : Command} {h : String × RouteSyncPayload}
    (hc : Handed db x.agentId c) (hsync : syncOf c = some h) : Fresh x db h := by
  unfold syncOf at hsync
  cases hc with
  | route row r found agent claimed work hr here payload =>
    rw [payload] at hsync
    obtain rfl := Option.some.inj hsync
    exact ⟨row, r, found, agent, claimed, work, hr, here, rfl⟩
  | other row found work payload =>
    split at hsync
    · next p hp => exact absurd hp (payload p)
    · cases hsync

section Foreign

variable {fresh : List (String × RouteSyncPayload)}

lemma listed_foreign (hf : Foreign x.agentId w.db db') {id : String} (hid : Listed w.db id) :
    Listed db' id := by
  obtain ⟨c, hc⟩ := Option.isSome_iff_exists.mp hid
  obtain ⟨c', hc', -⟩ := hf.kept id c hc
  exact Option.isSome_iff_exists.mpr ⟨c', hc'⟩

lemma open_foreign (hf : Foreign x.agentId w.db db') {id routeId : String}
    (hid : Listed w.db id) (ho : Open db' id routeId) : Open w.db id routeId := by
  obtain ⟨c, hc⟩ := Option.isSome_iff_exists.mp hid
  obtain ⟨c', hc', hleft⟩ := hf.kept id c hc
  obtain ⟨d, hd, hwork, hout⟩ := ho
  obtain rfl := Option.some.inj (hc'.symm.trans hd)
  have hw := (hleft.same.route routeId).mp hwork
  exact ⟨c, hc, hw, hleft.before routeId hw hout⟩

lemma closed_foreign (hf : Foreign x.agentId w.db db') {id : String} (hid : Listed w.db id)
    (hc : Closed w.db id) : Closed db' id :=
  fun routeId ho => hc routeId (open_foreign hf hid ho)

lemma Truthful.says_listed {d : Data} (h : Truthful w d) {id : String} {b : Bool}
    (htells : Says d id b) : Listed w.db id := by
  obtain ⟨record, result, hrecord, -⟩ := htells
  exact h.listed id record hrecord

lemma Truthful.later {d : Data} (h : Truthful w d)
    (hlisted : ∀ id, Listed w.db id → Listed w'.db id)
    (hopen : ∀ id routeId, Listed w.db id → Open w'.db id routeId → Open w.db id routeId)
    (hhistory : w.route.history ⊆ w'.route.history) (hreceived : w'.received = w.received) :
    Truthful w' d := by
  refine ⟨fun id record hr => hlisted id (h.listed id record hr), h.keyed,
    fun id record routeId hr ho => ?_, fun id record hr hd routeId ho => ?_,
    fun id routeId htells ho => ?_⟩
  · rw [hreceived]
    exact h.received id record routeId hr (hopen id routeId (h.listed id record hr) ho)
  · exact h.delivered id record hr hd routeId (hopen id routeId (h.listed id record hr) ho)
  · obtain ⟨p, hhead, q, hq, heq⟩ :=
      h.success id routeId htells (hopen id routeId (h.says_listed htells) ho)
    rw [hreceived]
    exact ⟨p, hhead, q, hhistory hq, heq⟩

/-- What a command brings stays what the row says, while the row stays. -/
lemma covered_foreign (hf : Foreign x.agentId w.db db') (hfresh : ∀ h ∈ fresh, Fresh x db' h)
    {r : RouteRow} (hr : db'.managedRoutes.find? r.id = some r)
    (hhere : r.gatewayAgentId = x.agentId) (hc : Covered x w r) :
    Covered x { w with db := db', handed := fresh ++ w.handed } r := by
  obtain ⟨id, c, hfound, hagent, hwork, hout, hrevision⟩ := hc
  obtain ⟨c', hc', hleft⟩ := hf.kept id c hfound
  have hwork' := (hleft.same.route r.id).mpr hwork
  refine ⟨id, c', hc', hleft.same.agent.trans hagent, hwork',
    hleft.outstanding r.id hwork hagent ⟨r, hr, hhere⟩ hout, fun h hh hid => ?_⟩
  rcases List.mem_append.mp hh with hh | hh
  · obtain ⟨d, r', hd, -, -, hw, hrow, -, hpayload⟩ := hfresh h hh
    rw [hid] at hd
    obtain rfl := Option.some.inj (hc'.symm.trans hd)
    rw [Work.routeSync.inj (hw.symm.trans hwork')] at hrow
    obtain rfl := Option.some.inj (hr.symm.trans hrow)
    rw [hpayload]
    exact (known_payloadOf hr).2
  · exact hrevision h hh hid

/-- A command that waits has not been handed out with anything. -/
lemma covered_waiting (hs : Inv x (a, w)) (hf : Foreign x.agentId w.db db')
    (hfresh : ∀ h ∈ fresh, Fresh x db' h) {r : RouteRow}
    (hwait : Waiting db' x.agentId r.id) :
    Covered x { w with db := db', handed := fresh ++ w.handed } r := by
  obtain ⟨id, c', hc', hagent, hwork, hpending⟩ := hwait
  refine ⟨id, c', hc', hagent, hwork, Or.inl hpending, fun h hh hid => ?_⟩
  rcases List.mem_append.mp hh with hh | hh
  · obtain ⟨d, -, hd, -, hclaimed, -⟩ := hfresh h hh
    rw [hid] at hd
    obtain rfl := Option.some.inj (hc'.symm.trans hd)
    rw [hpending] at hclaimed
    cases hclaimed
  · obtain ⟨c, hc, -, hw, hstatus, -⟩ := hs.handed h hh
    rw [hid] at hc
    obtain ⟨d, hd, hleft⟩ := hf.kept id c hc
    obtain rfl := Option.some.inj (hc'.symm.trans hd)
    exact absurd (hleft.pending _ hw hpending) hstatus

lemma known_foreign (hf : Foreign x.agentId w.db db') {p : RouteSyncPayload}
    (hp : Known w.db p) : Known db' p :=
  hp.later (hf.routes p.routeId)

/-- **Step lemma.** What the others do, and what is handed out. -/
lemma inv_foreign (hs : Inv x (a, w)) (hf : Foreign x.agentId w.db db')
    (hfresh : ∀ h ∈ fresh, Fresh x db' h) :
    Inv x (a, { w with db := db', handed := fresh ++ w.handed }) where
  directory := hs.directory
  canonical := by
    intro routeId r hr
    rcases hf.known routeId r hr with hsome | hlower
    · obtain ⟨r', hr'⟩ := Option.isSome_iff_exists.mp hsome
      exact hs.canonical routeId r' hr'
    · exact hlower
  handed := by
    intro h hh
    rcases List.mem_append.mp hh with hh | hh
    · obtain ⟨c, r, hc, hagent, hclaimed, hwork, hr, -, hpayload⟩ := hfresh h hh
      rw [hpayload]
      refine ⟨c, hc, hagent, hwork, ?_, (known_payloadOf hr).1⟩
      rw [hclaimed]
      rintro ⟨⟩
    · obtain ⟨c, hc, hagent, hwork, hstatus, hknown⟩ := hs.handed h hh
      obtain ⟨c', hc', hleft⟩ := hf.kept h.1 c hc
      exact ⟨c', hc', hleft.same.agent.trans hagent, (hleft.same.route _).mpr hwork,
        fun hp => hstatus (hleft.pending _ hwork hp), known_foreign hf hknown⟩
  received := fun h hh => List.mem_append_right _ (hs.received h hh)
  falling := hs.falling
  line := fun p hp => ⟨known_foreign hf (hs.line p hp).1, (hs.line p hp).2⟩
  rising := hs.rising
  quiet := hf.quiet hs.quiet
  truthful := fun d hd => (hs.truthful d hd).later (fun _ => listed_foreign hf)
    (fun _ _ => open_foreign hf) (List.Subset.refl _) rfl
  kept := hs.kept
  routes := by
    intro routeId r hr hhere
    have hid : r.id = routeId := Table.key_find? hr
    subst hid
    rcases hf.here r.id r hr hhere with hsame | hwait
    · rcases hs.routes r.id r hsame hhere with hcovered | hreached | ⟨hstatus, hreported⟩
      · exact Or.inl (covered_foreign hf hfresh hr hhere hcovered)
      · exact Or.inr (Or.inl hreached)
      · refine Or.inr (Or.inr ⟨hstatus, fun id htells ho => hreported id htells ?_⟩)
        exact open_foreign hf ((hs.truthful _ (Or.inl rfl)).says_listed htells) ho
    · exact Or.inl (covered_waiting hs hf hfresh hwait)

/-- **Step lemma.** A sync that arrives, when every success has been reported. -/
lemma inv_received (hs : Inv x (a, w)) {h : String × RouteSyncPayload} (hh : h ∈ w.handed)
    (hfresh : Fresh x w.db h) (hclosed : ∀ id, Says a.data id true → Closed w.db id) :
    Inv x (a, { w with received := h :: w.received }) where
  directory := hs.directory
  canonical := hs.canonical
  handed := hs.handed
  received := List.forall_mem_cons.mpr ⟨hh, hs.received⟩
  falling := by
    refine List.pairwise_cons.mpr ⟨fun h' hh' heq => ?_, hs.falling⟩
    obtain ⟨-, r, -, -, -, -, hr, -, hpayload⟩ := hfresh
    obtain ⟨-, -, -, -, -, r', hr', hle, -⟩ := hs.handed h' (hs.received h' hh')
    have hid : h.2.routeId = r.id := by rw [hpayload]; rfl
    rw [← heq, hid] at hr'
    obtain rfl := Option.some.inj (hr.symm.trans hr')
    rw [hpayload, (known_payloadOf hr).2]
    exact hle
  line := by
    intro p hp
    obtain ⟨hknown, h', hh', heq⟩ := hs.line p hp
    exact ⟨hknown, h', List.mem_cons_of_mem _ hh', heq⟩
  rising := hs.rising
  quiet := hs.quiet
  truthful := by
    intro d hd
    have htruthful := hs.truthful d hd
    refine ⟨htruthful.listed, htruthful.keyed, fun id record routeId hr ho => ?_,
      htruthful.delivered, fun id routeId htells ho => ?_⟩
    · obtain ⟨p, hp⟩ := htruthful.received id record routeId hr ho
      exact ⟨p, List.mem_cons_of_mem _ hp⟩
    · exact absurd ho (hclosed id (hs.kept d hd id htells) routeId)
  kept := hs.kept
  routes := hs.routes

end Foreign

/-! ### Reports -/

section Reports

variable {result : CommandResult} {current : CommandRow}

/-- A report ends its command or does nothing; when it is taken, the command has ended. -/
lemma resultRoute_spec {now : Database.Time} {answer : Answer}
    (h : resultRoute w.db now x.agentId result = (db', answer)) :
    (db' = w.db ∨ ∃ current, Completed w.db db' x.agentId result.commandId
      (Acceptance.ending result) current) ∧
      ∀ b, answer = .accepted b → Closed db' result.commandId := by
  have hrefused {status : Nat} {error : String}
      (h : (w.db, Answer.refused status error) = (db', answer)) :
      (db' = w.db ∨ ∃ current, Completed w.db db' x.agentId result.commandId
        (Acceptance.ending result) current) ∧
        ∀ b, answer = .accepted b → Closed db' result.commandId := by
    obtain ⟨rfl, rfl⟩ := Prod.mk.inj h
    exact ⟨Or.inl rfl, by rintro b ⟨⟩⟩
  unfold resultRoute at h
  split_ifs at h
  · exact hrefused h
  unfold resultHandler at h
  rw [Acceptance.parseStatus_status] at h
  dsimp only at h
  split_ifs at h
  · exact hrefused h
  · exact hrefused h
  cases hcomplete : completeCommand w.db now x.agentId result.commandId (Acceptance.ending result)
      (encodeResult result) with
  | none =>
    rw [hcomplete] at h
    exact hrefused h
  | some completed =>
    obtain ⟨db₁, completion⟩ := completed
    rw [hcomplete] at h
    have hclosed (hc : completion = .updated ∨ completion = .idempotent) :
        Closed db₁ result.commandId := by
      obtain ⟨c, hfound, hended⟩ := ended_of_accepted hcomplete hc
      rintro routeId ⟨d, hd, -, ho⟩
      obtain rfl := Option.some.inj (hfound.symm.trans hd)
      exact hended ho
    cases completion with
    | updated =>
      obtain ⟨rfl, rfl⟩ := Prod.mk.inj h
      exact ⟨completed_of hcomplete, fun _ _ => hclosed (Or.inl rfl)⟩
    | idempotent =>
      obtain ⟨rfl, rfl⟩ := Prod.mk.inj h
      exact ⟨completed_of hcomplete, fun _ _ => hclosed (Or.inr rfl)⟩
    | conflict | missing =>
      obtain ⟨rfl, rfl⟩ := Prod.mk.inj h
      exact ⟨completed_of hcomplete, by rintro b ⟨⟩⟩

variable {commandId : String} {ending : Ending}

lemma open_completed (hc : Completed w.db db' x.agentId commandId ending current)
    {id routeId : String} (ho : Open db' id routeId) : Open w.db id routeId ∧ id ≠ commandId := by
  obtain ⟨c, hfound, hwork, hout⟩ := ho
  by_cases hid : id = commandId
  · subst hid
    obtain ⟨now, kept, hended⟩ := hc.ended
    obtain rfl := Option.some.inj (hended.symm.trans hfound)
    exact absurd hout (Completed.ended_status now ending kept current)
  · exact ⟨⟨c, (hc.others id hid).symm.trans hfound, hwork, hout⟩, hid⟩

lemma listed_completed (hc : Completed w.db db' x.agentId commandId ending current)
    {id : String} (hid : Listed w.db id) : Listed db' id := by
  obtain ⟨c, hfound⟩ := Option.isSome_iff_exists.mp hid
  obtain ⟨c', hc', -⟩ := hc.rows hfound
  exact Option.isSome_iff_exists.mpr ⟨c', hc'⟩

/-- A command still covers a route, unless it is the one that has ended. -/
lemma covered_completed (hc : Completed w.db db' x.agentId commandId ending current)
    {r r' : RouteRow} (hid : r'.id = r.id) (hrevision : r'.revision = r.revision)
    (h : Covered x w r) : Covered x { w with db := db' } r' ∨
      current.work = .routeSync r.id ∧
        ∀ h ∈ w.handed, h.1 = commandId → revision h.2 = r.revision := by
  obtain ⟨id, c, hfound, hagent, hwork, hout, hhanded⟩ := h
  by_cases hne : id = commandId
  · subst hne
    obtain rfl := Option.some.inj (hc.found.symm.trans hfound)
    exact Or.inr ⟨hwork, hhanded⟩
  · refine Or.inl ⟨id, c, (hc.others id hne).trans hfound, hagent, ?_, hout, fun h hh heq => ?_⟩
    · rw [hid, hwork]
    · rw [hhanded h hh heq, hrevision]

/-- The route of a sync that was handed out. -/
lemma handed_route (hs : Inv x (a, w)) {id routeId : String} {p : RouteSyncPayload}
    (hh : (id, p) ∈ w.received) (ho : Open w.db id routeId) : p.routeId = routeId := by
  obtain ⟨c, hc, -, hwork, -⟩ := hs.handed _ (hs.received _ hh)
  obtain ⟨d, hd, hwork', -⟩ := ho
  obtain rfl := Option.some.inj (hc.symm.trans hd)
  exact Work.routeSync.inj (hwork.symm.trans hwork')

/-- When a sync of what the row says fails, either no success is left to report, or a later sync
of the same has taken effect. -/
lemma effective_of_open (hs : Inv x (a, w)) {r : RouteRow}
    (hr : w.db.managedRoutes.find? r.id = some r) {p : String × RouteSyncPayload}
    (hp : p ∈ w.received) (hid : p.2.routeId = r.id) (hrevision : revision p.2 = r.revision)
    {id : String} (htells : Says a.data id true) (ho : Open w.db id r.id) :
    Effective w r.id r.revision := by
  obtain ⟨q, hhead, heffective⟩ := (hs.truthful _ (Or.inl rfl)).success id r.id htells ho
  have hq : (id, q) ∈ w.received := List.mem_of_mem_head? hhead
  have hroute := handed_route hs hq ho
  have hle : revision p.2 ≤ revision q := by
    obtain ⟨rest, hrest⟩ := List.head?_eq_some_iff.mp hhead
    have hfalling := hs.falling
    rw [hrest] at hfalling hp
    rcases List.mem_cons.mp hp with rfl | hp
    · exact Int.le_refl _
    · exact (List.pairwise_cons.mp hfalling).1 p hp (hroute.trans hid.symm)
  obtain ⟨-, -, -, -, -, r', hr', hknown, -⟩ := hs.handed _ (hs.received _ hq)
  rw [hroute] at hr'
  obtain rfl := Option.some.inj (hr.symm.trans hr')
  have heq : revision q = r.revision := by
    rw [hrevision] at hle
    exact Int.le_antisymm hknown hle
  rwa [hroute, heq] at heffective

/-- A failure that is reported of the agent's route leaves its row failed, or waiting. -/
lemma failed_status (hs : Inv x (a, w))
    (hc : Completed w.db db' x.agentId commandId (Acceptance.ending result) current)
    {r r' : RouteRow} (hwork : current.work = .routeSync r.id) (hfailed : result.success = false)
    (hr : w.db.managedRoutes.find? r.id = some r) (hr' : db'.managedRoutes.find? r.id = some r')
    (hhere : r'.gatewayAgentId = x.agentId) : r'.status ≠ .active := by
  have hending : Acceptance.ending result = .failed := by
    unfold Acceptance.ending
    rw [hfailed]
    rfl
  by_cases hawaited : Awaited db' r.id
  · intro hactive
    refine hc.quiet hs.quiet r.id r' hr' ?_ hawaited
    rw [hactive]
    rintro ⟨⟩
  · have hfind := hc.routes r.id
    rw [hr, hr', Option.map_some, if_neg fun h => hawaited (hasPending_iff.mp h)] at hfind
    obtain rfl := Option.some.inj hfind
    have hagent : r.gatewayAgentId = x.agentId := by
      rw [← hhere]
      unfold endedRoute
      split_ifs <;> rfl
    unfold endedRoute
    rw [if_pos ⟨hwork, hagent⟩, hending]
    rintro ⟨⟩

/-- A command ends: what becomes of a route of the agent that it may have been about. -/
lemma accounted_completed (hs : Inv x (a, w)) (htells : Says a.data commandId result.success)
    (hc : Completed w.db db' x.agentId commandId (Acceptance.ending result) current)
    {routeId : String} {r' : RouteRow} (hr' : db'.managedRoutes.find? routeId = some r')
    (hhere : r'.gatewayAgentId = x.agentId) :
    Accounted x (a, { w with db := db' }) r' := by
  obtain ⟨r, hr, hcases⟩ := hc.route hr'
  have hid : r.id = routeId := Table.key_find? hr
  subst hid
  have hsame : r'.id = r.id ∧ r'.revision = r.revision ∧ r'.gatewayAgentId = r.gatewayAgentId := by
    rcases hcases with rfl | ⟨rfl, -⟩ <;> exact ⟨rfl, rfl, rfl⟩
  obtain ⟨hrid, hrevision, hagent⟩ := hsame
  have heffective (h : Effective w r.id r.revision) :
      Accounted x (a, { w with db := db' }) r' := by
    refine Or.inr (Or.inl ?_)
    rw [hrid, hrevision]
    exact h
  have hopen (hwork : current.work = .routeSync r.id) : Open w.db commandId r.id :=
    ⟨current, hc.found, hwork, Or.inr hc.claimed⟩
  rcases hs.routes r.id r hr (hagent.symm.trans hhere) with
    hcovered | hreached | ⟨hstatus, hreported⟩
  · rcases covered_completed hc hrid hrevision hcovered with hcovered | ⟨hwork, hhanded⟩
    · exact Or.inl hcovered
    have ho := hopen hwork
    cases hsuccess : result.success with
    | true =>
      rw [hsuccess] at htells
      obtain ⟨p, hhead, hp⟩ := (hs.truthful _ (Or.inl rfl)).success commandId r.id htells ho
      have hmem : (commandId, p) ∈ w.received := List.mem_of_mem_head? hhead
      rw [handed_route hs hmem ho, hhanded _ (hs.received _ hmem) rfl] at hp
      exact heffective hp
    | false =>
      obtain ⟨record, -, hrecord, -⟩ := htells
      obtain ⟨p, hp⟩ := (hs.truthful _ (Or.inl rfl)).received commandId record r.id hrecord ho
      by_cases hleft : ∃ id, Says a.data id true ∧ Open w.db id r.id
      · obtain ⟨id, hsaid, hstill⟩ := hleft
        exact heffective (effective_of_open hs hr hp (handed_route hs hp ho)
          (hhanded _ (hs.received _ hp) rfl) hsaid hstill)
      · refine Or.inr (Or.inr ⟨?_, fun id hsaid hstill => hleft ⟨id, hsaid, ?_⟩⟩)
        · exact failed_status hs hc hwork hsuccess hr hr' hhere
        · rw [hrid] at hstill
          exact (open_completed hc hstill).1
  · exact heffective hreached
  · refine Or.inr (Or.inr ⟨?_, fun id hsaid hstill => hreported id hsaid ?_⟩)
    · rcases hcases with rfl | ⟨rfl, -, hwork, -⟩
      · exact hstatus
      · cases hsuccess : result.success with
        | true =>
          rw [hsuccess] at htells
          exact absurd (hopen hwork) (hreported commandId htells)
        | false =>
          unfold Acceptance.ending
          rw [hsuccess]
          rintro ⟨⟩
    · rw [hrid] at hstill
      exact (open_completed hc hstill).1

/-- **Step lemma.** A result that the agent has recorded is reported. -/
lemma inv_report (hs : Inv x (a, w)) (htells : Says a.data result.commandId result.success)
    {now : Database.Time} {answer : Answer}
    (h : resultRoute w.db now x.agentId result = (db', answer)) :
    Inv x (a, { w with db := db' }) := by
  rcases (resultRoute_spec h).1 with rfl | ⟨current, hc⟩
  · exact hs
  have hknown {p : RouteSyncPayload} (hp : Known w.db p) : Known db' p :=
    hp.later fun r hr => hc.newer hr
  exact
    { directory := hs.directory
      canonical := fun routeId r hr => by
        obtain ⟨r', hr', -⟩ := hc.route hr
        exact hs.canonical routeId r' hr'
      handed := fun h hh => by
        obtain ⟨c, hfound, hagent, hwork, hstatus, hp⟩ := hs.handed h hh
        obtain ⟨c', hc', rfl | ⟨rfl, now, kept, rfl⟩⟩ := hc.rows hfound
        · exact ⟨c', hc', hagent, hwork, hstatus, hknown hp⟩
        · refine ⟨_, hc', hagent, hwork, fun hpending => ?_, hknown hp⟩
          exact Completed.ended_status _ _ _ _ (Or.inl hpending)
      received := hs.received
      falling := hs.falling
      line := fun p hp => ⟨hknown (hs.line p hp).1, (hs.line p hp).2⟩
      rising := hs.rising
      quiet := hc.quiet hs.quiet
      truthful := fun d hd => (hs.truthful d hd).later (fun _ => listed_completed hc)
        (fun _ _ _ ho => (open_completed hc ho).1) (List.Subset.refl _) rfl
      kept := hs.kept
      routes := fun routeId r hr hhere => accounted_completed hs htells hc hr hhere }

end Reports

/-! ### The agent's own files and records -/

section Records

variable {d d' : Data}

lemma says_congr (h : d'.commands = d.commands) {id : String} {b : Bool} :
    Says d' id b ↔ Says d id b := by
  unfold Says Data.command
  rw [h]

lemma Truthful.congr (hd : Truthful w d) (h : d'.commands = d.commands) : Truthful w d' := by
  have hcommand (id : String) : d'.command id = d.command id := by
    unfold Data.command
    rw [h]
  refine ⟨fun id record hr => ?_, fun id record result hr => ?_, fun id record routeId hr => ?_,
    fun id record hr => ?_, fun id routeId htells => ?_⟩
  · exact hd.listed id record (hcommand id ▸ hr)
  · exact hd.keyed id record result (hcommand id ▸ hr)
  · exact hd.received id record routeId (hcommand id ▸ hr)
  · exact hd.delivered id record (hcommand id ▸ hr)
  · exact hd.success id routeId ((says_congr h).mp htells)

lemma truthful_empty (h : d.commands = ∅) : Truthful w d := by
  have hcommand (id : String) (record : CommandRecord) : d.command id ≠ some record := by
    unfold Data.command
    rw [h, AList.lookup_empty]
    rintro ⟨⟩
  refine ⟨fun id record hr => ?_, fun id record result hr => ?_, fun id record routeId hr => ?_,
    fun id record hr => ?_, ?_⟩
  iterate 4 exact absurd hr (hcommand id record)
  rintro id routeId ⟨record, result, hr, -⟩
  exact absurd hr (hcommand id record)

lemma not_says_empty (h : d.commands = ∅) {id : String} {b : Bool} : ¬Says d id b := by
  rintro ⟨record, result, hr, -⟩
  unfold Data.command at hr
  rw [h, AList.lookup_empty] at hr
  cases hr

/-- **Step lemma.** What the agent holds is what it held, or nothing. -/
lemma inv_holds (hs : Inv x (a, w))
    (hholds : ∀ d', Holds a' d' → d'.commands = ∅ ∨ ∃ d, Holds a d ∧ d'.commands = d.commands)
    (hkept : ∀ d', Holds a' d' → ∀ id, Says d' id true → Says a'.data id true) :
    Inv x (a', w) where
  directory := hs.directory
  canonical := hs.canonical
  handed := hs.handed
  received := hs.received
  falling := hs.falling
  line := hs.line
  rising := hs.rising
  quiet := hs.quiet
  truthful := by
    intro d' hd'
    rcases hholds d' hd' with hempty | ⟨d, hd, heq⟩
    · exact truthful_empty hempty
    · exact (hs.truthful d hd).congr heq
  kept := hkept
  routes := by
    intro routeId r hr hhere
    refine (hs.routes routeId r hr hhere).imp_right (Or.imp_right ?_)
    rintro ⟨hstatus, hreported⟩
    refine ⟨hstatus, fun id htells => hreported id ?_⟩
    rcases hholds a'.data (Or.inl rfl) with hempty | ⟨d, hd, heq⟩
    · exact absurd htells (not_says_empty hempty)
    · exact hs.kept d hd id ((says_congr heq).mp htells)

/-- The agent's records and its files stay as they are. -/
lemma inv_same (hs : Inv x (a, w)) (hdata : a'.data.commands = a.data.commands)
    (htemporary : a'.temporary = a.temporary) (hfile : a'.file = a.file) : Inv x (a', w) := by
  have hold (d' : Data) (hd' : Holds a' d') :
      ∃ d, Holds a d ∧ d'.commands = d.commands := by
    rcases hd' with rfl | hd' | hd'
    · exact ⟨a.data, Or.inl rfl, hdata⟩
    · exact ⟨d', Or.inr (Or.inl (htemporary ▸ hd')), rfl⟩
    · exact ⟨d', Or.inr (Or.inr (hfile ▸ hd')), rfl⟩
  refine inv_holds hs (fun d' hd' => Or.inr (hold d' hd')) fun d' hd' id htells => ?_
  obtain ⟨d, hd, heq⟩ := hold d' hd'
  exact (says_congr hdata).mpr (hs.kept d hd id ((says_congr heq).mp htells))

/-- Every data that is held is one that was, and the data in memory stays. -/
lemma inv_fewer (hs : Inv x (a, w)) (hdata : a'.data = a.data)
    (hholds : ∀ d, Holds a' d → Holds a d) : Inv x (a', w) := by
  refine inv_holds hs (fun d hd => Or.inr ⟨d, hholds d hd, rfl⟩) fun d hd id htells => ?_
  rw [hdata]
  exact hs.kept d (hholds d hd) id htells

lemma inv_written (hs : Inv x (a, w)) : Inv x ({ a with temporary := some a.data }, w) := by
  refine inv_fewer hs rfl fun d hd => ?_
  rcases hd with rfl | hd | hd
  · exact Or.inl rfl
  · exact Or.inl (Option.some.inj hd).symm
  · exact Or.inr (Or.inr hd)

lemma inv_dropped (hs : Inv x (a, w)) : Inv x ({ a with temporary := none }, w) := by
  refine inv_fewer hs rfl fun d hd => ?_
  rcases hd with rfl | hd | hd
  · exact Or.inl rfl
  · cases hd
  · exact Or.inr (Or.inr hd)

lemma inv_renamed (hs : Inv x (a, w)) : Inv x (a.renamed, w) := by
  unfold Agent.renamed
  split
  · next temporary htemporary =>
    refine inv_fewer hs rfl fun d hd => ?_
    rcases hd with rfl | hd | hd
    · exact Or.inl rfl
    · cases hd
    · exact Or.inr (Or.inl (htemporary.trans hd))
  · exact hs

/-- A process that starts again has what its file held. -/
lemma inv_restart (hs : Inv x (a, w)) : Inv x (a.restart, w) := by
  have hheld (d : Data) (hd : Holds a.restart d) : d = a.file.getD {} := by
    rcases hd with rfl | hd | hd
    · rfl
    · cases hd
    · exact (congrArg (Option.getD · {}) hd).symm
  refine inv_holds hs (fun d hd => ?_) fun d hd id htells => ?_
  · obtain rfl := hheld d hd
    cases hfile : a.file with
    | none => exact Or.inl rfl
    | some d => exact Or.inr ⟨d, Or.inr (Or.inr hfile), rfl⟩
  · obtain rfl := hheld d hd
    exact htells

/-- Where the payload is of the agent's route, it says what the row says, or a command is to
bring that. -/
def Level (x : Installation) (w : Site) (p : RouteSyncPayload) : Prop :=
  ∀ r, w.db.managedRoutes.find? p.routeId = some r → r.gatewayAgentId = x.agentId →
    revision p = r.revision ∨ Covered x w r

/-- What a record that the agent makes must tell. -/
structure Assignable (x : Installation) (s : Agent × Site) (id : String)
    (record : CommandRecord) : Prop where
  listed : Listed s.2.db id
  keyed : ∀ result, record.result = some result → result.commandId = id
  received : ∀ routeId, Open s.2.db id routeId → ∃ p, (id, p) ∈ s.2.received
  delivered : record.delivered → Closed s.2.db id
  kept : Says s.1.data id true → ∃ result, record.result = some result ∧ result.success = true
  success : ∀ result, record.result = some result → result.success = true →
    Says s.1.data id true ∨ ∀ routeId, Open s.2.db id routeId → ∃ p,
      s.2.received.head? = some (id, p) ∧ Effective s.2 p.routeId (revision p) ∧ Level x s.2 p

variable {id : String} {record : CommandRecord}

lemma says_assign {b : Bool} :
    Says (d.assign id record) id b ↔
      ∃ result, record.result = some result ∧ result.success = b := by
  unfold Says
  rw [Data.command_assign]
  constructor
  · rintro ⟨_, result, ⟨⟩, hresult⟩
    exact ⟨result, hresult⟩
  · rintro ⟨result, hresult⟩
    exact ⟨record, result, rfl, hresult⟩

lemma says_assign_ne {k : String} {b : Bool} (h : k ≠ id) :
    Says (d.assign id record) k b ↔ Says d k b := by
  unfold Says
  rw [Data.command_assign_ne _ _ h]

lemma truthful_assign (hs : Inv x (a, w)) (h : Assignable x (a, w) id record) :
    Truthful w (a.data.assign id record) := by
  have hold := hs.truthful a.data (Or.inl rfl)
  refine ⟨fun k r hr => ?_, fun k r result hr => ?_, fun k r routeId hr => ?_,
    fun k r hr => ?_, fun k routeId htells ho => ?_⟩
  all_goals by_cases hk : k = id
  · exact hk ▸ h.listed
  · rw [Data.command_assign_ne _ _ hk] at hr
    exact hold.listed k r hr
  · subst hk
    rw [Data.command_assign] at hr
    obtain rfl := Option.some.inj hr
    exact h.keyed result
  · rw [Data.command_assign_ne _ _ hk] at hr
    exact hold.keyed k r result hr
  · exact hk ▸ h.received routeId
  · rw [Data.command_assign_ne _ _ hk] at hr
    exact hold.received k r routeId hr
  · subst hk
    rw [Data.command_assign] at hr
    obtain rfl := Option.some.inj hr
    exact h.delivered
  · rw [Data.command_assign_ne _ _ hk] at hr
    exact hold.delivered k r hr
  · subst hk
    obtain ⟨result, hresult, hsuccess⟩ := says_assign.mp htells
    rcases h.success result hresult hsuccess with hsaid | hnew
    · exact hold.success k routeId hsaid ho
    · obtain ⟨p, hhead, heffective, -⟩ := hnew routeId ho
      exact ⟨p, hhead, heffective⟩
  · exact hold.success k routeId ((says_assign_ne hk).mp htells) ho

/-- **Step lemma.** The agent records how far a command has come. -/
lemma inv_assign (hs : Inv x (a, w)) (h : Assignable x (a, w) id record) :
    Inv x ({ a with data := a.data.assign id record }, w) where
  directory := hs.directory
  canonical := hs.canonical
  handed := hs.handed
  received := hs.received
  falling := hs.falling
  line := hs.line
  rising := hs.rising
  quiet := hs.quiet
  truthful := by
    intro d hd
    rcases hd with rfl | hd | hd
    · exact truthful_assign hs h
    · exact hs.truthful d (Or.inr (Or.inl hd))
    · exact hs.truthful d (Or.inr (Or.inr hd))
  kept := by
    have hkeeps (k : String) (htells : Says a.data k true) :
        Says (a.data.assign id record) k true := by
      by_cases hk : k = id
      · subst hk
        exact says_assign.mpr (h.kept htells)
      · exact (says_assign_ne hk).mpr htells
    intro d hd k htells
    rcases hd with rfl | hd | hd
    · exact htells
    · exact hkeeps k (hs.kept d (Or.inr (Or.inl hd)) k htells)
    · exact hkeeps k (hs.kept d (Or.inr (Or.inr hd)) k htells)
  routes := by
    intro routeId r hr hhere
    have hid : r.id = routeId := Table.key_find? hr
    subst hid
    rcases hs.routes r.id r hr hhere with hcovered | hreached | ⟨hstatus, hreported⟩
    · exact Or.inl hcovered
    · exact Or.inr (Or.inl hreached)
    by_cases hnew : Says (a.data.assign id record) id true ∧ Open w.db id r.id
    · obtain ⟨htells, ho⟩ := hnew
      obtain ⟨result, hresult, hsuccess⟩ := says_assign.mp htells
      rcases h.success result hresult hsuccess with hsaid | hnew
      · exact absurd ho (hreported id hsaid)
      · obtain ⟨p, hhead, heffective, hlevel⟩ := hnew r.id ho
        have hroute := handed_route hs (List.mem_of_mem_head? hhead) ho
        rcases hlevel r (hroute ▸ hr) hhere with heq | hcovered
        · rw [hroute, heq] at heffective
          exact Or.inr (Or.inl heffective)
        · exact Or.inl hcovered
    · refine Or.inr (Or.inr ⟨hstatus, fun k htells ho => ?_⟩)
      by_cases hk : k = id
      · subst hk
        exact hnew ⟨htells, ho⟩
      · exact hreported k ((says_assign_ne hk).mp htells) ho

end Records

/-! ### The dynamic directory -/

section Routes

variable {route : RouteState} {c : Command}

/-- **Step lemma.** Syncs begin and take effect in the order in which they arrived. -/
lemma inv_route (hs : Inv x (a, w)) (hdirectory : RouteDirectory.Inv x.executor x.links route)
    (hhistory : w.route.history ⊆ route.history)
    (hline : ∀ p ∈ route.history ++ route.command.toList, Known w.db p ∧
      ∃ h ∈ w.received, h.2.routeId = p.routeId ∧ revision h.2 = revision p)
    (hrising : (route.history ++ route.command.toList).Pairwise fun p p' =>
      p.routeId = p'.routeId → revision p ≤ revision p') :
    Inv x (a, { w with route }) where
  directory := hdirectory
  canonical := hs.canonical
  handed := hs.handed
  received := hs.received
  falling := hs.falling
  line := hline
  rising := hrising
  quiet := hs.quiet
  truthful := fun d hd =>
    (hs.truthful d hd).later (fun _ h => h) (fun _ _ _ ho => ho) hhistory rfl
  kept := hs.kept
  routes := by
    intro routeId r hr hhere
    rcases hs.routes routeId r hr hhere with hcovered | ⟨q, hq, heq⟩ | hreported
    · exact Or.inl hcovered
    · exact Or.inr (Or.inl ⟨q, hhistory hq, heq⟩)
    · exact Or.inr (Or.inr hreported)

lemma inv_ghosts (hs : Inv x (a, w)) (hdirectory : RouteDirectory.Inv x.executor x.links route)
    (hhistory : route.history = w.route.history) (hcommand : route.command = w.route.command) :
    Inv x (a, { w with route }) := by
  refine inv_route hs hdirectory (by rw [hhistory]; exact List.Subset.refl _) ?_ ?_
  · rw [hhistory, hcommand]
    exact hs.line
  · rw [hhistory, hcommand]
    exact hs.rising

/-- What takes effect is the command under way. -/
lemma noted_cases (s : RouteState) (o : Host.HostOp) (r : o.Res) :
    s.noted o r = s.history ∨ s.noted o r = s.history ++ s.command.toList := by
  unfold RouteState.noted
  split
  · exact Or.inr rfl
  · exact Or.inr rfl
  · exact Or.inl rfl

lemma inv_host (hs : Inv x (a, w)) {o : Host.HostOp} {r : o.Res}
    (hexec : RouteDirectory.Exec x.links w.route o r route)
    (hdirectory : RouteDirectory.Inv x.executor x.links route) :
    Inv x (a, { w with route }) := by
  rcases noted_cases w.route o r with hnoted | hnoted
  · exact inv_ghosts hs hdirectory (hexec.history.trans hnoted) hexec.command
  have hhistory : route.history = w.line := hexec.history.trans hnoted
  refine inv_route hs hdirectory ?_ ?_ ?_
  · rw [hhistory]
    exact List.subset_append_left _ _
  · intro p hp
    refine hs.line p ?_
    rw [hhistory, hexec.command] at hp
    rcases List.mem_append.mp hp with hp | hp
    · exact hp
    · exact List.mem_append_right _ hp
  · rw [hhistory, hexec.command]
    refine List.pairwise_append.mpr ⟨hs.rising, ?_, fun p hp p' hp' => ?_⟩
    · cases w.route.command with
      | none => exact List.Pairwise.nil
      | some p => exact List.pairwise_singleton _ p
    · cases hcommand : w.route.command with
      | none =>
        rw [hcommand] at hp'
        cases hp'
      | some q =>
        rw [hcommand] at hp'
        obtain rfl := List.mem_singleton.mp hp'
        rcases List.mem_append.mp hp with hp | hp
        · intro heq
          refine (List.pairwise_append.mp hs.rising).2.2 p hp p' ?_ heq
          rw [hcommand]
          exact List.mem_singleton_self p'
        · rw [hcommand] at hp
          obtain rfl := List.mem_singleton.mp hp
          exact fun _ => Int.le_refl _

lemma decode_normal {p q : RouteSyncPayload} (h : x.executor.decode (x.wire p) = .ok q) :
    q = normal p := by
  unfold Executor.decode decodeRouteSyncPayload decodeOnly at h
  split at h
  · cases h
  cases hdecoded : x.executor.schema.decode (text (x.wire p)) with
  | error err =>
    rw [hdecoded] at h
    cases h
  | ok read =>
    obtain ⟨payload, rest⟩ := read
    obtain rfl := x.reads p payload rest hdecoded
    rw [hdecoded] at h
    dsimp only at h
    split at h
    · cases h
    change checkRoute x.executor.net payload = .ok q at h
    unfold checkRoute at h
    dsimp only at h
    split_ifs at h
    cases hbackends : checkBackends x.executor.net [] payload.backends with
    | error err =>
      rw [hbackends] at h
      cases h
    | ok _ =>
      rw [hbackends] at h
      exact (Except.ok.inj h).symm

/-- What is executed is what arrived. -/
lemma accepted_sync {p : RouteSyncPayload} (h : accepted x c = some p) :
    syncOf c = some (c.id, p) ∧ connectorUUIDPattern p.routeId := by
  unfold accepted at h
  unfold syncOf
  cases hpayload : c.payload with
  | routeSync q =>
    rw [hpayload] at h
    dsimp only at h
    cases hdecoded : x.executor.decode (x.wire q) with
    | error err =>
      rw [hdecoded] at h
      cases h
    | ok p' =>
      rw [hdecoded] at h
      obtain rfl := Option.some.inj h
      refine ⟨?_, decode_id x.executor hdecoded⟩
      rw [decode_normal hdecoded]
  | _ =>
    rw [hpayload] at h
    cases h

/-- **Step lemma.** The execution of the latest sync begins. -/
lemma inv_enter (hs : Inv x (a, w))
    (hhead : ∀ h, syncOf c = some h → w.received.head? = some h) :
    Inv x (a, noted x w (.enter c)) := by
  have hsync {p : RouteSyncPayload} (hp : p ∈ (accepted x c).toList) :
      w.received.head? = some (c.id, p) ∧ connectorUUIDPattern p.routeId := by
    rw [Option.mem_toList] at hp
    obtain ⟨hsync, hid⟩ := accepted_sync hp
    exact ⟨hhead _ hsync, hid⟩
  have hold (p : RouteSyncPayload) (hp : p ∈ w.route.history) : p ∈ w.line :=
    List.mem_append_left _ hp
  refine inv_route hs ⟨hs.directory.mirrors, Or.inl rfl, fun p hp => ?_⟩ (List.Subset.refl _)
    (fun p hp => ?_) ?_
  · rcases List.mem_append.mp hp with hp | hp
    · exact hs.directory.accepted p (hold p hp)
    · exact (hsync hp).2
  · rcases List.mem_append.mp hp with hp | hp
    · exact hs.line p (hold p hp)
    · have hmem : (c.id, p) ∈ w.received := List.mem_of_mem_head? (hsync hp).1
      obtain ⟨-, -, -, -, -, hknown⟩ := hs.handed _ (hs.received _ hmem)
      exact ⟨hknown, _, hmem, rfl, rfl⟩
  · refine List.pairwise_append.mpr ⟨(List.pairwise_append.mp hs.rising).1, ?_,
      fun p hp p' hp' heq => ?_⟩
    · cases accepted x c with
      | none => exact List.Pairwise.nil
      | some p => exact List.pairwise_singleton _ p
    · obtain ⟨-, h, hh, hroute, hrevision⟩ := hs.line p (hold p hp)
      obtain ⟨rest, hrest⟩ := List.head?_eq_some_iff.mp (hsync hp').1
      have hfalling := hs.falling
      rw [hrest] at hfalling hh
      rw [← hrevision]
      rcases List.mem_cons.mp hh with rfl | hh
      · exact Int.le_refl _
      · exact (List.pairwise_cons.mp hfalling).1 h hh (heq.symm.trans hroute.symm)

end Routes

end GatewayControl.RouteDelivery
