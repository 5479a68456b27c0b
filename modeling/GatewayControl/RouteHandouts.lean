import GatewayControl.RouteQueue

/-!
The transactions that create and change routes, those that stand for everything the others do,
and an agent's poll: what it is handed is what the row of the route says then.
-/

namespace GatewayControl.RouteHandouts

open Text AgentTypes AgentRoutes Database Json Placement Store Transactions RouteQueue

variable {db db' db'' : Db} {now : Database.Time} {agentId : String}

/-! ### Routes created and changed -/

structure Queued (db db' : Db) (ofAgent routeId : String) : Prop where
  routes : db'.managedRoutes = db.managedRoutes
  kept : ∀ id c, db.commands.find? id = some c → db'.commands.find? id = some c
  added : ∀ id c', db'.commands.find? id = some c' →
    db.commands.find? id = some c' ∨ c'.work = .routeSync routeId
  waiting : Waiting db' ofAgent routeId

lemma queued_of {commandId ofAgent routeId : String}
    (h : queueInternalSync db now commandId ofAgent (.routeSync routeId) = some db') :
    Queued db db' ofAgent routeId := by
  unfold queueInternalSync at h
  split_ifs at h with hpending
  · obtain rfl := Option.some.inj h
    obtain ⟨c, hc, hrow⟩ := List.any_eq_true.mp hpending
    simp only [Bool.and_eq_true, beq_iff_eq, decide_eq_true_eq] at hrow
    exact ⟨rfl, fun _ _ hc => hc, fun _ _ hc => Or.inl hc,
      c.id, c, Table.find?_of_mem hc, hrow.1.1, hrow.1.2, hrow.2⟩
  · obtain ⟨hroutes, hnew, hfind⟩ := find?_insertCommand h
    refine ⟨hroutes, fun _ _ hc => kept_insertCommand h hc, fun id c' hc' => ?_, commandId,
      { id := commandId, agentId := ofAgent, work := .routeSync routeId, createdAt := now },
      by rw [hfind, if_pos rfl], rfl, rfl, rfl⟩
    rw [hfind] at hc'
    split_ifs at hc' with hid
    · obtain rfl := Option.some.inj hc'
      exact Or.inr rfl
    · exact Or.inl hc'

/-- A row that is new or changed waits for its agent, and no other row is touched. -/
lemma Queued.foreign {ofAgent routeId : String} {r' : RouteRow} (h : Queued db db'' ofAgent routeId)
    (hcommands : db.commands = db'.commands)
    (hroute : db.managedRoutes.find? routeId = some r') (hagent : r'.gatewayAgentId = ofAgent)
    (hstatus : r'.status = .pending)
    (hnewer : ∀ r, db'.managedRoutes.find? routeId = some r → Newer r r')
    (hothers : ∀ id, id ≠ routeId → db.managedRoutes.find? id = db'.managedRoutes.find? id)
    (hknown : (db'.managedRoutes.find? routeId).isSome ∨ toLower routeId = routeId) :
    Foreign agentId db' db'' where
  kept := by
    intro id c hc
    rw [← hcommands] at hc
    exact ⟨c, h.kept id c hc, .refl c⟩
  routes := by
    intro id r hr
    rw [h.routes]
    by_cases hid : id = routeId
    · subst hid
      exact ⟨r', hroute, hnewer r hr⟩
    · exact ⟨r, (hothers id hid).trans hr, .refl r⟩
  here := by
    intro id r hr hhere
    rw [h.routes] at hr
    by_cases hid : id = routeId
    · subst hid
      obtain rfl := Option.some.inj (hroute.symm.trans hr)
      rw [← hhere, hagent]
      exact Or.inr h.waiting
    · exact Or.inl ((hothers id hid).symm.trans hr)
  known := by
    intro id r hr
    rw [h.routes] at hr
    by_cases hid : id = routeId
    · subst hid
      exact hknown
    · exact Or.inl (by rw [← hothers id hid, hr]; rfl)
  quiet := by
    rintro hquiet id r hr hne ⟨commandId, c, hc, hwork, hpending⟩
    rw [h.routes] at hr
    by_cases hid : id = routeId
    · subst hid
      obtain rfl := Option.some.inj (hroute.symm.trans hr)
      exact hne hstatus
    · rcases h.added commandId c hc with hold | hnew
      · rw [hcommands] at hold
        rw [hothers id hid] at hr
        exact hquiet id r hr hne ⟨commandId, c, hold, hwork, hpending⟩
      · exact hid (Work.routeSync.inj (hwork.symm.trans hnew))

lemma foreign_createRoute {routeId commandId : String} {values : RouteValues}
    {answer : Option RouteRow} (hid : toLower routeId = routeId)
    (h : createRoute db now routeId commandId values = some (db', answer)) :
    Foreign agentId db db' := by
  unfold createRoute at h
  split_ifs at h with henabled
  · exact (Prod.mk.inj (Option.some.inj h)).1 ▸ (Aside.refl db).foreign
  · obtain ⟨db₁, hinsert, h⟩ := Option.bind_eq_some_iff.mp h
    obtain ⟨db₂, hqueue, h⟩ := Option.bind_eq_some_iff.mp h
    obtain rfl := (Prod.mk.inj (Option.some.inj h)).1
    obtain ⟨managedRoutes, htable, hrow⟩ := Option.bind_eq_some_iff.mp hinsert
    obtain rfl := Option.some.inj hrow
    have hfind := Table.find?_insert htable
    have hnew : db.managedRoutes.find? routeId = none := Table.find?_new htable
    refine (queued_of hqueue).foreign rfl ((hfind routeId).trans (if_pos rfl)) rfl rfl ?_ ?_
      (Or.inr hid)
    · intro r hr
      rw [hnew] at hr
      cases hr
    · exact fun id hne => (hfind id).trans (if_neg hne)

lemma newer_changeRoute (values : RouteChange) (r : RouteRow) : Newer r (changeRoute values r) where
  revision := Nat.le_succ _
  content := fun h => absurd h (Nat.succ_ne_self _)

lemma foreign_updateRoute {commandId id : String} {values : RouteChange}
    {answer : Option RouteRow}
    (h : updateRoute db now commandId id values = some (db', answer)) :
    Foreign agentId db db' := by
  unfold updateRoute at h
  split at h
  · exact (Prod.mk.inj (Option.some.inj h)).1 ▸ (Aside.refl db).foreign
  · next current hcurrent =>
    split_ifs at h with henabled
    · exact (Prod.mk.inj (Option.some.inj h)).1 ▸ (Aside.refl db).foreign
    · obtain ⟨db₂, hqueue, h⟩ := Option.bind_eq_some_iff.mp h
      obtain rfl := (Prod.mk.inj (Option.some.inj h)).1
      have hfind := Table.find?_update db.managedRoutes (fun r => r.id = id)
        (changeRoute values) fun _ => rfl
      have hid : current.id = id := Table.key_find? hcurrent
      have hchanged : (db.managedRoutes.update (fun r => r.id = id) (changeRoute values)
          fun _ => rfl).find? id = some (changeRoute values current) := by
        rw [hfind, hcurrent, Option.map_some, if_pos (by simp [hid])]
      refine (queued_of hqueue).foreign rfl hchanged rfl rfl ?_ ?_
        (Or.inl (by rw [hcurrent]; rfl))
      · intro r hr
        obtain rfl := Option.some.inj (hcurrent.symm.trans hr)
        exact newer_changeRoute values current
      · intro k hk
        refine (hfind k).trans ?_
        cases hrow : db.managedRoutes.find? k with
        | none => rfl
        | some r =>
          have hrid : r.id = k := Table.key_find? hrow
          rw [Option.map_some, if_neg (by simp [hrid, hk])]

/-! ### Transactions of the others -/

/-- What may happen while the agent does nothing: nobody else reports the ends of its commands,
and the ids of new routes are as the database makes them. -/
def foreign (agentId : String) : Transaction → Prop
  | .completeCommand _ ofAgent _ _ _ => ofAgent ≠ agentId
  | .createRoute _ routeId _ _ => toLower routeId = routeId
  | _ => True

lemma foreign_run {t : Transaction} (ht : foreign agentId t) (h : t.run db db') :
    Foreign agentId db db' := by
  cases t with
  | createBackup =>
    obtain ⟨_, h⟩ := h
    exact (aside_createBackup h).foreign
  | createRestore =>
    obtain ⟨_, h⟩ := h
    exact (aside_createRestore h).foreign
  | createRuntimeOperation =>
    obtain ⟨_, h⟩ := h
    exact (aside_createRuntimeOperation h).foreign
  | createRuntimeLogRequest =>
    obtain ⟨_, h⟩ := h
    exact (aside_createRuntimeLogRequest h).foreign
  | createDeploymentRun =>
    obtain ⟨_, h⟩ := h
    exact (aside_createDeploymentRun h).foreign
  | createCommand =>
    obtain ⟨_, h⟩ := h
    exact (aside_createCommand h).foreign
  | createConnector =>
    obtain ⟨_, h⟩ := h
    exact (aside_createConnector h).foreign
  | updateConnector =>
    obtain ⟨_, h⟩ := h
    exact (aside_updateConnector h).foreign
  | createRoute =>
    obtain ⟨_, h⟩ := h
    exact foreign_createRoute ht h
  | updateRoute =>
    obtain ⟨_, h⟩ := h
    exact foreign_updateRoute h
  | queueStackSync => exact (aside_queueStackSync h).foreign
  | claimCommands =>
    obtain rfl := h
    exact foreign_claimCommands
  | completeCommand =>
    obtain ⟨_, h⟩ := h
    rcases completed_of h with rfl | ⟨current, hcompleted⟩
    · exact (Aside.refl db').foreign
    · exact hcompleted.foreign (Or.inl ht)
  | failStaleCommands =>
    obtain rfl := h
    exact aside_failStaleCommands.foreign
  | purgeRuntimeLogResults =>
    obtain rfl := h
    exact aside_purgeRuntimeLogResults.foreign
  | other => exact (aside_of_eq h.1 h.2.2.2.1).foreign

/-- Two steps of the others, of which the first changes no route and ends no command. -/
lemma Foreign.after (h : Foreign agentId db db') (h' : Foreign agentId db' db'')
    (hroutes : db'.managedRoutes = db.managedRoutes)
    (hout : ∀ id c c', db.commands.find? id = some c → db'.commands.find? id = some c' →
      Outstanding c → Outstanding c') : Foreign agentId db db'' where
  kept := by
    intro id c hc
    obtain ⟨c', hc', hleft⟩ := h.kept id c hc
    obtain ⟨c'', hc'', hleft'⟩ := h'.kept id c' hc'
    have hwork {routeId : String} (hw : c.work = .routeSync routeId) :
        c'.work = .routeSync routeId := (hleft.same.route routeId).mpr hw
    refine ⟨c'', hc'', hleft.same.trans hleft'.same, fun routeId hw ho => ?_,
      fun routeId hw hp => ?_, fun routeId hw ha hhere ho => ?_⟩
    · exact hleft.before routeId hw (hleft'.before routeId (hwork hw) ho)
    · exact hleft.pending routeId hw (hleft'.pending routeId (hwork hw) hp)
    · exact hleft'.outstanding routeId (hwork hw) (hleft.same.agent.trans ha) hhere
        (hout id c c' hc hc' ho)
  routes := by
    intro routeId r hr
    rw [← hroutes] at hr
    exact h'.routes routeId r hr
  here := by
    intro routeId r hr hhere
    rw [← hroutes]
    exact h'.here routeId r hr hhere
  known := by
    intro routeId r hr
    rw [← hroutes]
    exact h'.known routeId r hr
  quiet := fun hquiet => h'.quiet (h.quiet hquiet)

/-! ### Polling -/

/-- What a route's agent is sent. -/
def payloadOf (r : RouteRow) : RouteSyncPayload :=
  { routeId := r.id, name := r.name, hostname := r.hostname, exposure := r.exposure,
    backends := r.backends, enabled := some r.enabled, revision := some r.revision }

/-- A command as it is handed out: with the row of its route as it is then. -/
inductive Handed (db : Db) (agentId : String) (command : Command) : Prop where
  | route (c : CommandRow) (r : RouteRow) (found : db.commands.find? command.id = some c)
      (agent : c.agentId = agentId) (claimed : c.status = .claimed)
      (work : c.work = .routeSync r.id) (row : db.managedRoutes.find? r.id = some r)
      (here : r.gatewayAgentId = agentId) (payload : command.payload = .routeSync (payloadOf r))
  | other (c : CommandRow) (found : db.commands.find? command.id = some c)
      (work : NoRoute c.work) (payload : ∀ p, command.payload ≠ .routeSync p)

variable {S : Settings}

lemma routePayload_ok {routeId : String} {payload : Payload}
    (h : routePayload db agentId routeId = .ok payload) :
    ∃ r, db.managedRoutes.find? routeId = some r ∧ r.gatewayAgentId = agentId ∧
      payload = .routeSync (payloadOf r) := by
  unfold routePayload at h
  split at h
  · cases h
  · next r hr =>
    obtain ⟨hfound, hagent⟩ := Option.filter_eq_some_iff.mp hr
    exact ⟨r, hfound, by simpa using hagent, (Except.ok.inj h).symm⟩

lemma not_here_of_error {routeId text : String}
    (h : routePayload db agentId routeId = .error text) : ¬Here db agentId routeId := by
  rintro ⟨r, hr, hagent⟩
  unfold routePayload at h
  rw [hr, Option.filter_some, if_pos (by simp [hagent])] at h
  cases h

/-- No other command has such a payload. -/
lemma decorate_other {c : CommandRow} {payload : Payload} (hno : NoRoute c.work)
    (h : decorate S db agentId c = .ok payload) (p : RouteSyncPayload) :
    payload ≠ .routeSync p := by
  rintro rfl
  unfold decorate at h
  split at h
  · cases h
  · unfold deploymentPayload at h
    split at h
    · cases h
    · split at h <;> cases h
  · unfold actionPayload at h
    split at h <;> cases h
  · unfold logsPayload at h
    split at h <;> cases h
  · unfold backupPayload at h
    split at h <;> cases h
  · unfold restorePayload at h
    dsimp only at h
    split at h
    · split at h <;> cases h
    · cases h
  · next routeId hwork => exact hno routeId hwork
  · cases h
  · unfold connectorPayload at h
    split at h
    · cases h
    · split_ifs at h <;> cases h
  · cases h

lemma selected_one (db : Db) (now : Database.Time) (agentId : String) (locked : String → Bool) :
    selected db now agentId 1 locked = [] ∨ ∃ c, selected db now agentId 1 locked = [c] := by
  have hlength : (selected db now agentId 1 locked).length ≤ 1 := List.length_take_le _ _
  match selected db now agentId 1 locked, hlength with
  | [], _ => exact Or.inl rfl
  | [c], _ => exact Or.inr ⟨c, rfl⟩

/-- Of a claimed command either the payload is handed out, or the command is ended; a sync is
ended only where its route runs elsewhere. -/
lemma handOut_one {c : CommandRow} {answer : Option (List Command)}
    (hfound : db.commands.find? c.id = some c) (hagent : c.agentId = agentId)
    (hclaimed : c.status = .claimed) (h : handOut S now agentId db [c] = (db', answer)) :
    Foreign agentId db db' ∧ ∀ commands, answer = some commands →
      commands = [] ∨ ∃ command, commands = [command] ∧ Handed db' agentId command := by
  unfold handOut at h
  cases hpayload : decorate S db agentId c with
  | ok payload =>
    rw [hpayload] at h
    obtain ⟨rfl, rfl⟩ := Prod.mk.inj h
    refine ⟨(Aside.refl db).foreign, fun commands hc => Or.inr ⟨_, (Option.some.inj hc).symm, ?_⟩⟩
    by_cases hsync : ∃ routeId, c.work = .routeSync routeId
    · obtain ⟨routeId, hwork⟩ := hsync
      have hroute : routePayload db agentId routeId = .ok payload := by
        rw [← hpayload, decorate, hwork]
      obtain ⟨r, hr, hhere, rfl⟩ := routePayload_ok hroute
      have hid : r.id = routeId := Table.key_find? hr
      exact .route c r hfound hagent hclaimed (by rw [hid, hwork]) (by rw [hid, hr]) hhere rfl
    · have hno : NoRoute c.work := fun routeId hw => hsync ⟨routeId, hw⟩
      exact .other c hfound hno (decorate_other hno hpayload)
  | error text =>
    rw [hpayload] at h
    dsimp only at h
    cases hcomplete : completeCommand db now agentId c.id .failed (undeliverable text) with
    | none =>
      rw [hcomplete] at h
      obtain ⟨rfl, rfl⟩ := Prod.mk.inj h
      exact ⟨(Aside.refl db).foreign, fun commands hc => by cases hc⟩
    | some ended =>
      obtain ⟨db₂, completion⟩ := ended
      rw [hcomplete] at h
      obtain ⟨rfl, rfl⟩ := Prod.mk.inj h
      refine ⟨?_, fun commands hc => Or.inl (Option.some.inj hc).symm⟩
      rcases completed_of hcomplete with rfl | ⟨current, hcompleted⟩
      · exact (Aside.refl db₂).foreign
      · refine hcompleted.foreign (Or.inr fun routeId hwork => ?_)
        obtain rfl := Option.some.inj (hfound.symm.trans hcompleted.found)
        rw [decorate, hwork] at hpayload
        exact not_here_of_error hpayload

/-- **A poll.** It does no more than the others do, and hands out at most one command, with the
row of its route as it is after the poll. -/
lemma poll_spec {locked : String → Bool} {answer : Option (List Command)}
    (h : pollRoute S db now agentId locked = (db', answer)) :
    Foreign agentId db db' ∧ ∀ commands, answer = some commands →
      commands = [] ∨ ∃ command, commands = [command] ∧ Handed db' agentId command := by
  have hclaimed : Foreign agentId db (claimCommands db now agentId 1 locked).1 :=
    foreign_claimCommands
  have hlist : (claimCommands db now agentId 1 locked).2 =
      (selected db now agentId 1 locked).map (claimRow now) := rfl
  change handOut S now agentId (claimCommands db now agentId 1 locked).1
    (claimCommands db now agentId 1 locked).2 = (db', answer) at h
  rw [hlist] at h
  rcases selected_one db now agentId locked with hnone | ⟨c, hone⟩
  · rw [hnone] at h
    obtain ⟨rfl, rfl⟩ := Prod.mk.inj h
    exact ⟨hclaimed, fun commands hc => Or.inl (Option.some.inj hc).symm⟩
  · have hmem : c ∈ selected db now agentId 1 locked := by
      rw [hone]
      exact List.mem_singleton_self c
    obtain ⟨hrow, heligible⟩ := mem_selected hmem
    have hfound : (claimCommands db now agentId 1 locked).1.commands.find? c.id =
        some (claimRow now c) := by
      rw [find?_claimCommands, Table.find?_of_mem hrow, Option.map_some,
        if_pos ((selected_contains hrow).mpr hmem)]
    rw [hone] at h
    obtain ⟨hforeign, hanswer⟩ :=
      handOut_one (c := claimRow now c) hfound (eligible_status heligible).1 rfl h
    refine ⟨Foreign.after hclaimed hforeign routes_claimCommands fun id d d' hd hd' ho => ?_,
      hanswer⟩
    obtain ⟨e, he, heo⟩ := claim_outstanding now agentId 1 locked hd ho
    rwa [Option.some.inj (hd'.symm.trans he)]

end GatewayControl.RouteHandouts
