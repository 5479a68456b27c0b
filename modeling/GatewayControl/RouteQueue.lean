import GatewayControl.AgentRoutes
import GatewayControl.LockStep

/-!
The queue of route syncs in the control plane's database: what each transaction does to the
routes and to the commands that sync them, as one agent sees it.

Only creating and changing a route queue such a command, only polling claims it, and only the
result its own agent reports ends it, unless its route runs elsewhere by then.
-/

namespace GatewayControl.RouteQueue

open Text AgentRoutes Database Json Placement Store Transactions

/-- The command has not come to an end. -/
def Outstanding (c : CommandRow) : Prop := c.status = .pending ∨ c.status = .claimed

/-- The command as it is later: for the same agent, and a sync of the same route or of none. -/
structure Same (c c' : CommandRow) : Prop where
  agent : c'.agentId = c.agentId
  route : ∀ routeId, c'.work = .routeSync routeId ↔ c.work = .routeSync routeId

lemma Same.refl (c : CommandRow) : Same c c := ⟨rfl, fun _ => Iff.rfl⟩

lemma Same.trans {c c' c'' : CommandRow} (h : Same c c') (h' : Same c' c'') : Same c c'' :=
  ⟨h'.agent.trans h.agent, fun routeId => (h'.route routeId).trans (h.route routeId)⟩

/-! ### Transactions that are not about routes -/

def NoRoute (work : Work) : Prop := ∀ routeId, work ≠ .routeSync routeId

/-- Neither a route changes nor a command that syncs one. -/
structure Aside (db db' : Db) : Prop where
  routes : db'.managedRoutes = db.managedRoutes
  kept : ∀ id c, db.commands.find? id = some c → ∃ c', db'.commands.find? id = some c' ∧
    Same c c' ∧ (NoRoute c.work ∨ c'.status = c.status)
  added : ∀ id c', db'.commands.find? id = some c' →
    (db.commands.find? id).isSome ∨ NoRoute c'.work

section Asides

variable {db db' db'' : Db} {now : Time}

lemma aside_of_eq (hc : db'.commands = db.commands)
    (hr : db'.managedRoutes = db.managedRoutes) : Aside db db' where
  routes := hr
  kept := fun id c h => ⟨c, by rw [hc, h], .refl c, Or.inr rfl⟩
  added := fun id c' h => Or.inl (by rw [← hc, h]; rfl)

lemma Aside.refl (db : Db) : Aside db db := aside_of_eq rfl rfl

lemma Aside.trans (h : Aside db db') (h' : Aside db' db'') : Aside db db'' where
  routes := h'.routes.trans h.routes
  kept := by
    intro id c hc
    obtain ⟨c', hc', hsame, hstatus⟩ := h.kept id c hc
    obtain ⟨c'', hc'', hsame', hstatus'⟩ := h'.kept id c' hc'
    refine ⟨c'', hc'', hsame.trans hsame', ?_⟩
    rcases hstatus with hno | hstatus
    · exact Or.inl hno
    · rcases hstatus' with hno | hstatus'
      · exact Or.inl fun routeId hw => hno routeId ((hsame.route routeId).mpr hw)
      · exact Or.inr (hstatus'.trans hstatus)
  added := by
    intro id c'' hc''
    rcases h'.added id c'' hc'' with hsome | hno
    · obtain ⟨c', hc'⟩ := Option.isSome_iff_exists.mp hsome
      rcases h.added id c' hc' with hsome | hno
      · exact Or.inl hsome
      · obtain ⟨d, hd, hsame, -⟩ := h'.kept id c' hc'
        obtain rfl := Option.some.inj (hc''.symm.trans hd)
        exact Or.inr fun routeId hw => hno routeId ((hsame.route routeId).mp hw)
    · exact Or.inr hno

lemma find?_insertCommand {commandId agentId : String} {work : Work}
    (h : insertCommand db now commandId agentId work = some db') :
    db'.managedRoutes = db.managedRoutes ∧ db.commands.find? commandId = none ∧
      ∀ id, db'.commands.find? id = if id = commandId then
        some { id := commandId, agentId, work, createdAt := now } else db.commands.find? id := by
  unfold insertCommand at h
  obtain ⟨commands, hcommands, h⟩ := Option.bind_eq_some_iff.mp h
  obtain rfl := Option.some.inj h
  exact ⟨rfl, Table.find?_new hcommands, Table.find?_insert hcommands⟩

lemma kept_insertCommand {commandId agentId : String} {work : Work}
    (h : insertCommand db now commandId agentId work = some db') {id : String} {c : CommandRow}
    (hc : db.commands.find? id = some c) : db'.commands.find? id = some c := by
  obtain ⟨-, hnew, hfind⟩ := find?_insertCommand h
  rw [hfind, if_neg, hc]
  rintro rfl
  rw [hnew] at hc
  cases hc

lemma aside_insertCommand {commandId agentId : String} {work : Work}
    (h : insertCommand db now commandId agentId work = some db') (hwork : NoRoute work) :
    Aside db db' where
  routes := (find?_insertCommand h).1
  kept := fun _ c hc => ⟨c, kept_insertCommand h hc, .refl c, Or.inr rfl⟩
  added := by
    intro id c' hc'
    rw [(find?_insertCommand h).2.2] at hc'
    split_ifs at hc' with hid
    · obtain rfl := Option.some.inj hc'
      exact Or.inr hwork
    · exact Or.inl (by rw [hc']; rfl)

lemma aside_updateCommands (p : CommandRow → Bool) (f : CommandRow → CommandRow)
    (hf : ∀ c, (f c).id = c.id)
    (hp : ∀ c, p c → Same c (f c) ∧ (NoRoute c.work ∨ (f c).status = c.status)) :
    Aside db (db.updateCommands p f hf) where
  routes := rfl
  kept := by
    intro id c hc
    refine ⟨if p c then f c else c, ?_, ?_⟩
    · exact (Table.find?_update db.commands p f hf id).trans (by rw [hc, Option.map_some])
    · split_ifs with hpc
      · exact hp c hpc
      · exact ⟨.refl c, Or.inr rfl⟩
  added := by
    intro id c' hc'
    have hc' := (Table.find?_update db.commands p f hf id).symm.trans hc'
    obtain ⟨c, hc, -⟩ := Option.map_eq_some_iff.mp hc'
    exact Or.inl (by rw [hc]; rfl)

lemma noRoute_operation (kind : OperationKind) (id : String) : NoRoute (.operation kind id) := by
  rintro routeId ⟨⟩

lemma aside_insertOperation {op : OperationRow} (h : insertOperation db op = some db') :
    Aside db db' := by
  unfold insertOperation at h
  obtain ⟨operations, -, h⟩ := Option.bind_eq_some_iff.mp h
  obtain rfl := Option.some.inj h
  exact aside_of_eq rfl rfl

variable {operationId commandId : String} {answer : Creation}

/-- A command and its operation, in this order. -/
lemma aside_commandFirst {agentId : String} {kind : OperationKind} {op : OperationRow}
    (h : ((insertCommand db now commandId agentId (.operation kind operationId)).bind fun db =>
      (insertOperation db op).bind fun db => some (db, Creation.created)) = some (db', answer)) :
    Aside db db' := by
  obtain ⟨db₁, hcommand, h⟩ := Option.bind_eq_some_iff.mp h
  obtain ⟨db₂, hoperation, h⟩ := Option.bind_eq_some_iff.mp h
  obtain rfl := (Prod.mk.inj (Option.some.inj h)).1
  exact (aside_insertCommand hcommand (noRoute_operation _ _)).trans
    (aside_insertOperation hoperation)

/-- An operation and its command, in this order, and the link. -/
lemma aside_operationFirst {db₁ db₂ : Db} {agentId : String} {kind : OperationKind}
    {op : OperationRow} (hoperation : insertOperation db op = some db₁)
    (hcommand : insertCommand db₁ now commandId agentId (.operation kind operationId) = some db₂)
    (key : OperationKind × String) : Aside db (linkCommand db₂ key commandId) :=
  ((aside_insertOperation hoperation).trans
    (aside_insertCommand hcommand (noRoute_operation _ _))).trans (aside_of_eq rfl rfl)

lemma aside_createBackup {stackId target : String}
    (h : createBackup db now operationId commandId stackId target = some (db', answer)) :
    Aside db db' := by
  unfold createBackup at h
  split at h
  · exact (Prod.mk.inj (Option.some.inj h)).1 ▸ .refl db
  · split_ifs at h
    iterate 2 exact (Prod.mk.inj (Option.some.inj h)).1 ▸ .refl db
    exact aside_commandFirst h

lemma aside_createRestore {backupId : String}
    (h : createRestore db now operationId commandId backupId = some (db', answer)) :
    Aside db db' := by
  unfold createRestore at h
  split at h
  · split_ifs at h
    iterate 2 exact (Prod.mk.inj (Option.some.inj h)).1 ▸ .refl db
    exact aside_commandFirst h
  · exact (Prod.mk.inj (Option.some.inj h)).1 ▸ .refl db

lemma aside_createRuntimeOperation {agentId action scope projectName : String}
    {serviceName : Option String}
    (h : createRuntimeOperation db now operationId commandId agentId action scope projectName
      serviceName = some (db', answer)) : Aside db db' := by
  unfold createRuntimeOperation at h
  split_ifs at h
  iterate 2 exact (Prod.mk.inj (Option.some.inj h)).1 ▸ .refl db
  dsimp only at h
  split at h
  · exact (Prod.mk.inj (Option.some.inj h)).1 ▸ .refl db
  · next hinserted =>
    obtain rfl := (Prod.mk.inj (Option.some.inj h)).1
    obtain ⟨db₁, hoperation, hcommand⟩ := Option.bind_eq_some_iff.mp hinserted
    exact aside_operationFirst hoperation hcommand _

lemma aside_createRuntimeLogRequest {agentId projectName serviceName : String} {tail : Nat}
    {since : Option String}
    (h : createRuntimeLogRequest db now operationId commandId agentId projectName serviceName
      tail since = some (db', answer)) : Aside db db' := by
  unfold createRuntimeLogRequest at h
  split_ifs at h
  · exact (Prod.mk.inj (Option.some.inj h)).1 ▸ .refl db
  · obtain ⟨db₁, hoperation, h⟩ := Option.bind_eq_some_iff.mp h
    obtain ⟨db₂, hcommand, h⟩ := Option.bind_eq_some_iff.mp h
    obtain rfl := (Prod.mk.inj (Option.some.inj h)).1
    exact aside_operationFirst hoperation hcommand _

lemma aside_createDeploymentRun {deploymentId revisionId action : String}
    (h : createDeploymentRun db now operationId commandId deploymentId revisionId action =
      some (db', answer)) : Aside db db' := by
  unfold createDeploymentRun at h
  split at h
  · exact (Prod.mk.inj (Option.some.inj h)).1 ▸ .refl db
  · split at h
    · exact (Prod.mk.inj (Option.some.inj h)).1 ▸ .refl db
    · split at h
      · exact (Prod.mk.inj (Option.some.inj h)).1 ▸ .refl db
      · obtain ⟨db₁, hcommand, h⟩ := Option.bind_eq_some_iff.mp h
        obtain ⟨db₂, hoperation, h⟩ := Option.bind_eq_some_iff.mp h
        obtain rfl := (Prod.mk.inj (Option.some.inj h)).1
        have hcreated := (aside_insertCommand hcommand (noRoute_operation _ _)).trans
          (aside_insertOperation hoperation)
        exact hcreated.trans (aside_of_eq rfl rfl)

lemma aside_createCommand {agentId type payload : String}
    (h : createCommand db now commandId agentId type payload = some (db', answer)) :
    Aside db db' := by
  unfold createCommand at h
  split_ifs at h
  · exact (Prod.mk.inj (Option.some.inj h)).1 ▸ .refl db
  · obtain ⟨db₁, hcommand, h⟩ := Option.bind_eq_some_iff.mp h
    obtain rfl := (Prod.mk.inj (Option.some.inj h)).1
    exact aside_insertCommand hcommand (by rintro routeId ⟨⟩)

lemma aside_queueConnectorSync {agentId connectorId : String} {revision : Nat} {stopping : Bool}
    (h : queueConnectorSync db now commandId agentId connectorId revision stopping = some db') :
    Aside db db' := by
  unfold queueConnectorSync at h
  dsimp only at h
  generalize hdb₁ : connectorStatus db connectorId (if stopping then .stopping else .pending) =
    db₁ at h
  have hstatus : Aside db db₁ := by
    rw [← hdb₁]
    exact aside_of_eq rfl rfl
  split_ifs at h with hpending
  · obtain rfl := Option.some.inj h
    refine hstatus.trans (aside_updateCommands _ _ _ fun c hc => ?_)
    obtain ⟨-, -, r, hw⟩ := isPendingSync_spec hc
    have hno : NoRoute c.work := by
      rw [hw]
      rintro routeId ⟨⟩
    exact ⟨⟨rfl, fun routeId => iff_of_false (by rintro ⟨⟩) (hno routeId)⟩, Or.inl hno⟩
  · exact hstatus.trans (aside_insertCommand h (by rintro routeId ⟨⟩))

lemma aside_createConnector {connectorId : String} {values : ConnectorValues}
    {answer : Option ConnectorRow}
    (h : createConnector db now connectorId commandId values = some (db', answer)) :
    Aside db db' := by
  unfold createConnector at h
  split_ifs at h with hready henabled
  · exact (Prod.mk.inj (Option.some.inj h)).1 ▸ .refl db
  all_goals
    obtain ⟨db₁, hinsert, h⟩ := Option.bind_eq_some_iff.mp h
    obtain ⟨connectors, -, hinsert⟩ := Option.bind_eq_some_iff.mp hinsert
    obtain rfl := Option.some.inj hinsert
    have hinserted : Aside db { db with connectors } := aside_of_eq rfl rfl
  · obtain ⟨db₂, hqueue, h⟩ := Option.bind_eq_some_iff.mp h
    obtain rfl := (Prod.mk.inj (Option.some.inj h)).1
    exact hinserted.trans (aside_queueConnectorSync hqueue)
  · obtain rfl := (Prod.mk.inj (Option.some.inj h)).1
    exact hinserted

lemma aside_queueRemoval {values : ConnectorChange} {current : ConnectorRow}
    (h : queueRemoval db now commandId values current = some db') : Aside db db' := by
  unfold queueRemoval at h
  split_ifs at h
  · exact aside_insertCommand h (by rintro routeId ⟨⟩)
  · exact Option.some.inj h ▸ .refl db

lemma aside_updateConnector {removeCommandId syncCommandId id : String}
    {values : ConnectorChange} {answer : Option ConnectorRow}
    (h : updateConnector db now removeCommandId syncCommandId id values = some (db', answer)) :
    Aside db db' := by
  unfold updateConnector at h
  split at h
  · exact (Prod.mk.inj (Option.some.inj h)).1 ▸ .refl db
  · split_ifs at h
    iterate 3 exact (Prod.mk.inj (Option.some.inj h)).1 ▸ .refl db
    obtain ⟨db₁, hremove, h⟩ := Option.bind_eq_some_iff.mp h
    obtain ⟨db₂, hqueue, h⟩ := Option.bind_eq_some_iff.mp h
    obtain rfl := (Prod.mk.inj (Option.some.inj h)).1
    refine (aside_queueRemoval hremove).trans (Aside.trans ?_ (aside_queueConnectorSync hqueue))
    exact aside_of_eq rfl rfl

lemma aside_queueStackSync {stackId : String}
    (h : queueStackSync db now commandId stackId = some db') : Aside db db' := by
  unfold queueStackSync at h
  split at h
  · exact Option.some.inj h ▸ .refl db
  · unfold queueInternalSync at h
    split_ifs at h
    · exact Option.some.inj h ▸ .refl db
    · exact aside_insertCommand h (by rintro routeId ⟨⟩)

end Asides

/-! ### Handing commands out, the sweeps, and the ends of commands -/

section Ends

variable {db db' : Db} {now : Time} {agentId id : String} {ending : Ending} {result : Json}

lemma routes_startWork (c : CommandRow) :
    (startWork now agentId db c).managedRoutes = db.managedRoutes := by
  unfold startWork
  cases c.work with
  | operation kind id => cases kind <;> rfl
  | _ => rfl

lemma routes_claimCommands {limit : Nat} {locked : String → Bool} :
    (claimCommands db now agentId limit locked).1.managedRoutes = db.managedRoutes := by
  have hfold (l : List CommandRow) : ∀ db : Db,
      (l.foldl (startWork now agentId) db).managedRoutes = db.managedRoutes := by
    induction l with
    | nil => exact fun _ => rfl
    | cons c l ih => exact fun db => (ih _).trans (routes_startWork c)
  exact hfold _ _

lemma routes_failWork (c : CommandRow) :
    (failWork now db c).managedRoutes = db.managedRoutes := by
  unfold failWork
  cases c.work with
  | operation kind id =>
    cases kind with
    | logs => rfl
    | _ =>
      dsimp only
      split <;> rfl
  | _ => rfl

lemma routes_failStaleCommands {staleBefore : Time} :
    (failStaleCommands db now staleBefore).managedRoutes = db.managedRoutes := by
  have hfold (l : List CommandRow) : ∀ db : Db,
      (l.foldl (failWork now) db).managedRoutes = db.managedRoutes := by
    induction l with
    | nil => exact fun _ => rfl
    | cons c l ih => exact fun db => (ih _).trans (routes_failWork c)
  exact hfold _ _

/-- A stale command syncs no route. -/
lemma aside_failStaleCommands {staleBefore : Time} :
    Aside db (failStaleCommands db now staleBefore) := by
  have hfailed : Aside db (db.updateCommands (isStale staleBefore now) (failRow now)
      fun _ => rfl) := by
    refine aside_updateCommands _ _ _ fun c hc => ⟨⟨rfl, fun _ => Iff.rfl⟩, Or.inl ?_⟩
    intro routeId hw
    simp [isStale, hw] at hc
  exact hfailed.trans (aside_of_eq (commands_foldl_failWork now _ _) routes_failStaleCommands)

lemma aside_purgeRuntimeLogResults {completedBefore : Time} :
    Aside db (purgeRuntimeLogResults db completedBefore) := by
  have hexpired : Aside db (db.updateOperations (expired completedBefore)
      (fun op => { op with result := none }) fun _ => rfl) := aside_of_eq rfl rfl
  refine hexpired.trans ?_
  exact aside_updateCommands _ _ _ fun c _ => ⟨⟨rfl, fun _ => Iff.rfl⟩, Or.inr rfl⟩

lemma routes_finishBackup (h : finishBackup db now agentId id ending result = some db') :
    db'.managedRoutes = db.managedRoutes := by
  obtain ⟨kept, -, h⟩ := Option.bind_eq_some_iff.mp h
  dsimp only at h
  split at h <;> exact Option.some.inj h ▸ rfl

lemma routes_finishRestore (h : finishRestore db now agentId id ending result = some db') :
    db'.managedRoutes = db.managedRoutes := by
  obtain ⟨kept, -, h⟩ := Option.bind_eq_some_iff.mp h
  dsimp only at h
  split at h <;> exact Option.some.inj h ▸ rfl

lemma routes_finishAction (h : finishAction db now agentId id ending result = some db') :
    db'.managedRoutes = db.managedRoutes := by
  obtain ⟨safe, -, h⟩ := Option.bind_eq_some_iff.mp h
  obtain ⟨kept, -, h⟩ := Option.bind_eq_some_iff.mp h
  obtain ⟨error, -, h⟩ := Option.bind_eq_some_iff.mp h
  dsimp only at h
  split at h <;> exact Option.some.inj h ▸ rfl

lemma routes_finishLogs (h : finishLogs db now agentId id ending result = some db') :
    db'.managedRoutes = db.managedRoutes := by
  obtain ⟨kept, -, h⟩ := Option.bind_eq_some_iff.mp h
  obtain ⟨error, -, h⟩ := Option.bind_eq_some_iff.mp h
  exact Option.some.inj h ▸ rfl

lemma routes_finishDeployment (h : finishDeployment db now agentId id ending result = some db') :
    db'.managedRoutes = db.managedRoutes := by
  obtain ⟨safe, -, h⟩ := Option.bind_eq_some_iff.mp h
  obtain ⟨kept, -, h⟩ := Option.bind_eq_some_iff.mp h
  obtain ⟨error, -, h⟩ := Option.bind_eq_some_iff.mp h
  dsimp only at h
  split at h <;> exact Option.some.inj h ▸ rfl

lemma routes_syncFailed (c : CommandRow) :
    (syncFailed db agentId c ending).managedRoutes = db.managedRoutes := by
  cases ending <;> rfl

/-- What the end of a command does to the routes. -/
def finishedRoutes (db : Db) (agentId : String) (work : Work) (ending : Ending) :
    Table RouteRow String RouteRow.id :=
  match work with
  | .routeSync routeId => (finishRoute db agentId routeId ending).managedRoutes
  | _ => db.managedRoutes

lemma routes_finishWork {c : CommandRow}
    (h : finishWork db now agentId c ending result = some db') :
    db'.managedRoutes = finishedRoutes db agentId c.work ending := by
  unfold finishWork at h
  split at h
  next hwork =>
    obtain ⟨db₁, hfinish, h⟩ := Option.bind_eq_some_iff.mp h
    obtain rfl := Option.some.inj h
    obtain ⟨lastError, -, hfinish⟩ := Option.bind_eq_some_iff.mp hfinish
    obtain rfl := Option.some.inj hfinish
    rw [hwork, routes_syncFailed]
    rfl
  next hwork =>
    obtain rfl := Option.some.inj h
    rw [hwork, routes_syncFailed]
    unfold finishStack
    split <;> rfl
  next hwork =>
    obtain rfl := Option.some.inj h
    rw [hwork, routes_syncFailed]
    rfl
  next hwork =>
    rw [hwork]
    exact routes_finishBackup h
  next hwork =>
    rw [hwork]
    exact routes_finishRestore h
  next hwork =>
    rw [hwork]
    exact routes_finishAction h
  next hwork =>
    rw [hwork]
    exact routes_finishLogs h
  next hwork =>
    rw [hwork]
    exact routes_finishDeployment h
  next hwork =>
    rw [hwork]
    exact Option.some.inj h ▸ rfl
  next hwork =>
    rw [hwork]
    exact Option.some.inj h ▸ rfl

/-- A sync of the route waits for some agent. -/
def Awaited (db : Db) (routeId : String) : Prop :=
  ∃ id c, db.commands.find? id = some c ∧ c.work = .routeSync routeId ∧ c.status = .pending

lemma hasPending_iff {routeId : String} :
    hasPending db (.routeSync routeId) ↔ Awaited db routeId := by
  unfold hasPending
  rw [List.any_eq_true]
  constructor
  · rintro ⟨c, hc, hpending⟩
    rw [Bool.and_eq_true, decide_eq_true_eq, beq_iff_eq] at hpending
    exact ⟨c.id, c, Table.find?_of_mem hc, hpending⟩
  · rintro ⟨id, c, hc, hwork, hstatus⟩
    exact ⟨c, Table.mem_of_find? hc, by simp [hwork, hstatus]⟩

/-- The row of a route after a command of the agent has ended. -/
def endedRoute (agentId : String) (work : Work) (ending : Ending) (r : RouteRow) : RouteRow :=
  if work = .routeSync r.id ∧ r.gatewayAgentId = agentId then { r with status := rolledOut ending }
  else r

/-- What a completion writes, when it writes. -/
structure Completed (db db' : Db) (agentId commandId : String) (ending : Ending)
    (current : CommandRow) : Prop where
  found : db.commands.find? commandId = some current
  agent : current.agentId = agentId
  claimed : current.status = .claimed
  ended : ∃ now kept, db'.commands.find? commandId = some (completeRow now ending kept current)
  others : ∀ id, id ≠ commandId → db'.commands.find? id = db.commands.find? id
  routes : ∀ routeId, db'.managedRoutes.find? routeId = (db.managedRoutes.find? routeId).map
    fun r => if hasPending db' (.routeSync r.id) then r
      else endedRoute agentId current.work ending r

lemma endedRoute_of_ne {work : Work} {r : RouteRow} (h : work ≠ .routeSync r.id) :
    endedRoute agentId work ending r = r := if_neg fun hr => h hr.1

lemma find?_finishedRoutes {between : Db} {work : Work} (hroutes : between.managedRoutes =
      db.managedRoutes) (hcommands : ∀ id, between.commands.find? id = db'.commands.find? id)
    (routeId : String) : (finishedRoutes between agentId work ending).find? routeId =
      (db.managedRoutes.find? routeId).map fun r =>
        if hasPending db' (.routeSync r.id) then r else endedRoute agentId work ending r := by
  have hpending (id : String) :
      hasPending between (.routeSync id) = hasPending db' (.routeSync id) := by
    rw [Bool.eq_iff_iff, hasPending_iff, hasPending_iff]
    unfold Awaited
    simp only [hcommands]
  cases work with
  | routeSync synced =>
    change (finishRoute between agentId synced ending).managedRoutes.find? routeId = _
    have hrow (r : RouteRow) (hr : r.id ≠ synced) :
        endedRoute agentId (.routeSync synced) ending r = r :=
      endedRoute_of_ne fun h => hr (Work.routeSync.inj h).symm
    unfold finishRoute
    split_ifs with h
    · rw [hroutes]
      cases db.managedRoutes.find? routeId with
      | none => rfl
      | some r =>
        by_cases hr : r.id = synced
        · rw [Option.map_some, if_pos (by rw [← hpending, hr, h])]
        · rw [Option.map_some, hrow r hr, ite_self]
    · have hupdate := Table.find?_update between.managedRoutes
        (fun r => r.id = synced && r.gatewayAgentId = agentId)
        (fun r => { r with status := rolledOut ending }) (fun _ => rfl) routeId
      refine hupdate.trans ?_
      rw [hroutes]
      cases db.managedRoutes.find? routeId with
      | none => rfl
      | some r =>
        by_cases hr : r.id = synced
        · have hnone : hasPending db' (.routeSync r.id) = false := by
            rw [← hpending, hr, Bool.eq_false_iff]
            exact h
          simp [endedRoute, hr, hr ▸ hnone]
        · rw [Option.map_some, Option.map_some, hrow r hr, ite_self]
          simp [hr]
  | _ =>
    refine (congrArg (·.find? routeId) hroutes).trans ?_
    cases db.managedRoutes.find? routeId with
    | none => rfl
    | some r => rw [Option.map_some, endedRoute_of_ne (by rintro ⟨⟩), ite_self]

lemma completed_finish {commandId : String} {current : CommandRow} {kept : Json}
    (hfound : db.commands.find? commandId = some current) (hagent : current.agentId = agentId)
    (hclaimed : current.status = .claimed)
    (hfinish : finishWork (db.updateCommands (fun c => c.id = commandId && c.agentId = agentId)
      (completeRow now ending kept) fun _ => rfl) now agentId current ending result = some db') :
    Completed db db' agentId commandId ending current := by
  have hcommands := (LockStep.moves_finishWork hfinish).commands
  have hupdate := Table.find?_update db.commands
    (fun c => c.id = commandId && c.agentId = agentId) (completeRow now ending kept) fun _ => rfl
  have hid := Table.key_find? hfound
  refine ⟨hfound, hagent, hclaimed, ⟨now, kept, ?_⟩, fun id hne => ?_, ?_⟩
  · refine (hcommands commandId).trans ((hupdate commandId).trans ?_)
    rw [hfound, Option.map_some, if_pos (by simp [hid, hagent])]
  · refine (hcommands id).trans ((hupdate id).trans ?_)
    cases hother : db.commands.find? id with
    | none => rfl
    | some c =>
      have hc := Table.key_find? hother
      rw [Option.map_some, if_neg (by simp [hc, hne])]
  · rw [routes_finishWork hfinish]
    exact find?_finishedRoutes rfl fun id => (hcommands id).symm

lemma completed_of {commandId : String} {answer : Completion}
    (h : completeCommand db now agentId commandId ending result = some (db', answer)) :
    db' = db ∨ ∃ current, Completed db db' agentId commandId ending current := by
  rcases LockStep.completeCommand_cases h with
    rfl | ⟨current, kept, hfound, hagent, hclaimed, hfinish⟩
  · exact Or.inl rfl
  · exact Or.inr ⟨current, completed_finish hfound hagent hclaimed hfinish⟩

end Ends

/-! ### What the others do -/

/-- A row of a route and a later one: what the row says changes only with its revision. -/
structure Newer (r r' : RouteRow) : Prop where
  revision : r.revision ≤ r'.revision
  content : r'.revision = r.revision → r'.hostname = r.hostname ∧ r'.exposure = r.exposure ∧
    r'.backends = r.backends ∧ r'.enabled = r.enabled

lemma Newer.refl (r : RouteRow) : Newer r r := ⟨Nat.le_refl _, fun _ => ⟨rfl, rfl, rfl, rfl⟩⟩

lemma Newer.trans {r r' r'' : RouteRow} (h : Newer r r') (h' : Newer r' r'') : Newer r r'' where
  revision := h.revision.trans h'.revision
  content := by
    intro hr
    have hle := h.revision
    have hle' := h'.revision
    obtain ⟨a, b, c, d⟩ := h'.content (by omega)
    obtain ⟨a', b', c', d'⟩ := h.content (by omega)
    exact ⟨a.trans a', b.trans b', c.trans c', d.trans d'⟩

/-- A sync of the route waits for the agent. -/
def Waiting (db : Db) (agentId routeId : String) : Prop :=
  ∃ id c, db.commands.find? id = some c ∧ c.agentId = agentId ∧ c.work = .routeSync routeId ∧
    c.status = .pending

/-- The route runs on the agent. -/
def Here (db : Db) (agentId routeId : String) : Prop :=
  ∃ r, db.managedRoutes.find? routeId = some r ∧ r.gatewayAgentId = agentId

/-- No sync waits whose route's row tells how one ended. -/
def Quiet (db : Db) : Prop :=
  ∀ routeId r, db.managedRoutes.find? routeId = some r → r.status ≠ .pending →
    ¬Awaited db routeId

/-- What a row of a command may become while its agent does nothing. -/
structure Left (agentId : String) (db' : Db) (c c' : CommandRow) : Prop where
  same : Same c c'
  before : ∀ routeId, c.work = .routeSync routeId → Outstanding c' → Outstanding c
  pending : ∀ routeId, c.work = .routeSync routeId → c'.status = .pending → c.status = .pending
  outstanding : ∀ routeId, c.work = .routeSync routeId → c.agentId = agentId →
    Here db' agentId routeId → Outstanding c → Outstanding c'

/-- What a transaction of the others may do to an agent's routes and to its queue. -/
structure Foreign (agentId : String) (db db' : Db) : Prop where
  kept : ∀ id c, db.commands.find? id = some c →
    ∃ c', db'.commands.find? id = some c' ∧ Left agentId db' c c'
  routes : ∀ routeId r, db.managedRoutes.find? routeId = some r →
    ∃ r', db'.managedRoutes.find? routeId = some r' ∧ Newer r r'
  here : ∀ routeId r', db'.managedRoutes.find? routeId = some r' → r'.gatewayAgentId = agentId →
    db.managedRoutes.find? routeId = some r' ∨ Waiting db' agentId routeId
  known : ∀ routeId r', db'.managedRoutes.find? routeId = some r' →
    (db.managedRoutes.find? routeId).isSome ∨ toLower routeId = routeId
  quiet : Quiet db → Quiet db'

section

variable {db db' db'' : Db} {now : Time} {agentId : String}

lemma Left.refl (c : CommandRow) : Left agentId db' c c :=
  ⟨.refl c, fun _ _ h => h, fun _ _ h => h, fun _ _ _ _ h => h⟩

lemma Aside.foreign (h : Aside db db') : Foreign agentId db db' where
  kept := by
    intro id c hc
    obtain ⟨c', hc', hsame, hstatus⟩ := h.kept id c hc
    refine ⟨c', hc', ?_⟩
    rcases hstatus with hno | hstatus
    · exact ⟨hsame, fun routeId hw => absurd hw (hno routeId),
        fun routeId hw => absurd hw (hno routeId), fun routeId hw => absurd hw (hno routeId)⟩
    · have hiff : Outstanding c' ↔ Outstanding c := by
        unfold Outstanding
        rw [hstatus]
      exact ⟨hsame, fun _ _ => hiff.mp, fun _ _ h => hstatus.symm.trans h,
        fun _ _ _ _ => hiff.mpr⟩
  routes := fun routeId r hr => ⟨r, by rw [h.routes, hr], .refl r⟩
  here := fun routeId r' hr' _ => Or.inl (by rw [← h.routes, hr'])
  known := fun routeId r' hr' => Or.inl (by rw [← h.routes, hr']; rfl)
  quiet := by
    rintro hquiet routeId r hr hstatus ⟨id, c', hc', hwork, hpending⟩
    rw [h.routes] at hr
    rcases h.added id c' hc' with hsome | hno
    · obtain ⟨c, hc⟩ := Option.isSome_iff_exists.mp hsome
      obtain ⟨d, hd, hsame, hkept⟩ := h.kept id c hc
      obtain rfl := Option.some.inj (hc'.symm.trans hd)
      have hw := (hsame.route routeId).mp hwork
      rcases hkept with hno | hkept
      · exact hno routeId hw
      · exact hquiet routeId r hr hstatus ⟨id, c, hc, hw, hkept.symm.trans hpending⟩
    · exact hno routeId hwork

lemma claimed_row (now : Time) (ofAgent : String) (limit : Nat) (locked : String → Bool)
    {id : String} {c : CommandRow} (hc : db.commands.find? id = some c) :
    ∃ c', (claimCommands db now ofAgent limit locked).1.commands.find? id = some c' ∧
      (c' = c ∨ Outstanding c ∧ c' = claimRow now c) := by
  have hfind := find?_claimCommands db now ofAgent limit locked id
  rw [hc, Option.map_some] at hfind
  refine ⟨_, hfind, ?_⟩
  split_ifs with hselected
  · have hmem := (selected_contains (Table.mem_of_find? hc)).mp hselected
    exact Or.inr ⟨(eligible_status (mem_selected hmem).2).2, rfl⟩
  · exact Or.inl rfl

/-- Handing out leaves every command outstanding that was. -/
lemma claim_outstanding (now : Time) (ofAgent : String) (limit : Nat) (locked : String → Bool)
    {id : String} {c : CommandRow} (hc : db.commands.find? id = some c) (ho : Outstanding c) :
    ∃ c', (claimCommands db now ofAgent limit locked).1.commands.find? id = some c' ∧
      Outstanding c' := by
  obtain ⟨c', hc', rfl | ⟨-, rfl⟩⟩ := claimed_row now ofAgent limit locked hc
  · exact ⟨c', hc', ho⟩
  · exact ⟨_, hc', Or.inr rfl⟩

lemma awaited_claimCommands {limit : Nat} {locked : String → Bool} {ofAgent routeId : String}
    (h : Awaited (claimCommands db now ofAgent limit locked).1 routeId) : Awaited db routeId := by
  obtain ⟨id, c', hc', hwork, hpending⟩ := h
  rw [find?_claimCommands] at hc'
  obtain ⟨c, hc, rfl⟩ := Option.map_eq_some_iff.mp hc'
  split_ifs at hwork hpending with hselected
  · cases hpending
  · exact ⟨id, c, hc, hwork, hpending⟩

lemma foreign_claimCommands {limit : Nat} {locked : String → Bool} {ofAgent : String} :
    Foreign agentId db (claimCommands db now ofAgent limit locked).1 where
  kept := by
    intro id c hc
    obtain ⟨c', hc', rfl | ⟨ho, rfl⟩⟩ := claimed_row now ofAgent limit locked hc
    · exact ⟨c', hc', .refl c'⟩
    · exact ⟨_, hc', ⟨rfl, fun _ => Iff.rfl⟩, fun _ _ _ => ho, by rintro _ _ ⟨⟩,
        fun _ _ _ _ _ => Or.inr rfl⟩
  routes := fun routeId r hr => ⟨r, by rw [routes_claimCommands, hr], .refl r⟩
  here := fun routeId r' hr' _ => Or.inl (by rwa [routes_claimCommands] at hr')
  known := fun routeId r' hr' => Or.inl (by rw [routes_claimCommands] at hr'; rw [hr']; rfl)
  quiet := by
    intro hquiet routeId r hr hstatus hawaited
    rw [routes_claimCommands] at hr
    exact hquiet routeId r hr hstatus (awaited_claimCommands hawaited)

lemma endedRoute_newer {work : Work} {ending : Ending} (r : RouteRow) :
    Newer r (endedRoute agentId work ending r) := by
  unfold endedRoute
  split_ifs
  · exact ⟨Nat.le_refl _, fun _ => ⟨rfl, rfl, rfl, rfl⟩⟩
  · exact .refl r

namespace Completed

variable {commandId ofAgent : String} {ending : Ending} {current : CommandRow}

lemma rows (h : Completed db db' ofAgent commandId ending current) {id : String} {c : CommandRow}
    (hc : db.commands.find? id = some c) : ∃ c', db'.commands.find? id = some c' ∧
      (c' = c ∨ c = current ∧ ∃ now kept, c' = completeRow now ending kept c) := by
  by_cases hid : id = commandId
  · subst hid
    obtain rfl := Option.some.inj (h.found.symm.trans hc)
    obtain ⟨now, kept, hended⟩ := h.ended
    exact ⟨_, hended, Or.inr ⟨rfl, now, kept, rfl⟩⟩
  · exact ⟨c, (h.others id hid).trans hc, Or.inl rfl⟩

lemma ended_status (now : Time) (ending : Ending) (kept : Json) (c : CommandRow) :
    ¬Outstanding (completeRow now ending kept c) := by
  cases ending <;> rintro (h | h) <;> cases h

lemma awaited (h : Completed db db' ofAgent commandId ending current) {routeId : String}
    (ha : Awaited db' routeId) : Awaited db routeId := by
  obtain ⟨id, c', hc', hwork, hpending⟩ := ha
  by_cases hid : id = commandId
  · subst hid
    obtain ⟨now, kept, hended⟩ := h.ended
    obtain rfl := Option.some.inj (hended.symm.trans hc')
    exact absurd (Or.inl hpending) (ended_status now ending kept current)
  · exact ⟨id, c', (h.others id hid).symm.trans hc', hwork, hpending⟩

lemma newer (h : Completed db db' ofAgent commandId ending current) {routeId : String}
    {r : RouteRow} (hr : db.managedRoutes.find? routeId = some r) :
    ∃ r', db'.managedRoutes.find? routeId = some r' ∧ Newer r r' := by
  have hfind := h.routes routeId
  rw [hr, Option.map_some] at hfind
  refine ⟨_, hfind, ?_⟩
  split_ifs
  · exact .refl r
  · exact endedRoute_newer r

/-- The row of a route is as it was, or tells how the command ended and no other waits. -/
lemma route (h : Completed db db' ofAgent commandId ending current) {routeId : String}
    {r' : RouteRow} (hr' : db'.managedRoutes.find? routeId = some r') :
    ∃ r, db.managedRoutes.find? routeId = some r ∧ (r' = r ∨
      r' = { r with status := rolledOut ending } ∧ r.gatewayAgentId = ofAgent ∧
        current.work = .routeSync routeId ∧ ¬Awaited db' routeId) := by
  rw [h.routes] at hr'
  obtain ⟨r, hr, rfl⟩ := Option.map_eq_some_iff.mp hr'
  have hid : r.id = routeId := Table.key_find? hr
  refine ⟨r, hr, ?_⟩
  split_ifs with hpending
  · exact Or.inl rfl
  · unfold endedRoute
    split_ifs with hours
    · rw [hid] at hpending hours
      exact Or.inr ⟨rfl, hours.2, hours.1, fun ha => hpending (hasPending_iff.mpr ha)⟩
    · exact Or.inl rfl

lemma quiet (h : Completed db db' ofAgent commandId ending current) (hquiet : Quiet db) :
    Quiet db' := by
  intro routeId r' hr' hstatus ha
  obtain ⟨r, hr, rfl | ⟨-, -, -, hnone⟩⟩ := h.route hr'
  · exact hquiet routeId r' hr hstatus (h.awaited ha)
  · exact hnone ha

/-- A completion is foreign to an agent whose command it does not end, and to one whose route
the command is not about. -/
lemma foreign (h : Completed db db' ofAgent commandId ending current)
    (hother : ofAgent ≠ agentId ∨ ∀ routeId, current.work = .routeSync routeId →
      ¬Here db agentId routeId) : Foreign agentId db db' where
  kept := by
    intro id c hc
    obtain ⟨c', hc', rfl | ⟨rfl, now, kept, rfl⟩⟩ := h.rows hc
    · exact ⟨c', hc', .refl c'⟩
    · have hended := ended_status now ending kept c
      refine ⟨_, hc', ⟨rfl, fun _ => Iff.rfl⟩, fun _ _ ho => absurd ho hended,
        fun _ _ hp => absurd (Or.inl hp) hended, fun routeId hw ha ⟨r', hr', hhere⟩ _ => ?_⟩
      obtain ⟨r, hr, rfl | ⟨rfl, -⟩⟩ := h.route hr'
      all_goals
        rcases hother with hne | hnot
        · exact absurd (h.agent.symm.trans ha) hne
        · exact absurd ⟨_, hr, hhere⟩ (hnot routeId hw)
  routes := fun _ _ hr => h.newer hr
  here := by
    intro routeId r' hr' hhere
    obtain ⟨r, hr, rfl | ⟨rfl, hagent, hwork, -⟩⟩ := h.route hr'
    · exact Or.inl hr
    · rcases hother with hne | hnot
      · exact absurd (hagent.symm.trans hhere) hne
      · exact absurd ⟨r, hr, hhere⟩ (hnot routeId hwork)
  known := by
    intro routeId r' hr'
    obtain ⟨r, hr, -⟩ := h.route hr'
    exact Or.inl (by rw [hr]; rfl)
  quiet := h.quiet

end Completed

/-- Where a result is taken, now or before, its command has come to an end. -/
lemma ended_of_accepted {commandId : String} {ending : Ending} {result : Json}
    {answer : Completion}
    (h : completeCommand db now agentId commandId ending result = some (db', answer))
    (ha : answer = .updated ∨ answer = .idempotent) :
    ∃ c, db'.commands.find? commandId = some c ∧ ¬Outstanding c := by
  unfold completeCommand at h
  cases hfound : (db.commands.find? commandId).filter (·.agentId = agentId) with
  | none =>
    rw [hfound] at h
    obtain ⟨-, rfl⟩ := Prod.mk.inj (Option.some.inj h)
    rcases ha with ha | ha <;> cases ha
  | some current =>
    rw [hfound] at h
    rw [Option.filter_eq_some_iff, decide_eq_true_eq] at hfound
    dsimp only at h
    split_ifs at h with hcast hsame hclaimed
    · obtain ⟨rfl, -⟩ := Prod.mk.inj (Option.some.inj h)
      refine ⟨current, hfound.1, ?_⟩
      unfold Outstanding
      rw [hsame.1]
      cases ending <;> rintro (h | h) <;> cases h
    · obtain ⟨-, rfl⟩ := Prod.mk.inj (Option.some.inj h)
      rcases ha with ha | ha <;> cases ha
    · obtain ⟨kept, -, h⟩ := Option.bind_eq_some_iff.mp h
      obtain ⟨db₁, hfinish, h⟩ := Option.bind_eq_some_iff.mp h
      obtain rfl := (Prod.mk.inj (Option.some.inj h)).1
      obtain ⟨now, kept, hended⟩ :=
        (completed_finish hfound.1 hfound.2 (not_not.mp hclaimed) hfinish).ended
      exact ⟨_, hended, Completed.ended_status now ending kept current⟩

end

end GatewayControl.RouteQueue
