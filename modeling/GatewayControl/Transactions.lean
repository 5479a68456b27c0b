import GatewayControl.AgentRoutes

/-!
The transactions that touch commands, as one type, so that a run can be any sequence of
them; and the ones that only queue commands about no operation.
-/

namespace GatewayControl.Transactions

open Database Placement Store

/-- One transaction with its arguments. The last stands for every other one. -/
inductive Transaction where
  | createBackup (now : Time) (operationId commandId stackId target : String)
  | createRestore (now : Time) (operationId commandId backupId : String)
  | createRuntimeOperation (now : Time)
      (operationId commandId agentId action scope projectName : String)
      (serviceName : Option String)
  | createRuntimeLogRequest (now : Time)
      (operationId commandId agentId projectName serviceName : String) (tail : Nat)
      (since : Option String)
  | createDeploymentRun (now : Time)
      (operationId commandId deploymentId revisionId action : String)
  | createCommand (now : Time) (commandId agentId type payload : String)
  | createConnector (now : Time) (connectorId commandId : String) (values : ConnectorValues)
  | updateConnector (now : Time) (removeCommandId syncCommandId id : String)
      (values : ConnectorChange)
  | createRoute (now : Time) (routeId commandId : String) (values : RouteValues)
  | updateRoute (now : Time) (commandId id : String) (values : RouteChange)
  | queueStackSync (now : Time) (commandId stackId : String)
  | claimCommands (now : Time) (agentId : String) (limit : Nat) (locked : String → Bool)
  | completeCommand (now : Time) (agentId commandId : String) (ending : Ending) (result : Json)
  | failStaleCommands (now staleBefore : Time)
  | purgeRuntimeLogResults (completedBefore : Time)
  | other

namespace Transaction

/-- What a committed transaction does. Any other touches neither commands nor operations,
nor where connectors and routes run, and removes no stack. -/
def run : Transaction → Db → Db → Prop
  | createBackup now operationId commandId stackId target, db, db' => ∃ answer,
      Store.createBackup db now operationId commandId stackId target = some (db', answer)
  | createRestore now operationId commandId backupId, db, db' => ∃ answer,
      Store.createRestore db now operationId commandId backupId = some (db', answer)
  | createRuntimeOperation now operationId commandId agentId action scope projectName
      serviceName, db, db' => ∃ answer,
      Store.createRuntimeOperation db now operationId commandId agentId action scope
        projectName serviceName = some (db', answer)
  | createRuntimeLogRequest now operationId commandId agentId projectName serviceName tail
      since, db, db' => ∃ answer,
      Store.createRuntimeLogRequest db now operationId commandId agentId projectName
        serviceName tail since = some (db', answer)
  | createDeploymentRun now operationId commandId deploymentId revisionId action, db, db' =>
      ∃ answer, Store.createDeploymentRun db now operationId commandId deploymentId revisionId
        action = some (db', answer)
  | createCommand now commandId agentId type payload, db, db' => ∃ answer,
      Store.createCommand db now commandId agentId type payload = some (db', answer)
  | createConnector now connectorId commandId values, db, db' => ∃ answer,
      Placement.createConnector db now connectorId commandId values = some (db', answer)
  | updateConnector now removeCommandId syncCommandId id values, db, db' => ∃ answer,
      Placement.updateConnector db now removeCommandId syncCommandId id values =
        some (db', answer)
  | createRoute now routeId commandId values, db, db' => ∃ answer,
      Placement.createRoute db now routeId commandId values = some (db', answer)
  | updateRoute now commandId id values, db, db' => ∃ answer,
      Placement.updateRoute db now commandId id values = some (db', answer)
  | queueStackSync now commandId stackId, db, db' =>
      Placement.queueStackSync db now commandId stackId = some db'
  | claimCommands now agentId limit locked, db, db' =>
      db' = (Store.claimCommands db now agentId limit locked).1
  | completeCommand now agentId commandId ending result, db, db' => ∃ answer,
      Store.completeCommand db now agentId commandId ending result = some (db', answer)
  | failStaleCommands now staleBefore, db, db' =>
      db' = Store.failStaleCommands db now staleBefore
  | purgeRuntimeLogResults completedBefore, db, db' =>
      db' = Store.purgeRuntimeLogResults db completedBefore
  | other, db, db' => db'.commands = db.commands ∧ db'.operations = db.operations ∧
      db'.connectors = db.connectors ∧ db'.managedRoutes = db.managedRoutes ∧
      ∀ id, (db.managedStacks.find? id).isSome → (db'.managedStacks.find? id).isSome

end Transaction

/-! ### Queueing -/

/-- The work is about no operation. -/
def Free (work : Work) : Prop := ∀ kind id, work ≠ .operation kind id

/-- A transaction that only queues: a row that was there is still there, unless it was
pending and free, and then it still is that; a new row is pending and free. -/
structure Queued (db db' : Db) : Prop where
  operations : db'.operations = db.operations
  managedStacks : ∀ id, (db.managedStacks.find? id).isSome → (db'.managedStacks.find? id).isSome
  kept : ∀ id c, db.commands.find? id = some c → db'.commands.find? id = some c ∨
    c.status = .pending ∧ Free c.work ∧ ∃ c', db'.commands.find? id = some c' ∧
      c'.agentId = c.agentId ∧ c'.status = .pending ∧ Free c'.work
  queued : ∀ id c', db'.commands.find? id = some c' → db.commands.find? id = some c' ∨
    c'.status = .pending ∧ Free c'.work

namespace Queued

variable {db db' db'' : Db}

lemma same (hc : db'.commands = db.commands) (ho : db'.operations = db.operations)
    (hs : ∀ id, (db.managedStacks.find? id).isSome → (db'.managedStacks.find? id).isSome) :
    Queued db db' where
  operations := ho
  managedStacks := hs
  kept := by
    intro id c h
    left
    rw [hc, h]
  queued := by
    intro id c' h
    left
    rw [← hc, h]

lemma refl (db : Db) : Queued db db := same rfl rfl fun _ h => h

lemma trans (h : Queued db db') (h' : Queued db' db'') : Queued db db'' where
  operations := h'.operations.trans h.operations
  managedStacks := fun id hid => h'.managedStacks id (h.managedStacks id hid)
  kept := by
    intro id c hc
    rcases h.kept id c hc with hsame | ⟨hs, hw, c', hc', ha', hs', hw'⟩
    · exact h'.kept id c hsame
    · right
      rcases h'.kept id c' hc' with hsame | ⟨-, -, c'', hc'', ha'', hs'', hw''⟩
      · exact ⟨hs, hw, c', hsame, ha', hs', hw'⟩
      · exact ⟨hs, hw, c'', hc'', ha''.trans ha', hs'', hw''⟩
  queued := by
    intro id c'' hc''
    rcases h'.queued id c'' hc'' with hsame | hnew
    · exact h.queued id c'' hsame
    · exact .inr hnew

end Queued

section

variable {db db' : Db} {now : Time}

lemma queued_insertCommand {commandId agentId : String} {work : Work}
    (h : insertCommand db now commandId agentId work = some db') (hwork : Free work) :
    Queued db db' := by
  unfold insertCommand at h
  obtain ⟨commands, hcommands, h⟩ := Option.bind_eq_some_iff.mp h
  obtain rfl := Option.some.inj h
  have hfind : ∀ k, commands.find? k = if k = commandId then
      some { id := commandId, agentId, work, createdAt := now } else db.commands.find? k :=
    Table.find?_insert hcommands
  have hnew : db.commands.find? commandId = none := Table.find?_new hcommands
  refine ⟨rfl, fun _ h => h, ?_, ?_⟩
  · intro k c hc
    left
    have hne : k ≠ commandId := by
      rintro rfl
      rw [hnew] at hc
      cases hc
    rw [hfind, if_neg hne, hc]
  · intro k c' hc'
    rw [hfind] at hc'
    by_cases hk : k = commandId
    · right
      rw [if_pos hk] at hc'
      obtain rfl := Option.some.inj hc'
      exact ⟨rfl, hwork⟩
    · left
      rwa [if_neg hk] at hc'

lemma queued_requeue (p : CommandRow → Bool) (work : Work) (hwork : Free work)
    (hp : ∀ c, p c → c.status = .pending ∧ Free c.work) :
    Queued db (db.updateCommands p (fun c => { c with work, createdAt := now })
      fun _ => rfl) := by
  have hfind := Table.find?_update db.commands p
    (fun c => { c with work, createdAt := now }) fun _ => rfl
  refine ⟨rfl, fun _ h => h, ?_, ?_⟩
  · intro k c hc
    by_cases hpc : p c
    · right
      obtain ⟨hs, hw⟩ := hp c hpc
      refine ⟨hs, hw, { c with work, createdAt := now }, ?_, rfl, hs, hwork⟩
      exact (hfind k).trans (by rw [hc, Option.map_some, if_pos hpc])
    · left
      exact (hfind k).trans (by rw [hc, Option.map_some, if_neg hpc])
  · intro k c' hc'
    have hc' := (hfind k).symm.trans hc'
    obtain ⟨c, hc, rfl⟩ := Option.map_eq_some_iff.mp hc'
    by_cases hpc : p c
    · right
      rw [if_pos hpc]
      exact ⟨(hp c hpc).1, hwork⟩
    · left
      rw [if_neg hpc, hc]

lemma free_connectorSync (id : String) (revision : Nat) : Free (.connectorSync id revision) := by
  intro kind id h
  cases h

lemma free_routeSync (id : String) : Free (.routeSync id) := by
  intro kind id h
  cases h

lemma isPendingSync_spec {agentId connectorId : String} {c : CommandRow}
    (h : isPendingSync agentId connectorId c) : c.agentId = agentId ∧ c.status = .pending ∧
      ∃ revision, c.work = .connectorSync connectorId revision := by
  unfold isPendingSync at h
  rw [Bool.and_eq_true, Bool.and_eq_true, beq_iff_eq, beq_iff_eq] at h
  obtain ⟨⟨hagent, hstatus⟩, hwork⟩ := h
  refine ⟨hagent, hstatus, ?_⟩
  split at hwork
  · rename_i id revision heq
    rw [beq_iff_eq] at hwork
    exact ⟨revision, by rw [heq, hwork]⟩
  · cases hwork

lemma queued_queueConnectorSync {commandId agentId connectorId : String} {revision : Nat}
    {stopping : Bool}
    (h : queueConnectorSync db now commandId agentId connectorId revision stopping = some db') :
    Queued db db' := by
  unfold queueConnectorSync at h
  dsimp only at h
  generalize hstatus : connectorStatus db connectorId (if stopping then .stopping else .pending) =
    db₁ at h
  have hsame : Queued db db₁ := by
    rw [← hstatus]
    exact .same rfl rfl fun _ h => h
  split_ifs at h with hpending
  · obtain rfl := Option.some.inj h
    refine hsame.trans (queued_requeue _ _ (free_connectorSync _ _) ?_)
    intro c hc
    obtain ⟨-, hs, r, hw⟩ := isPendingSync_spec hc
    exact ⟨hs, hw ▸ free_connectorSync _ _⟩
  · exact hsame.trans (queued_insertCommand h (free_connectorSync _ _))

lemma queued_createConnector {connectorId commandId : String} {values : ConnectorValues}
    {answer : Option ConnectorRow}
    (h : createConnector db now connectorId commandId values = some (db', answer)) :
    Queued db db' := by
  unfold createConnector at h
  split_ifs at h with hready henabled
  · obtain rfl := (Prod.mk.inj (Option.some.inj h)).1
    exact .refl _
  · obtain ⟨db₁, hinsert, h⟩ := Option.bind_eq_some_iff.mp h
    obtain ⟨db₂, hqueue, h⟩ := Option.bind_eq_some_iff.mp h
    obtain rfl := (Prod.mk.inj (Option.some.inj h)).1
    obtain ⟨connectors, -, hinsert⟩ := Option.bind_eq_some_iff.mp hinsert
    obtain rfl := Option.some.inj hinsert
    have hsame : Queued db { db with connectors } := .same rfl rfl fun _ h => h
    exact hsame.trans (queued_queueConnectorSync hqueue)
  · obtain ⟨db₁, hinsert, h⟩ := Option.bind_eq_some_iff.mp h
    obtain rfl := (Prod.mk.inj (Option.some.inj h)).1
    obtain ⟨connectors, -, hinsert⟩ := Option.bind_eq_some_iff.mp hinsert
    obtain rfl := Option.some.inj hinsert
    exact .same rfl rfl fun _ h => h

lemma queued_queueRemoval {commandId : String} {values : ConnectorChange}
    {current : ConnectorRow} (h : queueRemoval db now commandId values current = some db') :
    Queued db db' := by
  unfold queueRemoval at h
  split_ifs at h with hmove
  · exact queued_insertCommand h (by intro kind id h; cases h)
  · obtain rfl := Option.some.inj h
    exact .refl _

lemma queued_updateConnector {removeCommandId syncCommandId id : String}
    {values : ConnectorChange} {answer : Option ConnectorRow}
    (h : updateConnector db now removeCommandId syncCommandId id values = some (db', answer)) :
    Queued db db' := by
  unfold updateConnector at h
  split at h
  · obtain rfl := (Prod.mk.inj (Option.some.inj h)).1
    exact .refl _
  · split_ifs at h
    iterate 3
      · obtain rfl := (Prod.mk.inj (Option.some.inj h)).1
        exact .refl _
    obtain ⟨db₁, hremove, h⟩ := Option.bind_eq_some_iff.mp h
    obtain ⟨db₂, hqueue, h⟩ := Option.bind_eq_some_iff.mp h
    obtain rfl := (Prod.mk.inj (Option.some.inj h)).1
    have hq := queued_queueConnectorSync hqueue
    refine (queued_queueRemoval hremove).trans (Queued.trans ?_ hq)
    exact .same rfl rfl fun _ h => h

lemma queued_queueInternalSync {commandId agentId : String} {work : Work}
    (h : queueInternalSync db now commandId agentId work = some db') (hwork : Free work) :
    Queued db db' := by
  unfold queueInternalSync at h
  split_ifs at h with hpending
  · obtain rfl := Option.some.inj h
    exact .refl _
  · exact queued_insertCommand h hwork

lemma queued_createRoute {routeId commandId : String} {values : RouteValues}
    {answer : Option RouteRow}
    (h : createRoute db now routeId commandId values = some (db', answer)) :
    Queued db db' := by
  unfold createRoute at h
  split_ifs at h with henabled
  · obtain rfl := (Prod.mk.inj (Option.some.inj h)).1
    exact .refl _
  · obtain ⟨db₁, hinsert, h⟩ := Option.bind_eq_some_iff.mp h
    obtain ⟨db₂, hqueue, h⟩ := Option.bind_eq_some_iff.mp h
    obtain rfl := (Prod.mk.inj (Option.some.inj h)).1
    obtain ⟨managedRoutes, -, hinsert⟩ := Option.bind_eq_some_iff.mp hinsert
    obtain rfl := Option.some.inj hinsert
    have hq := queued_queueInternalSync hqueue (free_routeSync routeId)
    refine Queued.trans ?_ hq
    exact .same rfl rfl fun _ h => h

lemma queued_updateRoute {commandId id : String} {values : RouteChange}
    {answer : Option RouteRow}
    (h : updateRoute db now commandId id values = some (db', answer)) : Queued db db' := by
  unfold updateRoute at h
  split at h
  · obtain rfl := (Prod.mk.inj (Option.some.inj h)).1
    exact .refl _
  · split_ifs at h with henabled
    · obtain rfl := (Prod.mk.inj (Option.some.inj h)).1
      exact .refl _
    · obtain ⟨db₁, hqueue, h⟩ := Option.bind_eq_some_iff.mp h
      obtain rfl := (Prod.mk.inj (Option.some.inj h)).1
      have hq := queued_queueInternalSync hqueue (free_routeSync id)
      refine Queued.trans ?_ hq
      exact .same rfl rfl fun _ h => h

lemma queued_queueStackSync {commandId stackId : String}
    (h : queueStackSync db now commandId stackId = some db') : Queued db db' := by
  unfold queueStackSync at h
  split at h
  · obtain rfl := Option.some.inj h
    exact .refl _
  · exact queued_queueInternalSync h (by intro kind id h; cases h)

lemma queued_createCommand {commandId agentId type payload : String} {answer : Creation}
    (h : createCommand db now commandId agentId type payload = some (db', answer)) :
    Queued db db' := by
  unfold createCommand at h
  split_ifs at h with henabled
  · obtain rfl := (Prod.mk.inj (Option.some.inj h)).1
    exact .refl _
  · obtain ⟨db₁, hinsert, h⟩ := Option.bind_eq_some_iff.mp h
    obtain rfl := (Prod.mk.inj (Option.some.inj h)).1
    exact queued_insertCommand hinsert (by intro kind id h; cases h)

end

/-! ### What happens to the command rows -/

lemma commands_startWork (now : Time) (agentId : String) (db : Db) (c : CommandRow) :
    (startWork now agentId db c).commands = db.commands := by
  unfold startWork
  cases c.work with
  | operation kind id => cases kind <;> rfl
  | _ => rfl

lemma commands_foldl_startWork (now : Time) (agentId : String) (l : List CommandRow) (db : Db) :
    (l.foldl (startWork now agentId) db).commands = db.commands := by
  induction l generalizing db with
  | nil => rfl
  | cons c l ih => rw [List.foldl_cons, ih, commands_startWork]

/-- Claiming claims the selected rows. -/
lemma find?_claimCommands (db : Db) (now : Time) (agentId : String) (limit : Nat)
    (locked : String → Bool) (id : String) :
    (claimCommands db now agentId limit locked).1.commands.find? id =
      (db.commands.find? id).map fun c =>
        if ((selected db now agentId limit locked).map (·.id)).contains c.id then
          claimRow now c else c := by
  unfold claimCommands
  dsimp only
  rw [commands_foldl_startWork]
  exact Table.find?_update db.commands
    (fun c => ((selected db now agentId limit locked).map (·.id)).contains c.id) (claimRow now)
    (fun _ => rfl) id

lemma mem_selected {db : Db} {now : Time} {agentId : String} {limit : Nat}
    {locked : String → Bool} {c : CommandRow} (h : c ∈ selected db now agentId limit locked) :
    c ∈ db.commands.rows ∧ eligible agentId now c := by
  unfold selected at h
  have hsorted := List.mem_of_mem_take h
  rw [List.mem_insertionSort, List.mem_filter, Bool.and_eq_true] at hsorted
  exact ⟨hsorted.1, hsorted.2.1⟩

lemma eligible_status {agentId : String} {now : Time} {c : CommandRow}
    (h : eligible agentId now c) : c.agentId = agentId ∧
      (c.status = .pending ∨ c.status = .claimed) := by
  unfold eligible at h
  rw [Bool.and_eq_true, Bool.or_eq_true, Bool.and_eq_true] at h
  obtain ⟨hagent, hstatus⟩ := h
  refine ⟨by simpa using hagent, ?_⟩
  rcases hstatus with hpending | ⟨hclaimed, -⟩
  · exact .inl (by simpa using hpending)
  · exact .inr (by simpa using hclaimed)

/-- A row with the id of a row of the table is that row. -/
lemma eq_of_id {db : Db} {c c' : CommandRow} (hc : c ∈ db.commands.rows)
    (hc' : c' ∈ db.commands.rows) (hid : c'.id = c.id) : c' = c := by
  have hfound := Table.find?_of_mem hc'
  rw [hid, Table.find?_of_mem hc] at hfound
  exact (Option.some.inj hfound).symm

lemma selected_contains {db : Db} {now : Time} {agentId : String} {limit : Nat}
    {locked : String → Bool} {c : CommandRow} (hc : c ∈ db.commands.rows) :
    ((selected db now agentId limit locked).map (·.id)).contains c.id ↔
      c ∈ selected db now agentId limit locked := by
  rw [List.contains_iff_mem, List.mem_map]
  constructor
  · rintro ⟨c', hc', hid⟩
    rwa [← eq_of_id hc (mem_selected hc').1 hid]
  · exact fun h => ⟨c, h, rfl⟩

lemma commands_failWork (now : Time) (db : Db) (c : CommandRow) :
    (failWork now db c).commands = db.commands := by
  unfold failWork
  cases c.work with
  | operation kind id =>
    cases kind with
    | logs => rfl
    | _ =>
      dsimp only
      split <;> rfl
  | _ => rfl

lemma commands_foldl_failWork (now : Time) (l : List CommandRow) (db : Db) :
    (l.foldl (failWork now) db).commands = db.commands := by
  induction l generalizing db with
  | nil => rfl
  | cons c l ih => rw [List.foldl_cons, ih, commands_failWork]

/-- The sweep fails the stale rows. -/
lemma find?_failStaleCommands (db : Db) (now staleBefore : Time) (id : String) :
    (failStaleCommands db now staleBefore).commands.find? id =
      (db.commands.find? id).map fun c =>
        if isStale staleBefore now c then failRow now c else c := by
  unfold failStaleCommands
  dsimp only
  rw [commands_foldl_failWork]
  exact Table.find?_update db.commands (isStale staleBefore now) (failRow now) (fun _ => rfl) id

lemma isStale_status {staleBefore now : Time} {c : CommandRow} (h : isStale staleBefore now c) :
    c.status = .pending ∨ c.status = .claimed := by
  unfold isStale at h
  rw [Bool.and_eq_true, Bool.or_eq_true] at h
  simpa using h.1

end GatewayControl.Transactions
