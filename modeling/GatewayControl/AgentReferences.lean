import GatewayControl.AgentRemoval

/-!
Which agents the rows of the store refer to, and what the store's transactions do to that.

Most of them keep every reference. The ones that add or move a row do so for an agent that they
have found enabled, or that has a connector.
-/

namespace GatewayControl.AgentReferences

open Database Store Placement Transactions AgentRemoval

/-! ### References -/

structure Refs where
  agents : Table Database.AgentRow String Database.AgentRow.id
  commands : List (String × String)
  active : List String
  operations : List (OperationKind × String)
  connectors : List String
  managedStacks : List String
  deployments : List String
  managedRoutes : List String

def refs (db : Db) : Refs where
  agents := db.agents
  commands := db.commands.rows.map fun c => (c.id, c.agentId)
  active := (db.commands.rows.filter active).map CommandRow.agentId
  operations := db.operations.rows.map fun op => (op.kind, op.agentId)
  connectors := db.connectors.rows.map ConnectorRow.agentId
  managedStacks := db.managedStacks.rows.map StackRow.agentId
  deployments := db.deployments.rows.map DeploymentRow.agentId
  managedRoutes := db.managedRoutes.rows.map RouteRow.gatewayAgentId

section

variable {db db' : Db} {now : Time} {agentId id : String} {ending : Ending} {result : Json}

/-! ### Statements that keep every reference -/

lemma refs_updateOperations {p : OperationRow → Bool} {f : OperationRow → OperationRow}
    {hf : ∀ op, (f op).key = op.key} (hagent : ∀ op, (f op).agentId = op.agentId) :
    refs (db.updateOperations p f hf) = refs db := by
  have hmap := Table.map_update db.operations p f hf (fun op => (op.kind, op.agentId))
    (fun op _ _ => Prod.ext (Prod.mk.inj (hf op)).1 (hagent op))
  exact congrArg (fun operations => { refs db with operations }) hmap

lemma refs_enqueueEvent (db : Db) (e : Event) : refs (db.enqueueEvent e) = refs db := rfl

lemma refs_updateConnectors {p : ConnectorRow → Bool} {f : ConnectorRow → ConnectorRow}
    {hf : ∀ c, (f c).id = c.id} (hagent : ∀ c, (f c).agentId = c.agentId) :
    refs (db.updateConnectors p f hf) = refs db := by
  have hmap := Table.map_update db.connectors p f hf ConnectorRow.agentId fun c _ _ => hagent c
  exact congrArg (fun connectors => { refs db with connectors }) hmap

lemma refs_setDeployment {p : DeploymentRow → Bool} {f : DeploymentRow → DeploymentRow}
    {hf : ∀ d, (f d).id = d.id} (hagent : ∀ d, (f d).agentId = d.agentId) :
    refs (setDeployment db p f hf) = refs db := by
  have hmap := Table.map_update db.deployments p f hf DeploymentRow.agentId fun d _ _ => hagent d
  exact congrArg (fun deployments => { refs db with deployments }) hmap

lemma refs_updateStacks {p : StackRow → Bool} {f : StackRow → StackRow}
    {hf : ∀ s, (f s).id = s.id} (hagent : ∀ s, (f s).agentId = s.agentId) :
    refs { db with managedStacks := db.managedStacks.update p f hf } = refs db := by
  have hmap := Table.map_update db.managedStacks p f hf StackRow.agentId fun s _ _ => hagent s
  exact congrArg (fun managedStacks => { refs db with managedStacks }) hmap

lemma refs_updateRoutes {p : RouteRow → Bool} {f : RouteRow → RouteRow}
    {hf : ∀ r, (f r).id = r.id} (hagent : ∀ r ∈ db.managedRoutes.rows, p r →
      (f r).gatewayAgentId = r.gatewayAgentId) :
    refs { db with managedRoutes := db.managedRoutes.update p f hf } = refs db := by
  have hmap := Table.map_update db.managedRoutes p f hf RouteRow.gatewayAgentId hagent
  exact congrArg (fun managedRoutes => { refs db with managedRoutes }) hmap

/-! ### The end of a command -/

lemma refs_finishBackup (h : finishBackup db now agentId id ending result = some db') :
    refs db' = refs db := by
  obtain ⟨kept, -, h⟩ := Option.bind_eq_some_iff.mp h
  dsimp only at h
  split at h <;> obtain rfl := Option.some.inj h
  · exact refs_updateOperations fun _ => rfl
  · rw [refs_enqueueEvent]
    exact refs_updateOperations fun _ => rfl

lemma refs_finishRestore (h : finishRestore db now agentId id ending result = some db') :
    refs db' = refs db := by
  obtain ⟨kept, -, h⟩ := Option.bind_eq_some_iff.mp h
  dsimp only at h
  split at h <;> obtain rfl := Option.some.inj h
  · rw [refs_enqueueEvent]
    exact refs_updateOperations fun _ => rfl
  · exact refs_updateOperations fun _ => rfl

lemma refs_finishAction (h : finishAction db now agentId id ending result = some db') :
    refs db' = refs db := by
  obtain ⟨safe, -, h⟩ := Option.bind_eq_some_iff.mp h
  obtain ⟨kept, -, h⟩ := Option.bind_eq_some_iff.mp h
  obtain ⟨error, -, h⟩ := Option.bind_eq_some_iff.mp h
  dsimp only at h
  split at h <;> obtain rfl := Option.some.inj h
  · rw [refs_enqueueEvent]
    exact refs_updateOperations fun _ => rfl
  · exact refs_updateOperations fun _ => rfl

lemma refs_finishLogs (h : finishLogs db now agentId id ending result = some db') :
    refs db' = refs db := by
  obtain ⟨kept, -, h⟩ := Option.bind_eq_some_iff.mp h
  obtain ⟨error, -, h⟩ := Option.bind_eq_some_iff.mp h
  obtain rfl := Option.some.inj h
  exact refs_updateOperations fun _ => rfl

lemma refs_finishDeployment (h : finishDeployment db now agentId id ending result = some db') :
    refs db' = refs db := by
  obtain ⟨safe, -, h⟩ := Option.bind_eq_some_iff.mp h
  obtain ⟨kept, -, h⟩ := Option.bind_eq_some_iff.mp h
  obtain ⟨error, -, h⟩ := Option.bind_eq_some_iff.mp h
  dsimp only at h
  split at h <;> obtain rfl := Option.some.inj h
  · rw [refs_enqueueEvent]
    refine (refs_setDeployment ?_).trans (refs_updateOperations fun _ => rfl)
    exact fun _ => rfl
  · exact refs_updateOperations fun _ => rfl

lemma refs_syncFailed (c : CommandRow) : refs (syncFailed db agentId c ending) = refs db := by
  cases ending with
  | succeeded => rfl
  | failed => rfl

lemma refs_finishWork {c : CommandRow} (h : finishWork db now agentId c ending result = some db') :
    refs db' = refs db := by
  unfold finishWork at h
  split at h
  · obtain ⟨db₁, hfinish, h⟩ := Option.bind_eq_some_iff.mp h
    obtain rfl := Option.some.inj h
    obtain ⟨lastError, -, hfinish⟩ := Option.bind_eq_some_iff.mp hfinish
    obtain rfl := Option.some.inj hfinish
    exact (refs_syncFailed c).trans (refs_updateConnectors fun _ => rfl)
  · obtain rfl := Option.some.inj h
    refine (refs_syncFailed c).trans ?_
    unfold finishStack
    split
    · rfl
    · exact refs_updateStacks fun _ => rfl
  · obtain rfl := Option.some.inj h
    refine (refs_syncFailed c).trans ?_
    unfold finishRoute
    split
    · rfl
    · exact refs_updateRoutes fun _ _ _ => rfl
  · exact refs_finishBackup h
  · exact refs_finishRestore h
  · exact refs_finishAction h
  · exact refs_finishLogs h
  · exact refs_finishDeployment h
  · exact Option.some.inj h ▸ rfl
  · exact Option.some.inj h ▸ rfl

lemma refs_startWork (c : CommandRow) : refs (startWork now agentId db c) = refs db := by
  unfold startWork
  split
  · exact refs_updateConnectors fun _ => rfl
  · exact refs_updateOperations fun _ => rfl
  · exact refs_updateOperations fun _ => rfl
  · exact refs_updateOperations fun _ => rfl
  · rfl

lemma refs_failAwaiting {kind : OperationKind} {commandId : String} {p : OperationRow → Bool}
    {error : OperationRow → Option String} :
    refs (failAwaiting db now kind commandId p error) = refs db :=
  refs_updateOperations fun _ => rfl

lemma refs_failAwaiting_enqueueEvent {kind : OperationKind} {commandId : String}
    {p : OperationRow → Bool} {error : OperationRow → Option String} {e : Event} :
    refs ((failAwaiting db now kind commandId p error).enqueueEvent e) = refs db :=
  (refs_enqueueEvent _ e).trans refs_failAwaiting

lemma refs_failWork (c : CommandRow) : refs (failWork now db c) = refs db := by
  unfold failWork
  split
  · exact refs_updateConnectors fun _ => rfl
  · dsimp only
    split <;> first | exact refs_failAwaiting | exact refs_failAwaiting_enqueueEvent
  · dsimp only
    split <;> first | exact refs_failAwaiting | exact refs_failAwaiting_enqueueEvent
  · dsimp only
    split <;> first | exact refs_failAwaiting | exact refs_failAwaiting_enqueueEvent
  · exact refs_failAwaiting
  · dsimp only
    split
    · refine (refs_setDeployment ?_).trans refs_failAwaiting
      exact fun _ => rfl
    · exact refs_failAwaiting
  · rfl

lemma refs_foldl {α : Type} {f : Db → α → Db} (hf : ∀ db a, refs (f db a) = refs db) (l : List α)
    (db : Db) : refs (l.foldl f db) = refs db := by
  induction l generalizing db with
  | nil => rfl
  | cons a l ih => exact (ih (f db a)).trans (hf db a)

end

/-! ### New references -/

/-- Agents that may get a command: enabled ones, and ones that a connector leaves. -/
def Employed (db : Db) (agentId : String) : Prop :=
  agentEnabled db agentId = true ∨ agentId ∈ (refs db).connectors

/-- The references of `db'` are those of `db`, or to agents that may get one. -/
structure Grows (db db' : Db) : Prop where
  agents : db'.agents = db.agents
  commands : ∀ e ∈ (refs db').commands, e ∈ (refs db).commands ∨ Employed db e.2
  active : ∀ a ∈ (refs db').active, a ∈ (refs db).active ∨ Employed db a
  operations : ∀ e ∈ (refs db').operations, e ∈ (refs db).operations ∨
    agentReady db e.2 = true ∨ e.1 = .backup ∨ e.1 = .restore
  connectors : ∀ a ∈ (refs db').connectors, a ∈ (refs db).connectors ∨ agentEnabled db a = true
  managedStacks : ∀ a ∈ (refs db').managedStacks,
    a ∈ (refs db).managedStacks ∨ agentEnabled db a = true
  deployments : ∀ a ∈ (refs db').deployments, a ∈ (refs db).deployments ∨ agentEnabled db a = true
  managedRoutes : ∀ a ∈ (refs db').managedRoutes,
    a ∈ (refs db).managedRoutes ∨ agentEnabled db a = true

namespace Grows

variable {db db' db'' : Db}

lemma of_refs (h : refs db' = refs db) : Grows db db' where
  agents := congrArg Refs.agents h
  commands := fun _ he => .inl (h ▸ he)
  active := fun _ ha => .inl (h ▸ ha)
  operations := fun _ he => .inl (h ▸ he)
  connectors := fun _ ha => .inl (h ▸ ha)
  managedStacks := fun _ ha => .inl (h ▸ ha)
  deployments := fun _ ha => .inl (h ▸ ha)
  managedRoutes := fun _ ha => .inl (h ▸ ha)

lemma refl (db : Db) : Grows db db := of_refs rfl

lemma enabled (h : Grows db db') (a : String) : agentEnabled db' a = agentEnabled db a := by
  rw [agentEnabled, h.agents, agentEnabled]

lemma ready (h : Grows db db') (a : String) : agentReady db' a = agentReady db a := by
  rw [agentReady, h.agents, agentReady]

lemma employed (h : Grows db db') {a : String} (ha : Employed db' a) : Employed db a := by
  rcases ha with ha | ha
  · exact .inl (h.enabled a ▸ ha)
  · exact (h.connectors a ha).symm

lemma trans (h : Grows db db') (h' : Grows db' db'') : Grows db db'' where
  agents := h'.agents.trans h.agents
  commands := fun e he => (h'.commands e he).elim (h.commands e) fun ha => .inr (h.employed ha)
  active := fun a ha => (h'.active a ha).elim (h.active a) fun ha => .inr (h.employed ha)
  operations := fun e he => (h'.operations e he).elim (h.operations e) fun hother =>
    .inr (h.ready e.2 ▸ hother)
  connectors := fun a ha => (h'.connectors a ha).elim (h.connectors a) fun ha =>
    .inr (h.enabled a ▸ ha)
  managedStacks := fun a ha => (h'.managedStacks a ha).elim (h.managedStacks a) fun ha =>
    .inr (h.enabled a ▸ ha)
  deployments := fun a ha => (h'.deployments a ha).elim (h.deployments a) fun ha =>
    .inr (h.enabled a ▸ ha)
  managedRoutes := fun a ha => (h'.managedRoutes a ha).elim (h.managedRoutes a) fun ha =>
    .inr (h.enabled a ▸ ha)

end Grows

section

variable {db db' : Db} {now : Time} {agentId id commandId : String}

lemma enabled_of_ready (h : agentReady db agentId = true) : agentEnabled db agentId = true := by
  unfold agentReady at h
  unfold agentEnabled
  cases hfind : db.agents.find? agentId with
  | none => simp [hfind] at h
  | some a =>
    rw [hfind, Option.any_some, Bool.and_eq_true] at h
    exact h.1

/-! ### Statements -/

lemma grows_insertCommand {work : Work} (h : insertCommand db now id agentId work = some db')
    (hagent : Employed db agentId) : Grows db db' := by
  obtain ⟨commands, hinsert, h⟩ := Option.bind_eq_some_iff.mp h
  obtain rfl := Option.some.inj h
  refine { Grows.refl db with commands := ?_, active := ?_ }
  · intro e he
    refine (Table.mem_map_insert hinsert he).imp_right ?_
    rintro rfl
    exact hagent
  · intro a ha
    obtain ⟨c, hc, rfl⟩ := List.mem_map.mp ha
    obtain ⟨hrow, hactive⟩ := List.mem_filter.mp hc
    rw [Table.rows_insert hinsert, List.mem_append] at hrow
    rcases hrow with hrow | hrow
    · exact .inl (List.mem_map_of_mem (List.mem_filter.mpr ⟨hrow, hactive⟩))
    · exact .inr (List.mem_singleton.mp hrow ▸ hagent)

lemma grows_insertOperation {op : OperationRow} (h : insertOperation db op = some db')
    (hagent : agentReady db op.agentId = true ∨ op.kind = .backup ∨ op.kind = .restore) :
    Grows db db' := by
  obtain ⟨operations, hinsert, h⟩ := Option.bind_eq_some_iff.mp h
  obtain rfl := Option.some.inj h
  refine { Grows.refl db with operations := ?_ }
  intro e he
  refine (Table.mem_map_insert hinsert he).imp_right ?_
  rintro rfl
  exact hagent

lemma grows_insertConnector {c : ConnectorRow} (h : insertConnector db c = some db')
    (hagent : agentEnabled db c.agentId = true) : Grows db db' := by
  obtain ⟨connectors, hinsert, h⟩ := Option.bind_eq_some_iff.mp h
  obtain rfl := Option.some.inj h
  refine { Grows.refl db with connectors := ?_ }
  intro a ha
  refine (Table.mem_map_insert hinsert ha).imp_right ?_
  rintro rfl
  exact hagent

lemma grows_insertRoute {r : RouteRow} (h : insertRoute db r = some db')
    (hagent : agentEnabled db r.gatewayAgentId = true) : Grows db db' := by
  obtain ⟨managedRoutes, hinsert, h⟩ := Option.bind_eq_some_iff.mp h
  obtain rfl := Option.some.inj h
  refine { Grows.refl db with managedRoutes := ?_ }
  intro a ha
  refine (Table.mem_map_insert hinsert ha).imp_right ?_
  rintro rfl
  exact hagent

lemma grows_insertStack {s : StackRow} (h : insertStack db s = some db')
    (hagent : agentEnabled db s.agentId = true) : Grows db db' := by
  obtain ⟨managedStacks, hinsert, h⟩ := Option.bind_eq_some_iff.mp h
  obtain rfl := Option.some.inj h
  refine { Grows.refl db with managedStacks := ?_ }
  intro a ha
  refine (Table.mem_map_insert hinsert ha).imp_right ?_
  rintro rfl
  exact hagent

lemma grows_insertDeployment {d : DeploymentRow}
    (h : DeploymentHistory.insertDeployment db d = some db')
    (hagent : agentEnabled db d.agentId = true) : Grows db db' := by
  obtain ⟨deployments, hinsert, h⟩ := Option.bind_eq_some_iff.mp h
  obtain rfl := Option.some.inj h
  refine { Grows.refl db with deployments := ?_ }
  intro a ha
  refine (Table.mem_map_insert hinsert ha).imp_right ?_
  rintro rfl
  exact hagent

lemma grows_updateCommands {p : CommandRow → Bool} {f : CommandRow → CommandRow}
    {hf : ∀ c, (f c).id = c.id} (hagent : ∀ c, (f c).agentId = c.agentId)
    (hactive : ∀ c ∈ db.commands.rows, p c → active (f c) → active c) :
    Grows db (db.updateCommands p f hf) := by
  refine { Grows.refl db with commands := ?_, active := ?_ }
  · intro e he
    have hmap := Table.map_update db.commands p f hf (fun c => (c.id, c.agentId))
      fun c _ _ => Prod.ext (hf c) (hagent c)
    have hold : e ∈ (db.commands.update p f hf).rows.map fun c => (c.id, c.agentId) := he
    rw [hmap] at hold
    exact .inl hold
  · intro a ha
    obtain ⟨c', hc', rfl⟩ := List.mem_map.mp ha
    obtain ⟨hrow, hc'⟩ := List.mem_filter.mp hc'
    obtain ⟨c, hc, rfl⟩ := List.mem_map.mp hrow
    left
    refine List.mem_map.mpr ⟨c, List.mem_filter.mpr ⟨hc, ?_⟩, ?_⟩
    · split at hc'
      · next hp => exact hactive c hc hp hc'
      · exact hc'
    · split
      · exact (hagent c).symm
      · rfl

/-- Rows that move do so to an enabled agent. -/
lemma grows_moveConnectors {p : ConnectorRow → Bool} {f : ConnectorRow → ConnectorRow}
    {hf : ∀ c, (f c).id = c.id} (hagent : ∀ c ∈ db.connectors.rows, p c →
      (f c).agentId = c.agentId ∨ agentEnabled db (f c).agentId = true) :
    Grows db (db.updateConnectors p f hf) := by
  refine { Grows.refl db with connectors := ?_ }
  intro a ha
  obtain ⟨c', hc', rfl⟩ := List.mem_map.mp ha
  obtain ⟨c, hc, rfl⟩ := List.mem_map.mp hc'
  split
  · next hp =>
    rcases hagent c hc hp with hsame | henabled
    · exact .inl (hsame ▸ List.mem_map_of_mem hc)
    · exact .inr henabled
  · exact .inl (List.mem_map_of_mem hc)

lemma grows_moveRoutes {p : RouteRow → Bool} {f : RouteRow → RouteRow}
    {hf : ∀ r, (f r).id = r.id} (hagent : ∀ r ∈ db.managedRoutes.rows, p r →
      agentEnabled db (f r).gatewayAgentId = true) :
    Grows db { db with managedRoutes := db.managedRoutes.update p f hf } := by
  refine { Grows.refl db with managedRoutes := ?_ }
  intro a ha
  obtain ⟨r', hr', rfl⟩ := List.mem_map.mp ha
  obtain ⟨r, hr, rfl⟩ := List.mem_map.mp hr'
  split
  · next hp => exact .inr (hagent r hr hp)
  · exact .inl (List.mem_map_of_mem hr)

/-! ### Transactions that create operations -/

lemma grows_createBackup {operationId stackId target : String} {answer : Creation}
    (h : createBackup db now operationId commandId stackId target = some (db', answer)) :
    Grows db db' := by
  unfold createBackup at h
  split at h
  · exact (Prod.mk.inj (Option.some.inj h)).1 ▸ .refl db
  · next stack _ =>
    split_ifs at h with hguard hactive
    · exact (Prod.mk.inj (Option.some.inj h)).1 ▸ .refl db
    · exact (Prod.mk.inj (Option.some.inj h)).1 ▸ .refl db
    · rw [Bool.or_eq_true, not_or, Bool.not_eq_true', Bool.not_eq_false] at hguard
      obtain ⟨db₁, hcommand, h⟩ := Option.bind_eq_some_iff.mp h
      obtain ⟨db₂, hoperation, h⟩ := Option.bind_eq_some_iff.mp h
      obtain rfl := (Prod.mk.inj (Option.some.inj h)).1
      exact (grows_insertCommand hcommand (.inl (by simpa using hguard.2))).trans
        (grows_insertOperation hoperation (.inr (.inl rfl)))

lemma grows_createRestore {operationId backupId : String} {answer : Creation}
    (h : createRestore db now operationId commandId backupId = some (db', answer)) :
    Grows db db' := by
  unfold createRestore at h
  split at h
  · split_ifs at h with hguard hactive
    · exact (Prod.mk.inj (Option.some.inj h)).1 ▸ .refl db
    · exact (Prod.mk.inj (Option.some.inj h)).1 ▸ .refl db
    · rw [Bool.or_eq_true, not_or] at hguard
      obtain ⟨db₁, hcommand, h⟩ := Option.bind_eq_some_iff.mp h
      obtain ⟨db₂, hoperation, h⟩ := Option.bind_eq_some_iff.mp h
      obtain rfl := (Prod.mk.inj (Option.some.inj h)).1
      exact (grows_insertCommand hcommand (.inl (by simpa using hguard.2))).trans
        (grows_insertOperation hoperation (.inr (.inr rfl)))
  · exact (Prod.mk.inj (Option.some.inj h)).1 ▸ .refl db

lemma grows_linkCommand {key : OperationKind × String} :
    Grows db (linkCommand db key commandId) :=
  .of_refs (refs_updateOperations fun _ => rfl)

lemma grows_createRuntimeOperation {operationId action scope projectName : String}
    {serviceName : Option String} {answer : Creation}
    (h : createRuntimeOperation db now operationId commandId agentId action scope projectName
      serviceName = some (db', answer)) : Grows db db' := by
  unfold createRuntimeOperation at h
  split_ifs at h with hclash hguard
  · exact (Prod.mk.inj (Option.some.inj h)).1 ▸ .refl db
  · exact (Prod.mk.inj (Option.some.inj h)).1 ▸ .refl db
  · have hready : agentReady db agentId = true := by simpa using hguard
    dsimp only at h
    split at h
    · exact (Prod.mk.inj (Option.some.inj h)).1 ▸ .refl db
    · next db₂ hinserted =>
      obtain rfl := (Prod.mk.inj (Option.some.inj h)).1
      obtain ⟨db₁, hoperation, hcommand⟩ := Option.bind_eq_some_iff.mp hinserted
      have hgrows := grows_insertOperation hoperation (.inl hready)
      have hemployed : Employed db₁ agentId := .inl (hgrows.enabled _ ▸ enabled_of_ready hready)
      exact (hgrows.trans (grows_insertCommand hcommand hemployed)).trans grows_linkCommand

lemma grows_createRuntimeLogRequest {operationId projectName serviceName : String} {tail : Nat}
    {since : Option String} {answer : Creation}
    (h : createRuntimeLogRequest db now operationId commandId agentId projectName serviceName tail
      since = some (db', answer)) : Grows db db' := by
  unfold createRuntimeLogRequest at h
  split_ifs at h with hguard
  · exact (Prod.mk.inj (Option.some.inj h)).1 ▸ .refl db
  · have hready : agentReady db agentId = true := by simpa using hguard
    obtain ⟨db₁, hoperation, h⟩ := Option.bind_eq_some_iff.mp h
    obtain ⟨db₂, hcommand, h⟩ := Option.bind_eq_some_iff.mp h
    obtain rfl := (Prod.mk.inj (Option.some.inj h)).1
    have hgrows := grows_insertOperation hoperation (.inl hready)
    have hemployed : Employed db₁ agentId := .inl (hgrows.enabled _ ▸ enabled_of_ready hready)
    exact (hgrows.trans (grows_insertCommand hcommand hemployed)).trans grows_linkCommand

lemma grows_createDeploymentRun {operationId deploymentId revisionId action : String}
    {answer : Creation}
    (h : createDeploymentRun db now operationId commandId deploymentId revisionId action =
      some (db', answer)) : Grows db db' := by
  unfold createDeploymentRun at h
  split at h
  · exact (Prod.mk.inj (Option.some.inj h)).1 ▸ .refl db
  · next deployment _ =>
    split at h
    · exact (Prod.mk.inj (Option.some.inj h)).1 ▸ .refl db
    · next hguard =>
      split at h
      · exact (Prod.mk.inj (Option.some.inj h)).1 ▸ .refl db
      · rw [Bool.or_eq_true, Bool.or_eq_true, not_or, not_or] at hguard
        have hready : agentReady db deployment.agentId = true := by simpa using hguard.1.2
        obtain ⟨db₁, hcommand, h⟩ := Option.bind_eq_some_iff.mp h
        obtain ⟨db₂, hoperation, h⟩ := Option.bind_eq_some_iff.mp h
        obtain rfl := (Prod.mk.inj (Option.some.inj h)).1
        have hgrows := grows_insertCommand hcommand (.inl (enabled_of_ready hready))
        have hboth := hgrows.trans (grows_insertOperation hoperation
          (.inl (hgrows.ready _ ▸ hready)))
        refine hboth.trans (.of_refs (refs_setDeployment ?_))
        exact fun _ => rfl

lemma grows_createCommand {type payload : String} {answer : Creation}
    (h : createCommand db now commandId agentId type payload = some (db', answer)) :
    Grows db db' := by
  unfold createCommand at h
  split_ifs at h with hguard
  · exact (Prod.mk.inj (Option.some.inj h)).1 ▸ .refl db
  · obtain ⟨db₁, hcommand, h⟩ := Option.bind_eq_some_iff.mp h
    obtain rfl := (Prod.mk.inj (Option.some.inj h)).1
    exact grows_insertCommand hcommand (.inl (by simpa using hguard))

/-! ### Connectors, routes, stacks and deployments -/

lemma grows_queueConnectorSync {connectorId : String} {revision : Nat} {stopping : Bool}
    (h : queueConnectorSync db now commandId agentId connectorId revision stopping = some db')
    (hagent : Employed db agentId) : Grows db db' := by
  unfold queueConnectorSync at h
  dsimp only at h
  generalize hstatus : connectorStatus db connectorId (if stopping then .stopping else .pending) =
    db₁ at h
  have hgrows : Grows db db₁ := by
    rw [← hstatus]
    exact .of_refs (refs_updateConnectors fun _ => rfl)
  have hrefs : refs db₁ = refs db := by
    rw [← hstatus]
    exact refs_updateConnectors fun _ => rfl
  split_ifs at h with hpending
  · obtain rfl := Option.some.inj h
    refine hgrows.trans (grows_updateCommands ?_ ?_)
    · exact fun _ => rfl
    · exact fun _ _ _ hactive => hactive
  · refine hgrows.trans (grows_insertCommand h ?_)
    exact hagent.imp (fun henabled => hgrows.enabled _ ▸ henabled) fun hmem => hrefs ▸ hmem

lemma grows_createConnector {connectorId : String} {values : ConnectorValues}
    {answer : Option ConnectorRow}
    (h : createConnector db now connectorId commandId values = some (db', answer)) :
    Grows db db' := by
  unfold createConnector at h
  split_ifs at h with hguard
  · exact (Prod.mk.inj (Option.some.inj h)).1 ▸ .refl db
  all_goals
    rw [Bool.or_eq_true, not_or] at hguard
    have hready : agentReady db values.agentId = true := by simpa using hguard.1
    have henabled := enabled_of_ready hready
    obtain ⟨db₁, hinsert, h⟩ := Option.bind_eq_some_iff.mp h
    have hgrows := grows_insertConnector hinsert henabled
  · obtain ⟨db₂, hqueue, h⟩ := Option.bind_eq_some_iff.mp h
    obtain rfl := (Prod.mk.inj (Option.some.inj h)).1
    exact hgrows.trans (grows_queueConnectorSync hqueue (.inl (hgrows.enabled _ ▸ henabled)))
  · obtain rfl := (Prod.mk.inj (Option.some.inj h)).1
    exact hgrows

lemma grows_updateConnector {removeCommandId syncCommandId : String} {values : ConnectorChange}
    {answer : Option ConnectorRow}
    (h : updateConnector db now removeCommandId syncCommandId id values = some (db', answer)) :
    Grows db db' := by
  unfold updateConnector at h
  split at h
  · exact (Prod.mk.inj (Option.some.inj h)).1 ▸ .refl db
  · next current hcurrent =>
    split_ifs at h with hguard
    · exact (Prod.mk.inj (Option.some.inj h)).1 ▸ .refl db
    · exact (Prod.mk.inj (Option.some.inj h)).1 ▸ .refl db
    · exact (Prod.mk.inj (Option.some.inj h)).1 ▸ .refl db
    · have htarget : agentEnabled db (values.agentId.getD current.agentId) = true :=
        enabled_of_ready (by simpa using hguard)
      obtain ⟨db₁, hremoval, h⟩ := Option.bind_eq_some_iff.mp h
      obtain ⟨db₂, hqueue, h⟩ := Option.bind_eq_some_iff.mp h
      obtain rfl := (Prod.mk.inj (Option.some.inj h)).1
      have hfirst : Grows db db₁ ∧ db₁.connectors = db.connectors := by
        unfold queueRemoval at hremoval
        split_ifs at hremoval
        · refine ⟨grows_insertCommand hremoval (.inr ?_), ?_⟩
          · exact List.mem_map_of_mem (Table.mem_of_find? hcurrent)
          · obtain ⟨commands, -, hremoval⟩ := Option.bind_eq_some_iff.mp hremoval
            exact Option.some.inj hremoval ▸ rfl
        · exact Option.some.inj hremoval ▸ ⟨.refl db, rfl⟩
      obtain ⟨hgrows, hconnectors⟩ := hfirst
      have hmoved : Grows db₁ (db₁.updateConnectors (fun c => c.id = id) (changeConnector values)
          fun _ => rfl) := by
        refine grows_moveConnectors ?_
        intro c hc hid
        right
        have hfound := Table.find?_of_mem (hconnectors ▸ hc)
        rw [of_decide_eq_true hid, hcurrent] at hfound
        obtain rfl := Option.some.inj hfound
        exact hgrows.enabled _ ▸ htarget
      have hboth := hgrows.trans hmoved
      exact hboth.trans (grows_queueConnectorSync hqueue (.inl (hboth.enabled _ ▸ htarget)))

lemma grows_queueInternalSync {work : Work}
    (h : queueInternalSync db now commandId agentId work = some db')
    (hagent : agentEnabled db agentId = true) : Grows db db' := by
  unfold queueInternalSync at h
  split_ifs at h
  · exact Option.some.inj h ▸ .refl db
  · exact grows_insertCommand h (.inl hagent)

lemma grows_createRoute {routeId : String} {values : RouteValues} {answer : Option RouteRow}
    (h : createRoute db now routeId commandId values = some (db', answer)) : Grows db db' := by
  unfold createRoute at h
  split_ifs at h with hguard
  · exact (Prod.mk.inj (Option.some.inj h)).1 ▸ .refl db
  · have henabled : agentEnabled db values.gatewayAgentId = true := by simpa using hguard
    obtain ⟨db₁, hinsert, h⟩ := Option.bind_eq_some_iff.mp h
    obtain ⟨db₂, hqueue, h⟩ := Option.bind_eq_some_iff.mp h
    obtain rfl := (Prod.mk.inj (Option.some.inj h)).1
    have hgrows := grows_insertRoute hinsert henabled
    exact hgrows.trans (grows_queueInternalSync hqueue (hgrows.enabled _ ▸ henabled))

lemma grows_updateRoute {values : RouteChange} {answer : Option RouteRow}
    (h : updateRoute db now commandId id values = some (db', answer)) : Grows db db' := by
  unfold updateRoute at h
  split at h
  · exact (Prod.mk.inj (Option.some.inj h)).1 ▸ .refl db
  · next current hcurrent =>
    split_ifs at h with hguard
    · exact (Prod.mk.inj (Option.some.inj h)).1 ▸ .refl db
    · have htarget : agentEnabled db (values.gatewayAgentId.getD current.gatewayAgentId) = true := by
        simpa using hguard
      obtain ⟨db₁, hqueue, h⟩ := Option.bind_eq_some_iff.mp h
      obtain rfl := (Prod.mk.inj (Option.some.inj h)).1
      have hmoved : Grows db { db with
          managedRoutes := db.managedRoutes.update (fun r => r.id = id) (changeRoute values)
            fun _ => rfl } := by
        refine grows_moveRoutes ?_
        intro r hr hid
        have hfound := Table.find?_of_mem hr
        rw [of_decide_eq_true hid, hcurrent] at hfound
        obtain rfl := Option.some.inj hfound
        exact htarget
      exact hmoved.trans (grows_queueInternalSync hqueue (hmoved.enabled _ ▸ htarget))

lemma grows_createStack {stackId : String} {values : StackValues} {answer : Creation}
    (h : createStack db now stackId commandId values = some (db', answer)) : Grows db db' := by
  unfold createStack at h
  split_ifs at h with hguard
  · exact (Prod.mk.inj (Option.some.inj h)).1 ▸ .refl db
  · have henabled : agentEnabled db values.agentId = true := by simpa using hguard
    obtain ⟨db₁, hinsert, h⟩ := Option.bind_eq_some_iff.mp h
    obtain ⟨db₂, hqueue, h⟩ := Option.bind_eq_some_iff.mp h
    obtain rfl := (Prod.mk.inj (Option.some.inj h)).1
    have hgrows := grows_insertStack hinsert henabled
    exact hgrows.trans (grows_queueInternalSync hqueue (hgrows.enabled _ ▸ henabled))

lemma grows_updateStack {stackId : String} {values : StackChange} {answer : Creation}
    (h : updateStack db now commandId stackId values = some (db', answer)) : Grows db db' := by
  unfold updateStack at h
  split at h
  · exact (Prod.mk.inj (Option.some.inj h)).1 ▸ .refl db
  · next stack hstack =>
    have henabled := (Option.filter_eq_some_iff.mp hstack).2
    obtain ⟨db₁, hqueue, h⟩ := Option.bind_eq_some_iff.mp h
    obtain rfl := (Prod.mk.inj (Option.some.inj h)).1
    refine Grows.trans (.of_refs (refs_updateStacks ?_)) (grows_queueInternalSync hqueue henabled)
    exact fun _ => rfl

lemma grows_queueForStack {stackId type payload : String} {answer : Creation}
    (h : queueForStack db now commandId stackId type payload = some (db', answer)) :
    Grows db db' := by
  unfold queueForStack at h
  split at h
  · exact (Prod.mk.inj (Option.some.inj h)).1 ▸ .refl db
  · next stack hstack =>
    have hguard := (Option.filter_eq_some_iff.mp hstack).2
    obtain ⟨db₁, hcommand, h⟩ := Option.bind_eq_some_iff.mp h
    obtain rfl := (Prod.mk.inj (Option.some.inj h)).1
    exact grows_insertCommand hcommand (.inl (Bool.and_eq_true_iff.mp hguard).2)

lemma grows_insertRevision {r : RevisionRow}
    (h : DeploymentHistory.insertRevision db r = some db') : Grows db db' := by
  obtain ⟨revisions, -, h⟩ := Option.bind_eq_some_iff.mp h
  exact Option.some.inj h ▸ .of_refs rfl

lemma grows_createDeployment {deploymentId revisionId : String}
    {values : DeploymentHistory.DeploymentValues} {answer : Creation}
    (h : DeploymentHistory.createDeployment db deploymentId revisionId values =
      some (db', answer)) : Grows db db' := by
  unfold DeploymentHistory.createDeployment at h
  split_ifs at h with hguard
  · exact (Prod.mk.inj (Option.some.inj h)).1 ▸ .refl db
  · have hready : agentReady db values.agentId = true := by simpa using hguard
    obtain ⟨db₁, hinsert, h⟩ := Option.bind_eq_some_iff.mp h
    obtain ⟨db₂, hrevision, h⟩ := Option.bind_eq_some_iff.mp h
    obtain rfl := (Prod.mk.inj (Option.some.inj h)).1
    exact (grows_insertDeployment hinsert (enabled_of_ready hready)).trans
      (grows_insertRevision hrevision)

lemma grows_createDeploymentRevision
    {revisionId deploymentId sourceRepository normalizedCompose checksum : String}
    {answer : Creation}
    (h : DeploymentHistory.createDeploymentRevision db revisionId deploymentId sourceRepository
      normalizedCompose checksum = some (db', answer)) : Grows db db' := by
  unfold DeploymentHistory.createDeploymentRevision at h
  split at h
  · exact (Prod.mk.inj (Option.some.inj h)).1 ▸ .refl db
  · split_ifs at h
    · exact (Prod.mk.inj (Option.some.inj h)).1 ▸ .refl db
    · obtain ⟨db₁, hrevision, h⟩ := Option.bind_eq_some_iff.mp h
      obtain rfl := (Prod.mk.inj (Option.some.inj h)).1
      exact grows_insertRevision hrevision

/-! ### Commands handed out and ended -/

lemma active_of_status {c : CommandRow} (h : c.status = .pending ∨ c.status = .claimed) :
    active c = true := by
  rcases h with h | h
  · rw [active, h]
    rfl
  · rw [active, h]
    rfl

lemma not_active_completeRow (ending : Ending) (c : CommandRow) :
    ¬ active (completeRow now ending result c) = true := by
  cases ending with
  | succeeded => exact Bool.false_ne_true
  | failed => exact Bool.false_ne_true

lemma grows_claimCommands {limit : Nat} {locked : String → Bool} :
    Grows db (claimCommands db now agentId limit locked).1 := by
  unfold claimCommands
  refine Grows.trans (grows_updateCommands ?_ ?_)
    (.of_refs (refs_foldl (fun db c => refs_startWork c) _ _))
  · exact fun _ => rfl
  · intro c hc hid _
    exact active_of_status (eligible_status (mem_selected ((selected_contains hc).mp hid)).2).2

lemma grows_completeCommand {ending : Ending} {answer : Completion}
    (h : completeCommand db now agentId commandId ending result = some (db', answer)) :
    Grows db db' := by
  rcases LockStep.completeCommand_cases h with rfl | ⟨current, kept, -, -, -, hfinish⟩
  · exact .refl _
  · refine Grows.trans (grows_updateCommands ?_ ?_) (.of_refs (refs_finishWork hfinish))
    · exact fun _ => rfl
    · exact fun c _ _ hactive => absurd hactive (not_active_completeRow ending c)

lemma grows_failStaleCommands {staleBefore : Time} :
    Grows db (failStaleCommands db now staleBefore) := by
  unfold failStaleCommands
  refine Grows.trans (grows_updateCommands ?_ ?_)
    (.of_refs (refs_foldl (fun db c => refs_failWork c) _ _))
  · exact fun _ => rfl
  · exact fun c _ _ hactive => absurd hactive (not_active_completeRow .failed c)

lemma grows_purgeRuntimeLogResults {completedBefore : Time} :
    Grows db (purgeRuntimeLogResults db completedBefore) := by
  unfold purgeRuntimeLogResults
  refine Grows.trans (.of_refs (refs_updateOperations ?_)) (grows_updateCommands ?_ ?_)
  · exact fun _ => rfl
  · exact fun _ => rfl
  · exact fun _ _ _ hactive => hactive

lemma grows_transaction {t : Transaction} (hguarded : guarded t = true) (h : t.run db db') :
    Grows db db' := by
  cases t with
  | createBackup => exact grows_createBackup h.choose_spec
  | createRestore => exact grows_createRestore h.choose_spec
  | createRuntimeOperation => exact grows_createRuntimeOperation h.choose_spec
  | createRuntimeLogRequest => exact grows_createRuntimeLogRequest h.choose_spec
  | createDeploymentRun => exact grows_createDeploymentRun h.choose_spec
  | createCommand => exact grows_createCommand h.choose_spec
  | createConnector => exact grows_createConnector h.choose_spec
  | updateConnector => exact grows_updateConnector h.choose_spec
  | createRoute => exact grows_createRoute h.choose_spec
  | updateRoute => exact grows_updateRoute h.choose_spec
  | queueStackSync => cases hguarded
  | claimCommands => exact h ▸ grows_claimCommands
  | completeCommand => exact grows_completeCommand h.choose_spec
  | failStaleCommands => exact h ▸ grows_failStaleCommands
  | purgeRuntimeLogResults => exact h ▸ grows_purgeRuntimeLogResults
  | other => cases hguarded

/-- **Step lemma.** A transaction refers to no further agents but those that may get work. -/
lemma grows_writes (h : Writes db db') : Grows db db' := by
  cases h with
  | transaction t hguarded run => exact grows_transaction hguarded run
  | createStack _ _ _ _ _ run => exact grows_createStack run
  | updateStack _ _ _ _ _ run => exact grows_updateStack run
  | queueStackAction _ _ _ _ _ _ run => exact grows_queueForStack run
  | queueLogRequest _ _ _ _ _ run => exact grows_queueForStack run
  | createDeployment _ _ _ _ run => exact grows_createDeployment run
  | createDeploymentRevision _ _ _ _ _ _ run => exact grows_createDeploymentRevision run
  | other agents commands operations connectors managedStacks deployments managedRoutes =>
    refine .of_refs ?_
    rw [refs, agents, commands, operations, connectors, managedStacks, deployments, managedRoutes]
    rfl

end

end GatewayControl.AgentReferences
