import GatewayControl.Transactions
import Mathlib.Logic.Relation

/-!
The transactions that create and place, statement by statement: each is a sequence of
statements of a few kinds, so that what every such transaction keeps is shown once for each
kind of statement.
-/

namespace GatewayControl.Statements

open Database Placement Store Transactions

/-- A new pending command or operation, a link between the two, a pending command rewritten,
the status of deployments, or a write of other tables; `k` says which kinds of operation are
created. -/
inductive Statement (k : OperationKind → Prop) (db db' : Db) : Prop where
  | insertCommand (now : Time) (commandId agentId : String) (work : Work)
      (run : insertCommand db now commandId agentId work = some db')
  | insertOperation (op : OperationRow) (kind : k op.kind) (pending : op.status = .pending)
      (run : insertOperation db op = some db')
  | linkCommand (key : OperationKind × String) (commandId : String)
      (run : db' = linkCommand db key commandId)
  | requeue (p : CommandRow → Bool) (work : Work) (now : Time)
      (pending : ∀ c, p c → c.status = .pending)
      (run : db' = db.updateCommands p (fun c => { c with work, createdAt := now }) fun _ => rfl)
  | deploymentStatus (p : DeploymentRow → Bool) (status : RolloutStatus)
      (run : db' = setDeployment db p (fun d => { d with status }) fun _ => rfl)
  | rest (commands : db'.commands = db.commands) (operations : db'.operations = db.operations)
      (deployments : db'.deployments = db.deployments) (revisions : db'.revisions = db.revisions)
      (events : db'.events = db.events)

abbrev Sequence (k : OperationKind → Prop) : Db → Db → Prop :=
  Relation.ReflTransGen (Statement k)

/-- The kind of operation that a transaction creates. -/
def creates : Transaction → Option OperationKind
  | .createBackup _ _ _ _ _ => some .backup
  | .createRestore _ _ _ _ => some .restore
  | .createRuntimeOperation _ _ _ _ _ _ _ _ => some .action
  | .createRuntimeLogRequest _ _ _ _ _ _ _ _ => some .logs
  | .createDeploymentRun _ _ _ _ _ _ => some .deployment
  | _ => none

/-- Handing commands out, recording how they end, the two sweeps, and what stands for every
other transaction. -/
def special : Transaction → Bool
  | .claimCommands _ _ _ _ | .completeCommand _ _ _ _ _ | .failStaleCommands _ _
  | .purgeRuntimeLogResults _ | .other => true
  | _ => false

section

variable {k : OperationKind → Prop} {db db' : Db} {now : Time}

lemma sequence_insertCommand {commandId agentId : String} {work : Work}
    (h : insertCommand db now commandId agentId work = some db') : Sequence k db db' :=
  .single (.insertCommand now commandId agentId work h)

lemma sequence_insertOperation {op : OperationRow} (h : insertOperation db op = some db')
    (hkind : k op.kind) (hstatus : op.status = .pending) : Sequence k db db' :=
  .single (.insertOperation op hkind hstatus h)

lemma sequence_rest {db₁ : Db} (h : Sequence k db₁ db') (hc : db₁.commands = db.commands)
    (ho : db₁.operations = db.operations) (hd : db₁.deployments = db.deployments)
    (hr : db₁.revisions = db.revisions) (he : db₁.events = db.events) : Sequence k db db' :=
  .head (.rest hc ho hd hr he) h

/-! ### Connectors, routes and stacks -/

lemma sequence_queueConnectorSync {commandId agentId connectorId : String}
    {revision : Nat} {stopping : Bool}
    (h : queueConnectorSync db now commandId agentId connectorId revision stopping = some db') :
    Sequence k db db' := by
  unfold queueConnectorSync at h
  dsimp only at h
  generalize hstatus : connectorStatus db connectorId (if stopping then .stopping else .pending) =
    db₁ at h
  have hsame : Sequence k db db₁ := by
    rw [← hstatus]
    exact .single (.rest rfl rfl rfl rfl rfl)
  split_ifs at h with hpending
  · obtain rfl := Option.some.inj h
    refine hsame.tail (.requeue _ _ _ ?_ rfl)
    exact fun c hc => (isPendingSync_spec hc).2.1
  · exact hsame.trans (sequence_insertCommand h)

lemma sequence_createConnector {connectorId commandId : String}
    {values : ConnectorValues} {answer : Option ConnectorRow}
    (h : createConnector db now connectorId commandId values = some (db', answer)) :
    Sequence k db db' := by
  unfold createConnector at h
  split_ifs at h with hready henabled
  · obtain rfl := (Prod.mk.inj (Option.some.inj h)).1
    exact .refl
  all_goals
    obtain ⟨db₁, hinsert, h⟩ := Option.bind_eq_some_iff.mp h
    obtain ⟨connectors, -, hinsert⟩ := Option.bind_eq_some_iff.mp hinsert
    obtain rfl := Option.some.inj hinsert
  · obtain ⟨db₂, hqueue, h⟩ := Option.bind_eq_some_iff.mp h
    obtain rfl := (Prod.mk.inj (Option.some.inj h)).1
    exact sequence_rest (sequence_queueConnectorSync hqueue) rfl rfl rfl rfl rfl
  · obtain rfl := (Prod.mk.inj (Option.some.inj h)).1
    exact .single (.rest rfl rfl rfl rfl rfl)

lemma sequence_queueRemoval {commandId : String} {values : ConnectorChange}
    {current : ConnectorRow} (h : queueRemoval db now commandId values current = some db') :
    Sequence k db db' := by
  unfold queueRemoval at h
  split_ifs at h with hmove
  · exact sequence_insertCommand h
  · obtain rfl := Option.some.inj h
    exact .refl

lemma sequence_updateConnector {removeCommandId syncCommandId id : String}
    {values : ConnectorChange} {answer : Option ConnectorRow}
    (h : updateConnector db now removeCommandId syncCommandId id values = some (db', answer)) :
    Sequence k db db' := by
  unfold updateConnector at h
  split at h
  · obtain rfl := (Prod.mk.inj (Option.some.inj h)).1
    exact .refl
  · split_ifs at h
    iterate 3
      · obtain rfl := (Prod.mk.inj (Option.some.inj h)).1
        exact .refl
    obtain ⟨db₁, hremove, h⟩ := Option.bind_eq_some_iff.mp h
    obtain ⟨db₂, hqueue, h⟩ := Option.bind_eq_some_iff.mp h
    obtain rfl := (Prod.mk.inj (Option.some.inj h)).1
    refine (sequence_queueRemoval hremove).trans ?_
    exact sequence_rest (sequence_queueConnectorSync hqueue) rfl rfl rfl rfl rfl

lemma sequence_queueInternalSync {commandId agentId : String} {work : Work}
    (h : queueInternalSync db now commandId agentId work = some db') : Sequence k db db' := by
  unfold queueInternalSync at h
  split_ifs at h with hpending
  · obtain rfl := Option.some.inj h
    exact .refl
  · exact sequence_insertCommand h

lemma sequence_createRoute {routeId commandId : String} {values : RouteValues}
    {answer : Option RouteRow}
    (h : createRoute db now routeId commandId values = some (db', answer)) :
    Sequence k db db' := by
  unfold createRoute at h
  split_ifs at h with henabled
  · obtain rfl := (Prod.mk.inj (Option.some.inj h)).1
    exact .refl
  · obtain ⟨db₁, hinsert, h⟩ := Option.bind_eq_some_iff.mp h
    obtain ⟨db₂, hqueue, h⟩ := Option.bind_eq_some_iff.mp h
    obtain rfl := (Prod.mk.inj (Option.some.inj h)).1
    obtain ⟨managedRoutes, -, hinsert⟩ := Option.bind_eq_some_iff.mp hinsert
    obtain rfl := Option.some.inj hinsert
    exact sequence_rest (sequence_queueInternalSync hqueue) rfl rfl rfl rfl rfl

lemma sequence_updateRoute {commandId id : String} {values : RouteChange}
    {answer : Option RouteRow}
    (h : updateRoute db now commandId id values = some (db', answer)) : Sequence k db db' := by
  unfold updateRoute at h
  split at h
  · obtain rfl := (Prod.mk.inj (Option.some.inj h)).1
    exact .refl
  · split_ifs at h with henabled
    · obtain rfl := (Prod.mk.inj (Option.some.inj h)).1
      exact .refl
    · obtain ⟨db₁, hqueue, h⟩ := Option.bind_eq_some_iff.mp h
      obtain rfl := (Prod.mk.inj (Option.some.inj h)).1
      exact sequence_rest (sequence_queueInternalSync hqueue) rfl rfl rfl rfl rfl

lemma sequence_queueStackSync {commandId stackId : String}
    (h : queueStackSync db now commandId stackId = some db') : Sequence k db db' := by
  unfold queueStackSync at h
  split at h
  · obtain rfl := Option.some.inj h
    exact .refl
  · exact sequence_queueInternalSync h

/-! ### Operations and commands -/

variable {operationId commandId : String} {answer : Creation}

/-- A command and its operation, in this order. -/
lemma sequence_commandFirst {agentId : String} {work : Work} {op : OperationRow}
    (h : ((insertCommand db now commandId agentId work).bind fun db =>
      (insertOperation db op).bind fun db => some (db, Creation.created)) = some (db', answer))
    (hkind : k op.kind) (hstatus : op.status = .pending) :
    Sequence k db db' := by
  obtain ⟨db₁, hcommand, h⟩ := Option.bind_eq_some_iff.mp h
  obtain ⟨db₂, hoperation, h⟩ := Option.bind_eq_some_iff.mp h
  obtain rfl := (Prod.mk.inj (Option.some.inj h)).1
  exact (sequence_insertCommand hcommand).trans
    (sequence_insertOperation hoperation hkind hstatus)

/-- An operation and its command, in this order, and the link. -/
lemma sequence_operationFirst {db₁ db₂ : Db} {agentId : String} {work : Work}
    {op : OperationRow} (hoperation : insertOperation db op = some db₁)
    (hcommand : insertCommand db₁ now commandId agentId work = some db₂)
    (hkind : k op.kind) (hstatus : op.status = .pending) (key : OperationKind × String) :
    Sequence k db (linkCommand db₂ key commandId) := by
  have hsequence := sequence_insertOperation hoperation hkind hstatus
  exact (hsequence.trans (sequence_insertCommand hcommand)).tail
    (.linkCommand key commandId rfl)

lemma sequence_createBackup {stackId target : String} (hk : k .backup)
    (h : createBackup db now operationId commandId stackId target = some (db', answer)) :
    Sequence k db db' := by
  unfold createBackup at h
  split at h
  · obtain rfl := (Prod.mk.inj (Option.some.inj h)).1
    exact .refl
  · split_ifs at h
    iterate 2
      · obtain rfl := (Prod.mk.inj (Option.some.inj h)).1
        exact .refl
    exact sequence_commandFirst h hk rfl

lemma sequence_createRestore {backupId : String} (hk : k .restore)
    (h : createRestore db now operationId commandId backupId = some (db', answer)) :
    Sequence k db db' := by
  unfold createRestore at h
  split at h
  · split_ifs at h
    iterate 2
      · obtain rfl := (Prod.mk.inj (Option.some.inj h)).1
        exact .refl
    exact sequence_commandFirst h hk rfl
  · obtain rfl := (Prod.mk.inj (Option.some.inj h)).1
    exact .refl

lemma sequence_createRuntimeOperation {agentId action scope projectName : String}
    {serviceName : Option String} (hk : k .action)
    (h : createRuntimeOperation db now operationId commandId agentId action scope projectName
      serviceName = some (db', answer)) : Sequence k db db' := by
  unfold createRuntimeOperation at h
  split_ifs at h
  iterate 2
    · obtain rfl := (Prod.mk.inj (Option.some.inj h)).1
      exact .refl
  dsimp only at h
  split at h
  · obtain rfl := (Prod.mk.inj (Option.some.inj h)).1
    exact .refl
  · next hinserted =>
    obtain rfl := (Prod.mk.inj (Option.some.inj h)).1
    obtain ⟨db₁, hoperation, hcommand⟩ := Option.bind_eq_some_iff.mp hinserted
    exact sequence_operationFirst hoperation hcommand hk rfl _

lemma sequence_createRuntimeLogRequest {agentId projectName serviceName : String} {tail : Nat}
    {since : Option String} (hk : k .logs)
    (h : createRuntimeLogRequest db now operationId commandId agentId projectName serviceName
      tail since = some (db', answer)) : Sequence k db db' := by
  unfold createRuntimeLogRequest at h
  split_ifs at h
  · obtain rfl := (Prod.mk.inj (Option.some.inj h)).1
    exact .refl
  · obtain ⟨db₁, hoperation, h⟩ := Option.bind_eq_some_iff.mp h
    obtain ⟨db₂, hcommand, h⟩ := Option.bind_eq_some_iff.mp h
    obtain rfl := (Prod.mk.inj (Option.some.inj h)).1
    exact sequence_operationFirst hoperation hcommand hk rfl _

lemma sequence_createDeploymentRun {deploymentId revisionId action : String}
    (hk : k .deployment)
    (h : createDeploymentRun db now operationId commandId deploymentId revisionId action =
      some (db', answer)) : Sequence k db db' := by
  unfold createDeploymentRun at h
  split at h
  · obtain rfl := (Prod.mk.inj (Option.some.inj h)).1
    exact .refl
  · split at h
    · obtain rfl := (Prod.mk.inj (Option.some.inj h)).1
      exact .refl
    · split at h
      · obtain rfl := (Prod.mk.inj (Option.some.inj h)).1
        exact .refl
      · obtain ⟨db₁, hcommand, h⟩ := Option.bind_eq_some_iff.mp h
        obtain ⟨db₂, hoperation, h⟩ := Option.bind_eq_some_iff.mp h
        obtain rfl := (Prod.mk.inj (Option.some.inj h)).1
        have hsequence := sequence_insertOperation hoperation hk rfl
        exact ((sequence_insertCommand hcommand).trans hsequence).tail
          (.deploymentStatus _ _ rfl)

lemma sequence_createCommand {agentId type payload : String}
    (h : createCommand db now commandId agentId type payload = some (db', answer)) :
    Sequence k db db' := by
  unfold createCommand at h
  split_ifs at h
  · obtain rfl := (Prod.mk.inj (Option.some.inj h)).1
    exact .refl
  · obtain ⟨db₁, hcommand, h⟩ := Option.bind_eq_some_iff.mp h
    obtain rfl := (Prod.mk.inj (Option.some.inj h)).1
    exact sequence_insertCommand hcommand

/-- Every transaction that creates or places is a sequence of such statements. -/
lemma sequence_transaction {t : Transaction} (hspecial : special t = false)
    (hk : ∀ kind, creates t = some kind → k kind) (h : t.run db db') : Sequence k db db' := by
  cases t with
  | createBackup =>
    obtain ⟨_, h⟩ := h
    exact sequence_createBackup (hk _ rfl) h
  | createRestore =>
    obtain ⟨_, h⟩ := h
    exact sequence_createRestore (hk _ rfl) h
  | createRuntimeOperation =>
    obtain ⟨_, h⟩ := h
    exact sequence_createRuntimeOperation (hk _ rfl) h
  | createRuntimeLogRequest =>
    obtain ⟨_, h⟩ := h
    exact sequence_createRuntimeLogRequest (hk _ rfl) h
  | createDeploymentRun =>
    obtain ⟨_, h⟩ := h
    exact sequence_createDeploymentRun (hk _ rfl) h
  | createCommand =>
    obtain ⟨_, h⟩ := h
    exact sequence_createCommand h
  | createConnector =>
    obtain ⟨_, h⟩ := h
    exact sequence_createConnector h
  | updateConnector =>
    obtain ⟨_, h⟩ := h
    exact sequence_updateConnector h
  | createRoute =>
    obtain ⟨_, h⟩ := h
    exact sequence_createRoute h
  | updateRoute =>
    obtain ⟨_, h⟩ := h
    exact sequence_updateRoute h
  | queueStackSync => exact sequence_queueStackSync h
  | claimCommands | completeCommand | failStaleCommands | purgeRuntimeLogResults | other =>
    cases hspecial

/-- What each statement keeps, a sequence of them keeps. -/
lemma Sequence.lift {R : Db → Db → Prop} (refl : ∀ db, R db db)
    (trans : ∀ {db₁ db₂ db₃}, R db₁ db₂ → R db₂ db₃ → R db₁ db₃)
    (step : ∀ {db₁ db₂}, Statement k db₁ db₂ → R db₁ db₂) (h : Sequence k db db') :
    R db db' := by
  induction h with
  | refl => exact refl db
  | tail _ hstep ih => exact trans ih (step hstep)

end

end GatewayControl.Statements
