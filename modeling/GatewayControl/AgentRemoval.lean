import GatewayControl.AgentPresence
import GatewayControl.DeploymentHistory
import GatewayControl.NotificationTopology

/-!
Agents from their creation to their removal, with every table that refers to them.

An agent's row has the columns of the registry and those of its enrolment. The other tables are
those of the store; what its methods read of an agent is derived from the row.
-/

namespace GatewayControl.AgentRemoval

open Database Store Placement
open AgentPresence (Registry TelemetrySnapshot)
open NotificationTopology (sameScope upsertScope)
open Outbox (ScopeRow)
open DeploymentHistory (DeploymentValues)

/-! ### What is stored -/

structure AgentRow extends AgentPresence.AgentRow where
  enrollmentTokenHash : Option String := none
  enrollmentExpiresAt : Option Time := none
  credentialHash : Option String := none

abbrev Agents := Table AgentRow String fun a => a.id

structure State where
  agents : Agents := ∅
  db : Db := {}
  snapshots : List TelemetrySnapshot := []
  scopes : List ScopeRow := []

/-- `agents_enrollment_credential_state_check`. -/
def AgentRow.coherent (a : AgentRow) : Bool :=
  a.archivedAt.isSome || a.credentialHash.isNone == a.enrolledAt.isNone

namespace State

/-- The agents as the methods that create and claim read them. -/
def known (s : State) : Table Database.AgentRow String Database.AgentRow.id :=
  ⟨s.agents.rows.map fun a => ⟨a.id, a.enabled, a.enrolledAt.isSome⟩, by
    rw [List.map_map]
    exact s.agents.distinct⟩

def database (s : State) : Db := { s.db with agents := s.known }

/-- The tables that heartbeats and telemetry write. -/
def registry (s : State) : Registry where
  agents := ⟨s.agents.rows.map AgentRow.toAgentRow, by
    rw [List.map_map]
    exact s.agents.distinct⟩
  connectors := s.db.connectors
  snapshots := s.snapshots
  events := s.db.events

def withRegistry (s : State) (r : Registry) : State where
  agents := s.agents.update (fun _ => true)
    (fun a => { a with toAgentRow := { (r.agents.find? a.id).getD a.toAgentRow with id := a.id } })
    fun _ => rfl
  db := { s.db with connectors := r.connectors, events := r.events }
  snapshots := r.snapshots
  scopes := s.scopes

/-- An agent with that identifier is there and not archived. -/
def hasAgent (s : State) (id : String) : Bool :=
  (s.agents.find? id).any fun a => a.archivedAt.isNone

end State

/-! ### Creation, enrolment and credentials -/

def createAgent (s : State) (id name enrollmentTokenHash : String) (enrollmentExpiresAt : Time) :
    Option State :=
  if s.agents.rows.any fun a => a.name = name then none
  else do
    let agents ← s.agents.insert?
      { id, name, enrollmentTokenHash := some enrollmentTokenHash,
        enrollmentExpiresAt := some enrollmentExpiresAt }
    return { s with agents }

def enrollable (now : Time) (enrollmentTokenHash : String) (a : AgentRow) : Bool :=
  a.enrollmentTokenHash = some enrollmentTokenHash && a.enrollmentExpiresAt.any (now < ·) &&
    a.enrolledAt.isNone && a.enabled

def enroll (now : Time) (credentialHash : String) (a : AgentRow) : AgentRow :=
  { a with
    credentialHash := some credentialHash
    enrolledAt := some now
    enrollmentTokenHash := none
    enrollmentExpiresAt := none }

def enrollAgent (s : State) (now : Time) (enrollmentTokenHash credentialHash : String) :
    State × Option AgentRow :=
  let agents := s.agents.update (enrollable now enrollmentTokenHash) (enroll now credentialHash)
    fun _ => rfl
  ({ s with agents }, (s.agents.rows.find? (enrollable now enrollmentTokenHash)).map
    (enroll now credentialHash))

def authenticateAgent (s : State) (credentialHash : String) : Option AgentRow :=
  s.agents.rows.find? fun a => a.credentialHash = some credentialHash && a.enabled

/-! ### Removal -/

inductive Removal where
  | deleted
  | archived
  | blocked
  | missing
deriving DecidableEq

def active (c : CommandRow) : Bool := c.status == .pending || c.status == .claimed

/-- What keeps an agent from being removed. -/
def blocked (db : Db) (id : String) : Bool :=
  db.connectors.rows.any (·.agentId = id) ||
  db.managedStacks.rows.any (·.agentId = id) ||
  db.deployments.rows.any (·.agentId = id) ||
  db.managedRoutes.rows.any (·.gatewayAgentId = id) ||
  db.operations.rows.any (fun op => op.kind == .backup && op.agentId = id) ||
  db.operations.rows.any (fun op => op.kind == .restore && op.agentId = id) ||
  db.commands.rows.any (fun c => c.agentId = id && active c)

/-- What keeps an agent from being deleted. -/
def State.hasHistory (s : State) (id : String) : Bool :=
  s.db.commands.rows.any (·.agentId = id) ||
  s.snapshots.any (·.agentId = id) ||
  s.db.events.any (·.agentId = some id)

/-- The foreign keys to agents. -/
def State.references (s : State) (id : String) : Bool :=
  s.db.commands.rows.any (·.agentId = id) ||
  s.db.operations.rows.any (·.agentId = id) ||
  s.db.connectors.rows.any (·.agentId = id) ||
  s.db.managedStacks.rows.any (·.agentId = id) ||
  s.db.deployments.rows.any (·.agentId = id) ||
  s.db.managedRoutes.rows.any (·.gatewayAgentId = id) ||
  s.snapshots.any (·.agentId = id) ||
  s.db.events.any (·.agentId = some id) ||
  s.scopes.any (·.agentId = id)

/-- `DELETE`, refused while a row refers to the agent. -/
def State.deleteAgent (s : State) (id : String) : Option State :=
  if s.references id then none
  else some { s with agents := s.agents.delete fun a => a.id = id }

/-- `UPDATE`, refused when a row it leaves breaks the check. -/
def State.updateAgent (s : State) (id : String) (f : AgentRow → AgentRow)
    (hf : ∀ a, (f a).id = a.id) : Option State :=
  if (s.agents.find? id).all fun a => (f a).coherent then
    some { s with agents := s.agents.update (·.id = id) f hf }
  else none

def archive (now : Time) (a : AgentRow) : AgentRow :=
  { a with
    enabled := false
    enrollmentTokenHash := none
    enrollmentExpiresAt := none
    credentialHash := none
    archivedAt := some now
    offlineDetectedAt := none }

/-- `none` when a statement is refused. -/
def removeAgent (s : State) (now : Time) (id : String) : Option (State × Removal) :=
  match (s.agents.find? id).filter (·.archivedAt.isNone) with
  | none => some (s, .missing)
  | some a =>
      if blocked s.db id then some (s, .blocked)
      else if a.enrolledAt.isNone && !s.hasHistory id then do
        let s ← s.deleteAgent id
        return (s, .deleted)
      else do
        let s ← s.updateAgent id (archive now) fun _ => rfl
        return (s, .archived)

/-! ### Stacks and their commands -/

structure StackValues where
  agentId : String
  projectName : String
  enabled : Bool
  postgresBackupConfig : Option AgentTypes.PostgresBackupConfig := none

def insertStack (db : Db) (stack : StackRow) : Option Db := do
  let managedStacks ← db.managedStacks.insert? stack
  return { db with managedStacks }

def createStack (db : Db) (now : Time) (stackId commandId : String) (values : StackValues) :
    Option (Db × Creation) :=
  if !agentEnabled db values.agentId then some (db, .unavailable)
  else do
    let db ← insertStack db
      { id := stackId, agentId := values.agentId, projectName := values.projectName,
        enabled := values.enabled, revision := 1,
        postgresBackupConfig := values.postgresBackupConfig }
    let db ← queueInternalSync db now commandId values.agentId (.stackSync stackId)
    return (db, .created)

structure StackChange where
  enabled : Option Bool := none
  postgresBackupConfig : Option (Option AgentTypes.PostgresBackupConfig) := none

def updateStack (db : Db) (now : Time) (commandId stackId : String) (values : StackChange) :
    Option (Db × Creation) :=
  match (db.managedStacks.find? stackId).filter (agentEnabled db ·.agentId) with
  | none => some (db, .unavailable)
  | some stack => do
      let managedStacks := db.managedStacks.update (fun s => s.id = stackId)
        (fun s => { s with
          enabled := values.enabled.getD s.enabled
          postgresBackupConfig := values.postgresBackupConfig.getD s.postgresBackupConfig
          revision := s.revision + 1
          status := .pending })
        fun _ => rfl
      let db ← queueInternalSync { db with managedStacks } now commandId stack.agentId
        (.stackSync stackId)
      return (db, .created)

/-- A command for the agent of a stack. -/
def queueForStack (db : Db) (now : Time) (commandId stackId type payload : String) :
    Option (Db × Creation) :=
  match (db.managedStacks.find? stackId).filter fun s => s.enabled && agentEnabled db s.agentId with
  | none => some (db, .unavailable)
  | some stack => do
      let db ← insertCommand db now commandId stack.agentId (.plain type payload)
      return (db, .created)

def queueStackAction (db : Db) (now : Time) (commandId stackId : String) (restart : Bool)
    (payload : String) : Option (Db × Creation) :=
  queueForStack db now commandId stackId (if restart then "compose.restart" else "compose.stop")
    payload

def queueLogRequest (db : Db) (now : Time) (commandId stackId payload : String) :
    Option (Db × Creation) :=
  queueForStack db now commandId stackId "service.logs.read" payload

/-! ### Notification preferences -/

def setAgentNotificationPreference (s : State) (agentId : String) (enabled : Bool) : State :=
  if s.hasAgent agentId then
    { s with scopes := upsertScope s.scopes ⟨agentId, none, none, enabled⟩ }
  else s

def setServiceNotificationPreference (s : State) (agentId projectName serviceName : String)
    (enabled : Bool) : State :=
  if s.hasAgent agentId &&
      (s.scopes.any (sameScope agentId (some projectName) (some serviceName)) ||
        (AgentPresence.lastSnapshot s.registry agentId).any fun snapshot =>
          snapshot.services.any fun service =>
            service.projectName = projectName && service.serviceName = serviceName) then
    { s with scopes := upsertScope s.scopes ⟨agentId, some projectName, some serviceName, enabled⟩ }
  else s

/-! ### Steps -/

/-- The transactions whose guards are all their own. -/
def guarded : Transactions.Transaction → Bool
  | .queueStackSync _ _ _ | .other => false
  | _ => true

/-- A transaction on the other tables. Every other method adds no row to them and moves none to
another agent. -/
inductive Writes (db db' : Db) : Prop where
  | transaction (t : Transactions.Transaction) (hguarded : guarded t = true) (run : t.run db db')
  | createStack (now : Time) (stackId commandId : String) (values : StackValues)
      (answer : Creation)
      (run : createStack db now stackId commandId values = some (db', answer))
  | updateStack (now : Time) (commandId stackId : String) (values : StackChange)
      (answer : Creation)
      (run : updateStack db now commandId stackId values = some (db', answer))
  | queueStackAction (now : Time) (commandId stackId : String) (restart : Bool) (payload : String)
      (answer : Creation)
      (run : queueStackAction db now commandId stackId restart payload = some (db', answer))
  | queueLogRequest (now : Time) (commandId stackId payload : String) (answer : Creation)
      (run : queueLogRequest db now commandId stackId payload = some (db', answer))
  | createDeployment (deploymentId revisionId : String) (values : DeploymentValues)
      (answer : Creation)
      (run : DeploymentHistory.createDeployment db deploymentId revisionId values =
        some (db', answer))
  | createDeploymentRevision
      (revisionId deploymentId sourceRepository normalizedCompose checksum : String)
      (answer : Creation)
      (run : DeploymentHistory.createDeploymentRevision db revisionId deploymentId
        sourceRepository normalizedCompose checksum = some (db', answer))
  | other (agents : db'.agents = db.agents) (commands : db'.commands = db.commands)
      (operations : db'.operations = db.operations)
      (connectors : db'.connectors.rows.map ConnectorRow.agentId =
        db.connectors.rows.map ConnectorRow.agentId)
      (managedStacks : db'.managedStacks = db.managedStacks)
      (deployments : db'.deployments = db.deployments)
      (managedRoutes : db'.managedRoutes = db.managedRoutes)

/-- A committed transaction; `uuid` is how PostgreSQL reads one. -/
inductive Step (uuid : String → Option String) (s s' : State) : Prop where
  | createAgent (id name enrollmentTokenHash : String) (enrollmentExpiresAt : Time)
      (run : createAgent s id name enrollmentTokenHash enrollmentExpiresAt = some s')
  | enrollAgent (now : Time) (enrollmentTokenHash credentialHash : String)
      (run : s' = (enrollAgent s now enrollmentTokenHash credentialHash).1)
  | removeAgent (now : Time) (id : String) (outcome : Removal)
      (run : removeAgent s now id = some (s', outcome))
  | heartbeatAgent (now : Time) (id : String) (metadata : Json) (r : Registry)
      (run : AgentPresence.heartbeatAgent uuid s.registry now id metadata = some r)
      (next : s' = s.withRegistry r)
  | recordTelemetry (now clock : Time) (agentId : String) (observedAt : Time) (node : Json)
      (services : List AgentPresence.Service) (r : Registry)
      (run : AgentPresence.recordTelemetry s.registry now clock agentId observedAt node services =
        some r)
      (next : s' = s.withRegistry r)
  | sweepOfflineAgents (now offlineBefore : Time)
      (run : s' = s.withRegistry (AgentPresence.sweepOfflineAgents s.registry now offlineBefore))
  | writes (db' : Db) (run : Writes s.database db') (next : s' = { s with db := db' })
  | setAgentNotificationPreference (agentId : String) (enabled : Bool)
      (run : s' = setAgentNotificationPreference s agentId enabled)
  | setServiceNotificationPreference (agentId projectName serviceName : String) (enabled : Bool)
      (run : s' = setServiceNotificationPreference s agentId projectName serviceName enabled)

abbrev Run (uuid : String → Option String) : State → State → Prop :=
  Relation.ReflTransGen (Step uuid)

end GatewayControl.AgentRemoval
