import GatewayControl.Store

/-!
Which agents are in contact: heartbeats and telemetry clear the offline mark that the
sweep sets, and the marks are announced as events.

Telemetry is as `validateTelemetry` leaves it; a certificate's expiry comes with the time
that `Date.parse` reads in it.
-/

namespace GatewayControl.AgentPresence

open Database (Time Event RuntimeStatus ConnectorRow)
open Store (nullableText jsonParameter)

/-! ### Rows -/

structure AgentRow where
  id : String
  name : String
  enabled : Bool := true
  enrolledAt : Option Time := none
  lastHeartbeatAt : Option Time := none
  lastMetadata : Option Json := none
  lastTelemetryAt : Option Time := none
  offlineDetectedAt : Option Time := none
  archivedAt : Option Time := none

structure Service where
  name : String
  projectName : String
  serviceName : String
  status : String
  certificateExpiresAt : Option (String × Time) := none

structure TelemetrySnapshot where
  agentId : String
  observedAt : Time
  node : Json
  services : List Service
  createdAt : Time

structure Registry where
  agents : Table AgentRow String AgentRow.id := ∅
  connectors : Table ConnectorRow String ConnectorRow.id := ∅
  snapshots : List TelemetrySnapshot := []
  events : List Event := []

namespace Registry

def enqueueEvent (db : Registry) (e : Event) : Registry := { db with events := db.events ++ [e] }

def updateAgents (db : Registry) (p : AgentRow → Bool) (f : AgentRow → AgentRow)
    (hf : ∀ a, (f a).id = a.id) : Registry :=
  { db with agents := db.agents.update p f hf }

end Registry

/-! ### Heartbeats -/

def runtimeStatus? : String → Option RuntimeStatus
  | "connected" => some .connected
  | "origin_unhealthy" => some .originUnhealthy
  | "reconnecting" => some .reconnecting
  | "stopped" => some .stopped
  | "failed" => some .failed
  | _ => none

/-- One entry of the diagnostics; `uuid` is how PostgreSQL reads one. A status that only
reads as a known one once it is made a string is sent as it is, and refused. -/
def observeConnector (uuid : String → Option String) (agentId : String) (db : Registry)
    (entry : String × Json) : Option Registry :=
  match (entry.2.get? "status").map fun status => (status, runtimeStatus? status.jsString) with
  | some (.str _, some runtimeStatus) => do
      let id ← uuid entry.1
      let lastError ← nullableText (match entry.2.get? "error" with
        | some (.str error) => some (Json.sliceText 1000 error)
        | _ => none)
      let connectors := db.connectors.update
        (fun c => c.id = id && c.agentId = agentId && c.enabled)
        (fun c => { c with runtimeStatus, lastError }) fun _ => rfl
      return { db with connectors }
  | some (_, some _) => none
  | _ => some db

def diagnosedConnectors (metadata : Json) : List (String × Json) :=
  Json.entries ((metadata.get? "diagnostics").bind (·.get? "connectors"))

def recoveredEvent (id : String) (a : AgentRow) : Event :=
  { type := "agent.recovered", agentId := some id, payload := [("agentName", a.name)] }

def heartbeatAgent (uuid : String → Option String) (db : Registry) (now : Time) (id : String)
    (metadata : Json) : Option Registry := do
  let current := db.agents.find? id
  let stored ← jsonParameter metadata
  let after := db.updateAgents (·.id = id)
    (fun a => { a with
      lastHeartbeatAt := some now
      lastMetadata := some stored
      offlineDetectedAt := none })
    fun _ => rfl
  let after := match current.filter (·.offlineDetectedAt.isSome) with
    | some a => after.enqueueEvent (recoveredEvent id a)
    | none => after
  ((diagnosedConnectors metadata).take 100).foldlM (observeConnector uuid id) after

/-! ### Telemetry -/

def monthMs : Nat := 30 * 86400000

/-- What one service of a snapshot announces, beside what the agent reported of it before. -/
def serviceEvents (clock : Time) (agentId : String) (previous : Option Service) (s : Service) :
    List Event :=
  let event (type : String) (payload : List (String × String)) : Event :=
    { type, agentId := some agentId, projectName := some s.projectName,
      serviceName := some s.serviceName, payload := ("service", s.name) :: payload }
  let previousStatus := (previous.map (·.status)).getD "unknown"
  (if s.status = "unhealthy" ∧ previousStatus ≠ "unhealthy" then
    [event "service.unhealthy" []] else []) ++
  (if s.status = "stopped" ∧ previousStatus ≠ "stopped" then
    [event "service.stopped" []] else []) ++
  (if s.status ∈ ["healthy", "running"] ∧ previousStatus ∈ ["unhealthy", "stopped"] then
    [event "service.recovered" [("previousStatus", previousStatus)]] else []) ++
  (match s.certificateExpiresAt with
    | some (text, expiresAt) =>
        if expiresAt ≤ clock + monthMs ∧
            (previous.bind (·.certificateExpiresAt)).map Prod.fst ≠ some text then
          [event "certificate.expiring" [("expiresAt", text)]] else []
    | none => [])

def laterSnapshot (last : Option TelemetrySnapshot) (t : TelemetrySnapshot) :
    Option TelemetrySnapshot :=
  match last with
  | some l => if l.createdAt ≤ t.createdAt then some t else some l
  | none => some t

/-- `ORDER BY created_at DESC LIMIT 1`. -/
def lastSnapshot (db : Registry) (agentId : String) : Option TelemetrySnapshot :=
  (db.snapshots.filter (·.agentId = agentId)).foldl laterSnapshot none

/-- Refused for an agent that is gone. -/
def recordTelemetry (db : Registry) (now clock : Time) (agentId : String) (observedAt : Time)
    (node : Json) (services : List Service) : Option Registry := do
  guard (db.agents.find? agentId).isSome
  let node ← jsonParameter node
  let previous := ((lastSnapshot db agentId).map (·.services)).getD []
  let after := db.updateAgents (·.id = agentId)
    (fun a => { a with lastTelemetryAt := some now, offlineDetectedAt := none }) fun _ => rfl
  let announced := services.flatMap fun s =>
    serviceEvents clock agentId (previous.reverse.find? (·.name = s.name)) s
  return { after with
    snapshots := db.snapshots ++ [{ agentId, observedAt, node, services, createdAt := now }]
    events := db.events ++ announced }

/-! ### The sweep -/

def goneQuiet (offlineBefore : Time) (a : AgentRow) : Bool :=
  a.enabled && a.enrolledAt.isSome && a.lastHeartbeatAt.any (· < offlineBefore) &&
    a.offlineDetectedAt.isNone

def offlineEvent (a : AgentRow) : Event :=
  { type := "agent.offline", agentId := some a.id,
    payload := [("agentId", a.id), ("agentName", a.name)] }

def sweepOfflineAgents (db : Registry) (now offlineBefore : Time) : Registry :=
  let after := db.updateAgents (goneQuiet offlineBefore)
    (fun a => { a with offlineDetectedAt := some now }) fun _ => rfl
  { after with
    events := db.events ++ (db.agents.rows.filter (goneQuiet offlineBefore)).map offlineEvent }

/-! ### Agents come and go -/

def createAgent (db : Registry) (id name : String) : Option Registry := do
  let agents ← db.agents.insert? { id, name }
  return { db with agents }

def enrollAgent (db : Registry) (now : Time) (id : String) : Registry :=
  db.updateAgents (fun a => a.id = id && a.enrolledAt.isNone && a.enabled)
    (fun a => { a with enrolledAt := some now }) fun _ => rfl

/-- `blocked` and `commands` are what the tables of connectors, stacks, routes, deployments,
backups and commands say of the agent. -/
def removeAgent (db : Registry) (now : Time) (id : String) (blocked commands : Bool) :
    Registry :=
  match db.agents.find? id with
  | none => db
  | some a =>
    let referenced := commands || db.snapshots.any (·.agentId = id) ||
      db.events.any (·.agentId = some id)
    if a.archivedAt.isSome || blocked then db
    else if a.enrolledAt.isNone && !referenced then
      { db with agents := db.agents.delete (·.id = id) }
    else db.updateAgents (·.id = id)
      (fun a => { a with
        enabled := false
        archivedAt := some now
        offlineDetectedAt := none })
      fun _ => rfl

inductive Call where
  | createAgent (id name : String)
  | enrollAgent (now : Time) (id : String)
  | removeAgent (now : Time) (id : String) (blocked commands : Bool)
  | heartbeatAgent (now : Time) (id : String) (metadata : Json)
  | recordTelemetry (now clock : Time) (agentId : String) (observedAt : Time) (node : Json)
      (services : List Service)
  | sweepOfflineAgents (now offlineBefore : Time)

/-- `none`: the transaction fails and leaves everything as it was. -/
def Call.perform (uuid : String → Option String) (db : Registry) : Call → Option Registry
  | createAgent id name => AgentPresence.createAgent db id name
  | enrollAgent now id => some (AgentPresence.enrollAgent db now id)
  | removeAgent now id blocked commands =>
      some (AgentPresence.removeAgent db now id blocked commands)
  | heartbeatAgent now id metadata => AgentPresence.heartbeatAgent uuid db now id metadata
  | recordTelemetry now clock agentId observedAt node services =>
      AgentPresence.recordTelemetry db now clock agentId observedAt node services
  | sweepOfflineAgents now offlineBefore =>
      some (AgentPresence.sweepOfflineAgents db now offlineBefore)

def Call.telemetryOf : Call → Option String
  | recordTelemetry _ _ agentId _ _ _ => some agentId
  | _ => none

/-- Every state reached by calls that `ok` allows, at whatever times. -/
inductive Run (uuid : String → Option String) (ok : Registry → Call → Prop) : Registry → Prop
  | start : Run uuid ok {}
  | call {db db' : Registry} {c : Call} (h : Run uuid ok db) (hok : ok db c)
      (hc : c.perform uuid db = some db') : Run uuid ok db'

end GatewayControl.AgentPresence
