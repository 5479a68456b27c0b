import GatewayControl.JsMap
import GatewayControl.Jsonb
import GatewayControl.Outbox

/-!
Notification preferences: the scopes in the table, the page that shows them, and how they are set.

Of an agent's telemetry the services of its latest snapshot are kept. A text with a null character
is none that PostgreSQL stores.
-/

namespace GatewayControl.NotificationTopology

open Outbox

/-! ### What is stored -/

structure AgentRow where
  id : String
  name : String
  archived : Bool := false

structure Service where
  projectName : String
  serviceName : String
  status : String

structure Store where
  hub : Hub := {}
  agents : List AgentRow := []
  telemetry : String → List Service := fun _ => []

/-- How the rows of the queries are ordered. -/
structure Listing where
  agents : List AgentRow → List AgentRow
  agents_perm : ∀ rows, (agents rows).Perm rows
  services : List (String × Service) → List (String × Service)
  services_perm : ∀ rows, (services rows).Perm rows
  scopes : List ScopeRow → List ScopeRow
  scopes_perm : ∀ rows, (scopes rows).Perm rows

structure Limits where
  maxAgents : ℕ := 100
  maxServices : ℕ := 5000
  maxScopes : ℕ := 5000

/-! ### The topology -/

structure NotificationServicePreference where
  projectName : String
  serviceName : String
  status : String
  discovered : Bool
  enabled : Bool
  inherited : Bool
  directlyEnabled : Bool

structure NotificationAgentPreference where
  id : String
  name : String
  enabled : Bool
  services : List NotificationServicePreference

structure Truncated where
  agents : Bool
  services : Bool
  scopes : Bool

structure Topology where
  agents : List NotificationAgentPreference
  truncated : Truncated

/-- The part of a key that tells the services of an agent apart. -/
def serviceKey (projectName serviceName : String) : String := projectName ++ "\x00" ++ serviceName

def scopeKey (agentId projectName serviceName : String) : String :=
  agentId ++ "\x00" ++ serviceKey projectName serviceName

structure ServiceScope where
  agentId : String
  projectName : String
  serviceName : String
  enabled : Bool

def agentEntry (scope : ScopeRow) : Option (String × Bool) :=
  if scope.projectName.isNone then some (scope.agentId, scope.enabled) else none

def serviceEntry (scope : ScopeRow) : Option (String × ServiceScope) :=
  match scope.projectName, scope.serviceName with
  | some projectName, some serviceName =>
      some (scopeKey scope.agentId projectName serviceName,
        ⟨scope.agentId, projectName, serviceName, scope.enabled⟩)
  | _, _ => none

def agentScopes (rows : List ScopeRow) : JsMap String Bool :=
  JsMap.ofEntries (rows.filterMap agentEntry)

def serviceScopes (rows : List ScopeRow) : JsMap String ServiceScope :=
  JsMap.ofEntries (rows.filterMap serviceEntry)

def agentEnabled (rows : List ScopeRow) (agentId : String) : Bool :=
  ((agentScopes rows).get agentId).getD true

def directEnabled (rows : List ScopeRow) (agentId projectName serviceName : String) : Bool :=
  (((serviceScopes rows).get (scopeKey agentId projectName serviceName)).map
    ServiceScope.enabled).getD true

def discovered (rows : List ScopeRow) (agentId : String) (service : Service) :
    NotificationServicePreference :=
  let agentEnabled := agentEnabled rows agentId
  let directEnabled := directEnabled rows agentId service.projectName service.serviceName
  { projectName := service.projectName
    serviceName := service.serviceName
    status := service.status
    discovered := true
    enabled := agentEnabled && directEnabled
    inherited := !agentEnabled && directEnabled
    directlyEnabled := directEnabled }

def fromScope (rows : List ScopeRow) (scope : ServiceScope) : NotificationServicePreference :=
  let agentEnabled := agentEnabled rows scope.agentId
  { projectName := scope.projectName
    serviceName := scope.serviceName
    status := "unknown"
    discovered := false
    enabled := agentEnabled && scope.enabled
    inherited := !agentEnabled && scope.enabled
    directlyEnabled := scope.enabled }

/-- The services of an agent: those of its telemetry, then those that only scopes know. -/
def servicesOf (rows : List ScopeRow) (services : List (String × Service)) (agentId : String) :
    JsMap String NotificationServicePreference :=
  let found := (services.filter fun row => row.1 = agentId).foldl (fun m row =>
    JsMap.set m (serviceKey row.2.projectName row.2.serviceName) (discovered rows agentId row.2)) []
  ((serviceScopes rows).values.filter fun scope => scope.agentId = agentId).foldl (fun m scope =>
    let key := serviceKey scope.projectName scope.serviceName
    if JsMap.has m key then m else JsMap.set m key (fromScope rows scope)) found

def getNotificationTopology (limits : Limits) (listing : Listing) (s : Store)
    (agentId : Option String) : Topology :=
  let agentResult := (listing.agents (s.agents.filter fun a =>
    !a.archived && agentId.all (a.id = ·))).take (limits.maxAgents + 1)
  let agentRows := agentResult.take limits.maxAgents
  let agentIds := agentRows.map AgentRow.id
  let servicesResult := (listing.services (agentIds.flatMap fun id =>
    (s.telemetry id).map fun service => (id, service))).take (limits.maxServices + 1)
  let scopesResult := (listing.scopes (s.hub.scopes.filter fun scope =>
    agentIds.contains scope.agentId)).take (limits.maxScopes + 1)
  let scopeRows := scopesResult.take limits.maxScopes
  let services := servicesResult.take limits.maxServices
  { agents := agentRows.map fun row =>
      { id := row.id
        name := row.name
        enabled := agentEnabled scopeRows row.id
        services := (servicesOf scopeRows services row.id).values }
    truncated :=
      { agents := limits.maxAgents < agentResult.length
        services := limits.maxServices < servicesResult.length
        scopes := limits.maxScopes < scopesResult.length } }

/-! ### Setting preferences -/

def sameScope (agentId : String) (projectName serviceName : Option String) (scope : ScopeRow) : Bool :=
  scope.agentId = agentId && scope.projectName = projectName && scope.serviceName = serviceName

/-- `INSERT … ON CONFLICT … DO UPDATE SET enabled`. -/
def upsertScope (scopes : List ScopeRow) (scope : ScopeRow) : List ScopeRow :=
  if scopes.any (sameScope scope.agentId scope.projectName scope.serviceName) then
    scopes.map fun row =>
      if sameScope scope.agentId scope.projectName scope.serviceName row then
        { row with enabled := scope.enabled }
      else row
  else scopes ++ [scope]

def Store.putScope (s : Store) (scope : ScopeRow) : Store :=
  { s with hub := { s.hub with scopes := upsertScope s.hub.scopes scope } }

/-- Whether an agent with that identifier is there and not archived. -/
def Store.hasAgent (s : Store) (agentId : String) : Bool :=
  s.agents.any fun a => a.id = agentId && !a.archived

def setAgentNotificationPreference (limits : Limits) (listing : Listing) (s : Store)
    (agentId : String) (enabled : Bool) : Store × Option NotificationAgentPreference :=
  if s.hasAgent agentId then
    let s := s.putScope ⟨agentId, none, none, enabled⟩
    (s, (getNotificationTopology limits listing s (some agentId)).agents[0]?)
  else (s, none)

/-- `none` when the statement fails, which it does on a null character. -/
def setServiceNotificationPreference (limits : Limits) (listing : Listing) (s : Store)
    (agentId projectName serviceName : String) (enabled : Bool) :
    Option (Store × Option NotificationServicePreference) :=
  if Json.hasNul projectName || Json.hasNul serviceName then none
  else if s.hasAgent agentId &&
      (s.hub.scopes.any (sameScope agentId (some projectName) (some serviceName)) ||
        (s.telemetry agentId).any fun service =>
          service.projectName = projectName && service.serviceName = serviceName) then
    let s := s.putScope ⟨agentId, some projectName, some serviceName, enabled⟩
    some (s, (getNotificationTopology limits listing s (some agentId)).agents[0]?.bind fun a =>
      a.services.find? fun item => item.projectName = projectName && item.serviceName = serviceName)
  else some (s, none)

/-! ### Steps -/

inductive Step where
  | createAgent (agent : AgentRow)
  | archiveAgent (id : String)
  | deleteAgent (id : String)
  | recordTelemetry (agentId : String) (services : List Service)
  | setSettings (settings : NotificationSettings)
  | setAgent (agentId : String) (enabled : Bool)
  | setService (agentId projectName serviceName : String) (enabled : Bool)

/-- A step that fails leaves the store as it is. -/
def step (limits : Limits) (listing : Listing) (s : Store) : Step → Store
  | .createAgent agent =>
      if Json.hasNul agent.id || s.agents.any (fun a => a.id = agent.id) then s
      else { s with agents := s.agents ++ [agent] }
  | .archiveAgent id =>
      { s with agents := s.agents.map fun a => if a.id = id then { a with archived := true } else a }
  | .deleteAgent id =>
      if s.hub.scopes.any (fun scope => scope.agentId = id) then s
      else { s with agents := s.agents.filter fun a => a.id ≠ id }
  | .recordTelemetry agentId services =>
      if services.any fun service =>
          Json.hasNul service.projectName || Json.hasNul service.serviceName then s
      else { s with telemetry := Function.update s.telemetry agentId services }
  | .setSettings settings => { s with hub := { s.hub with settings := some settings } }
  | .setAgent agentId enabled => (setAgentNotificationPreference limits listing s agentId enabled).1
  | .setService agentId projectName serviceName enabled =>
      ((setServiceNotificationPreference limits listing s agentId projectName serviceName
        enabled).map Prod.fst).getD s

end GatewayControl.NotificationTopology
