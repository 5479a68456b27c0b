import GatewayControl.Store
import GatewayControl.Text

/-!
Where connectors and routes run: the store's methods that create and move them and queue the
commands that bring the agents up to date.

A pending sync of a connector is rewritten in place; one of a route is left as it is, since
its content is read when it is handed out.
-/

namespace GatewayControl.Placement

open Database Store Text

/-! ### Connectors -/

def connectorStatus (db : Db) (connectorId : String) (status : RolloutStatus) : Db :=
  db.updateConnectors (fun c => c.id = connectorId)
    (fun c => { c with deploymentStatus := status, lastError := none }) fun _ => rfl

def isPendingSync (agentId connectorId : String) (c : CommandRow) : Bool :=
  c.agentId == agentId && c.status == .pending &&
    match c.work with
    | .connectorSync id _ => id == connectorId
    | _ => false

def queueConnectorSync (db : Db) (now : Time) (commandId agentId connectorId : String)
    (revision : Nat) (stopping : Bool) : Option Db :=
  let db := connectorStatus db connectorId (if stopping then .stopping else .pending)
  if db.commands.rows.any (isPendingSync agentId connectorId) then
    some (db.updateCommands (isPendingSync agentId connectorId)
      (fun c => { c with work := .connectorSync connectorId revision, createdAt := now })
      fun _ => rfl)
  else insertCommand db now commandId agentId (.connectorSync connectorId revision)

/-- The enabled account with this id and identifier. -/
def accountEnabled (db : Db) (accountId accountIdentifier : String) : Bool :=
  (db.accounts.find? accountId).any fun a =>
    a.enabled && toLower a.accountIdentifier == toLower accountIdentifier

def identityAllows (s : IdentityStatus) : Bool :=
  s == .verified || s == .parsed || s == .unmatched || s == .mismatch || s == .failed

/-- The values of a new connector; `connectorIdentityForCreation` makes no other status. -/
structure ConnectorValues where
  name : String
  token : String
  enabled : Bool
  agentId : String
  accountId : Option String
  accountIdentifier : String
  tunnelId : String
  identityStatus : IdentityStatus
  allowed : identityAllows identityStatus

def insertConnector (db : Db) (c : ConnectorRow) : Option Db := do
  let connectors ← db.connectors.insert? c
  return { db with connectors }

def createConnector (db : Db) (now : Time) (connectorId commandId : String)
    (values : ConnectorValues) : Option (Db × Option ConnectorRow) :=
  if !agentReady db values.agentId ||
      !values.accountId.all (accountEnabled db · values.accountIdentifier) then
    some (db, none)
  else do
    let created : ConnectorRow :=
      { id := connectorId, name := values.name, token := values.token,
        enabled := values.enabled, agentId := values.agentId, accountId := values.accountId,
        tunnelId := values.accountId.map fun _ => values.tunnelId,
        tokenAccountIdentifier := some values.accountIdentifier,
        tokenTunnelId := some values.tunnelId, identityStatus := values.identityStatus }
    let db ← insertConnector db created
    if values.enabled then
      let db ← queueConnectorSync db now commandId values.agentId connectorId 1 false
      return (db, some created)
    else
      return (db, some created)

structure ConnectorChange where
  name : Option String := none
  token : Option String := none
  enabled : Option Bool := none
  agentId : Option String := none
  /-- The account, its identifier and the tunnel, when the token was verified anew. -/
  identity : Option (String × String × String) := none

def connectorIdentityAllowsRuntime (c : ConnectorRow) : Bool :=
  identityAllows c.identityStatus && c.tokenAccountIdentifier.isSome && c.tokenTunnelId.isSome

def changeConnector (values : ConnectorChange) (c : ConnectorRow) : ConnectorRow :=
  let enabled := values.enabled.getD c.enabled
  { c with
    name := values.name.getD c.name
    token := values.token.getD c.token
    enabled
    agentId := values.agentId.getD c.agentId
    accountId := (values.identity.map (·.1)).or c.accountId
    tunnelId := (values.identity.map (·.2.2)).or c.tunnelId
    tokenAccountIdentifier := (values.identity.map (·.2.1)).or c.tokenAccountIdentifier
    tokenTunnelId := (values.identity.map (·.2.2)).or c.tokenTunnelId
    identityStatus := if values.identity.isSome then .verified else c.identityStatus
    desiredRevision := c.desiredRevision + 1
    deploymentStatus := if enabled then .pending else .stopping
    runtimeStatus := if enabled then .unknown else c.runtimeStatus
    lastError := none }

/-- A move leaves a removal for the agent that had the connector. -/
def queueRemoval (db : Db) (now : Time) (commandId : String) (values : ConnectorChange)
    (current : ConnectorRow) : Option Db :=
  if values.agentId.any (· ≠ current.agentId) then
    insertCommand db now commandId current.agentId
      (.connectorRemove current.id (current.desiredRevision + 1))
  else some db

def updateConnector (db : Db) (now : Time) (removeCommandId syncCommandId id : String)
    (values : ConnectorChange) : Option (Db × Option ConnectorRow) :=
  match db.connectors.find? id with
  | none => some (db, none)
  | some current =>
      if !agentReady db (values.agentId.getD current.agentId) then some (db, none)
      else if !values.identity.all fun i => accountEnabled db i.1 i.2.1 then some (db, none)
      else if values.enabled = some true ∧ values.token.isNone ∧
          connectorIdentityAllowsRuntime current = false then some (db, none)
      else do
        let db ← queueRemoval db now removeCommandId values current
        let updated := changeConnector values current
        let db := db.updateConnectors (fun c => c.id = id) (changeConnector values) fun _ => rfl
        let db ← queueConnectorSync db now syncCommandId updated.agentId id
          updated.desiredRevision (!updated.enabled)
        return (db, some updated)

/-! ### Routes and stacks -/

/-- `ON CONFLICT DO NOTHING`: one pending sync for each agent and entity. -/
def queueInternalSync (db : Db) (now : Time) (commandId agentId : String) (work : Work) :
    Option Db :=
  if db.commands.rows.any fun c => c.agentId == agentId && c.work = work && c.status == .pending
  then some db
  else insertCommand db now commandId agentId work

structure RouteValues where
  gatewayAgentId : String
  name : String
  hostname : String
  exposure : String
  backends : List String
  enabled : Bool

def insertRoute (db : Db) (r : RouteRow) : Option Db := do
  let managedRoutes ← db.managedRoutes.insert? r
  return { db with managedRoutes }

def createRoute (db : Db) (now : Time) (routeId commandId : String) (values : RouteValues) :
    Option (Db × Option RouteRow) :=
  if !agentEnabled db values.gatewayAgentId then some (db, none)
  else do
    let created : RouteRow :=
      { id := routeId, gatewayAgentId := values.gatewayAgentId, name := values.name,
        hostname := values.hostname, exposure := values.exposure, backends := values.backends,
        enabled := values.enabled }
    let db ← insertRoute db created
    let db ← queueInternalSync db now commandId values.gatewayAgentId (.routeSync routeId)
    return (db, some created)

structure RouteChange where
  gatewayAgentId : Option String := none
  name : Option String := none
  hostname : Option String := none
  exposure : Option String := none
  backends : Option (List String) := none
  enabled : Option Bool := none

def changeRoute (values : RouteChange) (r : RouteRow) : RouteRow :=
  { r with
    gatewayAgentId := values.gatewayAgentId.getD r.gatewayAgentId
    name := values.name.getD r.name
    hostname := values.hostname.getD r.hostname
    exposure := values.exposure.getD r.exposure
    backends := values.backends.getD r.backends
    enabled := values.enabled.getD r.enabled
    revision := r.revision + 1
    status := .pending }

def updateRoute (db : Db) (now : Time) (commandId id : String) (values : RouteChange) :
    Option (Db × Option RouteRow) :=
  match db.managedRoutes.find? id with
  | none => some (db, none)
  | some current =>
      if !agentEnabled db (values.gatewayAgentId.getD current.gatewayAgentId) then
        some (db, none)
      else do
        let updated := changeRoute values current
        let managedRoutes := db.managedRoutes.update (fun r => r.id = id) (changeRoute values)
          fun _ => rfl
        let db ← queueInternalSync { db with managedRoutes } now commandId
          updated.gatewayAgentId (.routeSync id)
        return (db, some updated)

/-- The sync that creating or changing a stack queues. -/
def queueStackSync (db : Db) (now : Time) (commandId stackId : String) : Option Db :=
  match db.managedStacks.find? stackId with
  | none => some db
  | some stack => queueInternalSync db now commandId stack.agentId (.stackSync stackId)

end GatewayControl.Placement
