import GatewayControl.AgentTypes
import GatewayControl.Jsonb
import GatewayControl.Table

/-!
The control plane's tables, as far as the delivery of commands reads or writes them: the
commands, the operations that wait for one, and what commands put in place.

The five operation tables are one, whose rows say which of the five they are of. Times
count milliseconds. Identifiers come from the database; a taken one makes an insertion
fail.
-/

namespace GatewayControl.Database

abbrev Time := Nat

inductive CommandStatus where
  | pending
  | claimed
  | succeeded
  | failed
deriving DecidableEq

inductive OperationStatus where
  | pending
  | running
  | succeeded
  | failed
deriving DecidableEq

/-- How a command or an operation ends. -/
inductive Ending where
  | succeeded
  | failed
deriving DecidableEq

def Ending.command : Ending → CommandStatus
  | .succeeded => .succeeded
  | .failed => .failed

def Ending.operation : Ending → OperationStatus
  | .succeeded => .succeeded
  | .failed => .failed

/-- The status a command has while its operation has this one. -/
def OperationStatus.command : OperationStatus → CommandStatus
  | .pending => .pending
  | .running => .claimed
  | .succeeded => .succeeded
  | .failed => .failed

def OperationStatus.active (s : OperationStatus) : Bool := s == .pending || s == .running

inductive OperationKind where
  | backup
  | restore
  | action
  | logs
  | deployment
deriving DecidableEq

/-- A command's type and payload. -/
inductive Work where
  | operation (kind : OperationKind) (id : String)
  | connectorSync (connectorId : String) (revision : Nat)
  | connectorRemove (connectorId : String) (revision : Nat)
  | stackSync (stackId : String)
  | routeSync (routeId : String)
  | plain (type payload : String)
deriving DecidableEq

def OperationKind.type : OperationKind → String
  | .backup => "stack.backup.create"
  | .restore => "stack.restore.apply"
  | .action => "compose.runtime.action"
  | .logs => "compose.runtime.logs"
  | .deployment => "deployment.compose.apply"

def Work.type : Work → String
  | .operation kind _ => kind.type
  | .connectorSync _ _ => "cloudflare.connector.sync"
  | .connectorRemove _ _ => "cloudflare.connector.remove"
  | .stackSync _ => "compose.stack.sync"
  | .routeSync _ => "traefik.route.sync"
  | .plain type _ => type

/-! ### Rows -/

structure AgentRow where
  id : String
  enabled : Bool
  enrolled : Bool
deriving DecidableEq

structure CommandRow where
  id : String
  agentId : String
  work : Work
  status : CommandStatus := .pending
  result : Option Json := none
  attempts : Nat := 0
  createdAt : Time
  claimedAt : Option Time := none
  leaseExpiresAt : Option Time := none
  completedAt : Option Time := none

/-- What an operation is about: its own columns, for each of the five tables. -/
inductive Subject where
  | backup (stackId target : String) (stackRevision : Nat)
  | restore (stackId backupId : String)
  | action (action scope projectName : String) (serviceName : Option String)
  | logs (projectName serviceName : String) (tail : Nat) (since : Option String)
  | deployment (deploymentId revisionId : String) (priorRevisionId : Option String)
      (action : String)
deriving DecidableEq

def Subject.kind : Subject → OperationKind
  | .backup _ _ _ => .backup
  | .restore _ _ => .restore
  | .action _ _ _ _ => .action
  | .logs _ _ _ _ => .logs
  | .deployment _ _ _ _ => .deployment

def Subject.stackId : Subject → Option String
  | .backup stackId _ _ | .restore stackId _ => some stackId
  | _ => none

structure OperationRow where
  id : String
  subject : Subject
  agentId : String
  commandId : Option String := none
  status : OperationStatus := .pending
  result : Option Json := none
  error : Option String := none
  startedAt : Option Time := none
  completedAt : Option Time := none

def OperationRow.kind (op : OperationRow) : OperationKind := op.subject.kind

def OperationRow.key (op : OperationRow) : OperationKind × String := (op.kind, op.id)

inductive RolloutStatus where
  | pending
  | deploying
  | active
  | stopping
  | stopped
  | failed
deriving DecidableEq

structure StackRow where
  id : String
  agentId : String
  projectName : String
  enabled : Bool
  revision : Nat
  postgresBackupConfig : Option AgentTypes.PostgresBackupConfig := none
  status : RolloutStatus := .pending
deriving DecidableEq

structure DeploymentRow where
  id : String
  agentId : String
  projectName : String
  sourceRepository : String
  enabled : Bool
  currentRevisionId : Option String := none
  status : RolloutStatus := .pending
deriving DecidableEq

/-- A revision; its document is what the encrypted text decrypts to, if it is authentic. -/
structure RevisionRow where
  id : String
  deploymentId : String
  normalizedCompose : Option String
  checksum : String
deriving DecidableEq

structure AccountRow where
  id : String
  accountIdentifier : String
  enabled : Bool
deriving DecidableEq

inductive IdentityStatus where
  | parsed
  | pending
  | verified
  | unmatched
  | mismatch
  | invalid
  | failed
deriving DecidableEq

inductive RuntimeStatus where
  | unknown
  | connected
  | reconnecting
  | originUnhealthy
  | stopped
  | failed
deriving DecidableEq

/-- A connector; the token stands for its encrypted text, which decrypts to it. -/
structure ConnectorRow where
  id : String
  name : String
  token : String
  enabled : Bool
  agentId : String
  accountId : Option String
  tunnelId : Option String
  desiredRevision : Nat := 1
  tokenAccountIdentifier : Option String
  tokenTunnelId : Option String
  identityStatus : IdentityStatus
  deploymentStatus : RolloutStatus := .pending
  runtimeStatus : RuntimeStatus := .unknown
  lastError : Option String := none
deriving DecidableEq

structure RouteRow where
  id : String
  gatewayAgentId : String
  name : String
  hostname : String
  exposure : String
  backends : List String
  enabled : Bool
  revision : Nat := 1
  status : RolloutStatus := .pending
deriving DecidableEq

/-- An operational event, with the entries of its payload. -/
structure Event where
  type : String
  agentId : Option String := none
  stackId : Option String := none
  projectName : Option String := none
  serviceName : Option String := none
  payload : List (String × String) := []
deriving DecidableEq

structure Db where
  agents : Table AgentRow String AgentRow.id := ∅
  commands : Table CommandRow String CommandRow.id := ∅
  operations : Table OperationRow (OperationKind × String) OperationRow.key := ∅
  managedStacks : Table StackRow String StackRow.id := ∅
  deployments : Table DeploymentRow String DeploymentRow.id := ∅
  revisions : Table RevisionRow String RevisionRow.id := ∅
  accounts : Table AccountRow String AccountRow.id := ∅
  connectors : Table ConnectorRow String ConnectorRow.id := ∅
  managedRoutes : Table RouteRow String RouteRow.id := ∅
  events : List Event := []

namespace Db

def enqueueEvent (db : Db) (e : Event) : Db := { db with events := db.events ++ [e] }

def updateCommands (db : Db) (p : CommandRow → Bool) (f : CommandRow → CommandRow)
    (hf : ∀ c, (f c).id = c.id) : Db :=
  { db with commands := db.commands.update p f hf }

def updateOperations (db : Db) (p : OperationRow → Bool) (f : OperationRow → OperationRow)
    (hf : ∀ op, (f op).key = op.key) : Db :=
  { db with operations := db.operations.update p f hf }

def updateConnectors (db : Db) (p : ConnectorRow → Bool) (f : ConnectorRow → ConnectorRow)
    (hf : ∀ c, (f c).id = c.id) : Db :=
  { db with connectors := db.connectors.update p f hf }

end Db

end GatewayControl.Database
