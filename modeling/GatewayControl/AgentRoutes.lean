import GatewayControl.Placement
import GatewayControl.Wire

/-!
The control plane's two routes for an authenticated agent: polling for commands and
reporting how one ended.

Each request is one step. What a claimed command is about is read again when it is handed
out, and a command that can no longer be carried out is completed as failed instead.
-/

namespace GatewayControl.AgentRoutes

open AgentTypes Database Json Placement Store Text Wire

/-- What the routes know besides the database. -/
structure Settings where
  sha256 : String → String
  protectedProjects : List String

/-! ### Polling -/

def payloadText (entries : Entries) : Payload :=
  .raw (String.ofList (stringify (.obj entries)))

/-- The two paths of a stack beneath the stacks root. -/
def stackEntries (stack : StackRow) : Entries :=
  [("stackPath", .str stack.id), ("composePath", .str (stack.id ++ "/compose.yaml"))]

def postgresEntries (stack : StackRow) : Entries :=
  (stack.postgresBackupConfig.map fun p => ("postgres", .obj
    [("service", .str p.service), ("database", .str p.database), ("user", .str p.user)])).toList

/-- A deployment run with its deployment, its revision and the one before. -/
structure DeploymentSource where
  run : OperationRow
  deployment : DeploymentRow
  revision : RevisionRow
  prior : Option RevisionRow
  action : String

def getDeploymentCommandSource (db : Db) (runId : String) : Option DeploymentSource := do
  let run ← db.operations.find? (.deployment, runId)
  match run.subject with
  | .deployment deploymentId revisionId priorRevisionId action =>
      let deployment ← db.deployments.find? deploymentId
      let revision ← (db.revisions.find? revisionId).filter (·.deploymentId = deployment.id)
      let prior := (priorRevisionId.bind db.revisions.find?).filter
        (·.deploymentId = deployment.id)
      return { run, deployment, revision, prior, action }
  | _ => none

/-- The documents of a run, when they are authentic: the revision's own, and the prior
revision's if there is one that is not empty. -/
def sourceDocuments (S : Settings) (source : DeploymentSource) :
    Option (String × Option (String × String)) := do
  let compose ← source.revision.normalizedCompose
  if S.sha256 compose ≠ source.revision.checksum then none
  else
    match source.prior with
    | none => return (compose, none)
    | some prior => do
        let text ← prior.normalizedCompose
        return (compose, if text = "" then none else some (prior.id, text))

def deploymentPayload (S : Settings) (db : Db) (agentId : String) (c : CommandRow)
    (runId : String) : Except String Payload :=
  match (getDeploymentCommandSource db runId).filter fun source =>
      source.deployment.agentId = agentId && source.run.commandId = some c.id &&
        !S.protectedProjects.contains source.deployment.projectName with
  | none => .error "Deployment is unavailable for this agent."
  | some source =>
      match sourceDocuments S source with
      | none => .error "Deployment source could not be authenticated."
      | some (compose, prior) => .ok <| payloadText <|
          [("runId", .str runId), ("revisionId", .str source.revision.id),
            ("projectName", .str source.deployment.projectName),
            ("sourceCompose", .str compose), ("checksum", .str source.revision.checksum),
            ("action", .str source.action)] ++
          match prior with
          | none => []
          | some (priorId, text) => [("priorRevisionId", .str priorId),
              ("priorCompose", .str text), ("priorChecksum", .str (S.sha256 text))]

def actionPayload (db : Db) (agentId : String) (c : CommandRow) (id : String) :
    Except String Payload :=
  match (db.operations.find? (.action, id)).filter fun op =>
      op.agentId = agentId && op.commandId = some c.id with
  | some { subject := .action action scope projectName serviceName, .. } =>
      .ok <| payloadText <| [("operationId", .str id), ("projectName", .str projectName)] ++
        (serviceName.filter (· ≠ "")).toList.map (fun s => ("serviceName", .str s)) ++
        [("action", .str action), ("scope", .str scope)]
  | _ => .error "Runtime action is unavailable for this agent."

def logsPayload (db : Db) (agentId : String) (c : CommandRow) (id : String) :
    Except String Payload :=
  match (db.operations.find? (.logs, id)).filter fun op =>
      op.agentId = agentId && op.commandId = some c.id with
  | some { subject := .logs projectName serviceName tail since, .. } =>
      .ok <| payloadText <|
        [("requestId", .str id), ("projectName", .str projectName),
          ("serviceName", .str serviceName), ("tail", number tail)] ++
        (since.filter (· ≠ "")).toList.map (fun s => ("since", .str s))
  | _ => .error "Runtime log request is unavailable for this agent."

/-- A backup with its stack, if the stack runs on the agent. -/
def getBackupDeployment (db : Db) (agentId backupId : String) :
    Option (Nat × String × StackRow) :=
  match db.operations.find? (.backup, backupId) with
  | some { subject := .backup stackId target stackRevision, .. } => do
      let stack ← (db.managedStacks.find? stackId).filter (·.agentId = agentId)
      return (stackRevision, target, stack)
  | _ => none

def backupPayload (db : Db) (agentId id : String) : Except String Payload :=
  match getBackupDeployment db agentId id with
  | none => .error "Stack backup is unavailable for this agent."
  | some (revision, target, stack) => .ok <| payloadText <|
      [("backupId", .str id), ("stackId", .str stack.id),
        ("projectName", .str stack.projectName), ("revision", number revision),
        ("target", .str target)] ++ stackEntries stack ++ postgresEntries stack

def restorePayload (db : Db) (agentId id : String) : Except String Payload :=
  let unavailable := Except.error "Stack restore is unavailable for this agent."
  match db.operations.find? (.restore, id) with
  | some { subject := .restore _ backupId, .. } =>
      match getBackupDeployment db agentId backupId with
      | none => unavailable
      | some (revision, target, stack) => .ok (.stackRestore
          { restoreId := id, backupId, stackId := stack.id, projectName := stack.projectName,
            revision, target, stackPath := stack.id,
            composePath := stack.id ++ "/compose.yaml",
            postgres := stack.postgresBackupConfig })
  | _ => unavailable

def routePayload (db : Db) (agentId routeId : String) : Except String Payload :=
  match (db.managedRoutes.find? routeId).filter (·.gatewayAgentId = agentId) with
  | none => .error "Route deployment is unavailable for this agent."
  | some r => .ok (.routeSync
      { routeId := r.id, name := r.name, hostname := r.hostname, exposure := r.exposure,
        backends := r.backends, enabled := some r.enabled, revision := some r.revision })

def connectorPayload (db : Db) (agentId connectorId : String) (revision : Nat) :
    Except String Payload :=
  match (db.connectors.find? connectorId).filter fun c =>
      c.agentId = agentId && c.desiredRevision = revision with
  | none => .error "Connector deployment is unavailable for this agent."
  | some c =>
      if !c.enabled then .ok (.connectorSync { connectorId := c.id, revision, enabled := some false })
      else if !connectorIdentityAllowsRuntime c then
        .error "Connector token identity is unavailable."
      else .ok (.connectorSync
        { connectorId := c.id, revision, name := c.name, enabled := some true,
          token := c.token })

/-- The payload a claimed command is handed out with, or why it is not. -/
def decorate (S : Settings) (db : Db) (agentId : String) (c : CommandRow) :
    Except String Payload :=
  match c.work with
  | .stackSync _ => .error "Legacy managed stack deployment is disabled."
  | .operation .deployment id => deploymentPayload S db agentId c id
  | .operation .action id => actionPayload db agentId c id
  | .operation .logs id => logsPayload db agentId c id
  | .operation .backup id => backupPayload db agentId id
  | .operation .restore id => restorePayload db agentId id
  | .routeSync routeId => routePayload db agentId routeId
  | .connectorRemove connectorId revision => .ok (.connectorRemove { connectorId, revision })
  | .connectorSync connectorId revision => connectorPayload db agentId connectorId revision
  | .plain _ payload => .ok (.raw payload)

def undeliverable (text : String) : Json := .obj [("error", .str text)]

/-- Hand out the claimed commands one by one; a failing statement fails the request, with
what was committed before. -/
def handOut (S : Settings) (now : Database.Time) (agentId : String) :
    Db → List CommandRow → Db × Option (List Command)
  | db, [] => (db, some [])
  | db, c :: cs =>
      match decorate S db agentId c with
      | .ok payload =>
          let (db, commands) := handOut S now agentId db cs
          (db, commands.map ({ id := c.id, type := c.work.type, payload } :: ·))
      | .error text =>
          match completeCommand db now agentId c.id .failed (undeliverable text) with
          | none => (db, none)
          | some (db, _) => handOut S now agentId db cs

/-- `GET /api/agent/commands`. -/
def pollRoute (S : Settings) (db : Db) (now : Database.Time) (agentId : String)
    (locked : String → Bool) : Db × Option (List Command) :=
  let (db, claimed) := claimCommands db now agentId 1 locked
  handOut S now agentId db claimed

/-! ### Reporting -/

inductive Answer where
  | accepted (idempotent : Bool)
  | refused (status : Nat) (error : String)
deriving DecidableEq

/-- Fastify's `bodyLimit`. -/
def bodyLimit : Nat := 1048576

def resultLimit : Nat := 262144

def parseStatus (status : String) : Option Ending :=
  if status = "succeeded" then some .succeeded
  else if status = "failed" then some .failed
  else none

/-- The handler of the route, on a parsed body. -/
def resultHandler (db : Db) (now : Database.Time) (agentId id status : String)
    (result : Json) : Db × Answer :=
  match parseStatus status with
  | none => (db, .refused 400 "status must be succeeded or failed.")
  | some ending =>
      if jsLength (stringify result) > resultLimit then
        (db, .refused 400 "Command result is too large.")
      else if !commandIDPattern id then (db, .refused 400 "A valid UUID is required.")
      else
        match completeCommand db now agentId id ending result with
        | none => (db, .refused 500 "An internal server error occurred.")
        | some (db, .missing) => (db, .refused 404 "Command not found.")
        | some (db, .conflict) =>
            (db, .refused 409 "The command is not in a claimable completion state.")
        | some (db, .idempotent) => (db, .accepted true)
        | some (db, .updated) => (db, .accepted false)

/-- `POST /api/agent/commands/:id/result`, with the request `SubmitResult` makes. -/
def resultRoute (db : Db) (now : Database.Time) (agentId : String) (r : CommandResult) :
    Db × Answer :=
  if goLength (encodeBody r) > bodyLimit then
    (db, .refused 413 "Request body is too large.")
  else resultHandler db now agentId r.commandId (status r) (encodeResult r)

end GatewayControl.AgentRoutes
