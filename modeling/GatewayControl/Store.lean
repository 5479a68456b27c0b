import GatewayControl.Database

/-!
The control plane's store: creating operations with their commands, handing commands out,
recording how they end, and the two sweeps.

Each method is one transaction, a function from the database to the next one; `none` is a
transaction that failed and was rolled back. The method's times and fresh identifiers are
arguments.
-/

namespace GatewayControl.Store

open Database Json

/-! ### Creating operations -/

/-- What a method that creates an operation answers. -/
inductive Creation where
  | created
  | active
  | unavailable
deriving DecidableEq

def insertCommand (db : Db) (now : Time) (id agentId : String) (work : Work) : Option Db := do
  let commands ← db.commands.insert? { id, agentId, work, createdAt := now }
  return { db with commands }

def insertOperation (db : Db) (op : OperationRow) : Option Db := do
  let operations ← db.operations.insert? op
  return { db with operations }

def hasActiveStackOperation (db : Db) (stackId : String) : Bool :=
  db.operations.rows.any fun op => op.subject.stackId == some stackId && op.status.active

def agentEnabled (db : Db) (agentId : String) : Bool :=
  (db.agents.find? agentId).any (·.enabled)

def agentReady (db : Db) (agentId : String) : Bool :=
  (db.agents.find? agentId).any fun a => a.enabled && a.enrolled

def createBackup (db : Db) (now : Time) (operationId commandId stackId target : String) :
    Option (Db × Creation) :=
  match db.managedStacks.find? stackId with
  | none => some (db, .unavailable)
  | some stack =>
      if !stack.enabled || !agentEnabled db stack.agentId then some (db, .unavailable)
      else if hasActiveStackOperation db stackId then some (db, .active)
      else do
        let db ← insertCommand db now commandId stack.agentId (.operation .backup operationId)
        let db ← insertOperation db
          { id := operationId, subject := .backup stackId target stack.revision,
            agentId := stack.agentId, commandId := some commandId }
        return (db, .created)

def createRestore (db : Db) (now : Time) (operationId commandId backupId : String) :
    Option (Db × Creation) :=
  match db.operations.find? (.backup, backupId) with
  | some { subject := .backup stackId _ _, agentId, status := .succeeded, .. } =>
      if !(db.managedStacks.find? stackId).any (·.enabled) || !agentEnabled db agentId then
        some (db, .unavailable)
      else if hasActiveStackOperation db stackId then some (db, .active)
      else do
        let db ← insertCommand db now commandId agentId (.operation .restore operationId)
        let db ← insertOperation db
          { id := operationId, subject := .restore stackId backupId, agentId,
            commandId := some commandId }
        return (db, .created)
  | _ => some (db, .unavailable)

/-- An active action on the same service, or on the project or the whole of it. -/
def actionClashes (agentId projectName : String) (serviceName : Option String)
    (op : OperationRow) : Bool :=
  match op.subject with
  | .action _ _ project service =>
      op.agentId == agentId && project == projectName && op.status.active &&
        (service.isNone || serviceName.isNone || service == serviceName)
  | _ => false

/-- The operation gets its command in a second statement. -/
def linkCommand (db : Db) (key : OperationKind × String) (commandId : String) : Db :=
  db.updateOperations (fun op => op.key = key)
    (fun op => { op with commandId := some commandId }) fun _ => rfl

def createRuntimeOperation (db : Db) (now : Time)
    (operationId commandId agentId action scope projectName : String)
    (serviceName : Option String) : Option (Db × Creation) :=
  if db.operations.rows.any (actionClashes agentId projectName serviceName) then
    some (db, .active)
  else if !agentReady db agentId then some (db, .unavailable)
  else
    let inserted := do
      let db ← insertOperation db
        { id := operationId, subject := .action action scope projectName serviceName, agentId }
      insertCommand db now commandId agentId (.operation .action operationId)
    -- A violated unique constraint is answered like an active operation.
    match inserted with
    | none => some (db, .active)
    | some db => some (linkCommand db (.action, operationId) commandId, .created)

def createRuntimeLogRequest (db : Db) (now : Time)
    (operationId commandId agentId projectName serviceName : String) (tail : Nat)
    (since : Option String) : Option (Db × Creation) :=
  if !agentReady db agentId then some (db, .unavailable)
  else do
    let db ← insertOperation db
      { id := operationId, subject := .logs projectName serviceName tail since, agentId }
    let db ← insertCommand db now commandId agentId (.operation .logs operationId)
    return (linkCommand db (.logs, operationId) commandId, .created)

def setDeployment (db : Db) (p : DeploymentRow → Bool) (f : DeploymentRow → DeploymentRow)
    (hf : ∀ d, (f d).id = d.id) : Db :=
  { db with deployments := db.deployments.update p f hf }

def createDeploymentRun (db : Db) (now : Time)
    (operationId commandId deploymentId revisionId action : String) : Option (Db × Creation) :=
  match db.deployments.find? deploymentId with
  | none => some (db, .unavailable)
  | some deployment =>
      if !deployment.enabled || !agentReady db deployment.agentId ||
          !(db.revisions.find? revisionId).any (·.deploymentId == deploymentId) then
        some (db, .unavailable)
      else if db.operations.rows.any (fun op => match op.subject with
          | .deployment id _ _ _ => id == deploymentId && op.status.active
          | _ => false) then
        some (db, .active)
      else do
        let db ← insertCommand db now commandId deployment.agentId
          (.operation .deployment operationId)
        let db ← insertOperation db
          { id := operationId,
            subject := .deployment deploymentId revisionId deployment.currentRevisionId action,
            agentId := deployment.agentId, commandId := some commandId }
        return (setDeployment db (fun d => d.id = deploymentId)
          (fun d => { d with status := if action = "stop" then .stopping else .deploying })
          fun _ => rfl, .created)

def createCommand (db : Db) (now : Time) (commandId agentId type payload : String) :
    Option (Db × Creation) :=
  if !agentEnabled db agentId then some (db, .unavailable)
  else do
    let db ← insertCommand db now commandId agentId (.plain type payload)
    return (db, .created)

/-! ### Handing commands out -/

def eligible (agentId : String) (now : Time) (c : CommandRow) : Bool :=
  c.agentId == agentId &&
    (c.status == .pending || (c.status == .claimed && c.leaseExpiresAt.any (· ≤ now)))

/-- Two hours or ten minutes. -/
def lease (work : Work) : Time :=
  if work.type ∈ ["stack.backup.create", "stack.restore.apply", "deployment.compose.apply"] then
    7200000
  else 600000

def claimRow (now : Time) (c : CommandRow) : CommandRow :=
  { c with status := .claimed, claimedAt := some now,
           leaseExpiresAt := some (now + lease c.work), attempts := c.attempts + 1 }

/-- The rows `claimCommands` selects; it skips those another transaction has locked. -/
def selected (db : Db) (now : Time) (agentId : String) (limit : Nat)
    (locked : String → Bool) : List CommandRow :=
  ((db.commands.rows.filter fun c => eligible agentId now c && !locked c.id).insertionSort
    fun a b => a.createdAt ≤ b.createdAt).take limit

def startOperation (db : Db) (now : Time) (kind : OperationKind) (id : String)
    (ofAgent : OperationRow → Bool) : Db :=
  db.updateOperations (fun op => op.key = (kind, id) && ofAgent op && op.status == .pending)
    (fun op => { op with status := .running, startedAt := op.startedAt.or (some now) })
    fun _ => rfl

def deployingConnector (db : Db) (agentId connectorId : String) (revision : Nat) : Db :=
  db.updateConnectors
    (fun c => c.id = connectorId && c.agentId = agentId && c.desiredRevision = revision)
    (fun c => { c with deploymentStatus := if c.enabled then .deploying else .stopping,
                       lastError := none })
    fun _ => rfl

/-- What a claim does to the thing the command is about. -/
def startWork (now : Time) (agentId : String) (db : Db) (c : CommandRow) : Db :=
  match c.work with
  | .connectorSync connectorId revision => deployingConnector db agentId connectorId revision
  | .operation .backup id => startOperation db now .backup id fun _ => true
  | .operation .restore id => startOperation db now .restore id fun _ => true
  | .operation kind id => startOperation db now kind id (·.agentId == agentId)
  | _ => db

def claimCommands (db : Db) (now : Time) (agentId : String) (limit : Nat)
    (locked : String → Bool) : Db × List CommandRow :=
  let ids := (selected db now agentId limit locked).map (·.id)
  let claimed := (selected db now agentId limit locked).map (claimRow now)
  let db := db.updateCommands (fun c => ids.contains c.id) (claimRow now) fun _ => rfl
  (claimed.foldl (startWork now agentId) db, claimed)

/-! ### Recording how a command ends -/

inductive Completion where
  | updated
  | idempotent
  | conflict
  | missing
deriving DecidableEq

def text? (key : String) (v : Json) : Option String :=
  match v.get? key with
  | some (.str s) => some s
  | _ => none

def isTrue (key : String) (v : Json) : Bool :=
  match v.get? key with
  | some (.bool b) => b
  | _ => false

/-- Of a log command only this much is kept. -/
def commandResult (work : Work) (result : Json) : Json :=
  if work.type = OperationKind.logs.type then
    .obj [("truncated", .bool (isTrue "truncated" result))]
  else result

/-- One of the short fields; `none` when a cut leaves half a character. -/
def safeField (result : Json) (key : String) : Option Entries :=
  match result.get? key with
  | some (.num value text) => some [(key, .num value text)]
  | some (.str s) => do return [(key, .str (← sliceJson 500 s))]
  | _ => some []

/-- The short fields that runtime operations and deployment runs keep. -/
def safeRuntimeResult (result : Json) : Option Json := do
  let entries ← ["matched", "succeeded", "failed", "message"].mapM (safeField result)
  return .obj entries.flatten

/-- A `text` value, refused if it holds `U+0000`. -/
def textParameter (s : String) : Option String := if hasNul s then none else some s

/-- The same for a nullable column. -/
def nullableText : Option String → Option (Option String)
  | none => some none
  | some s => (textParameter s).map some

/-- A `jsonb` value, refused if it holds `U+0000`. -/
def jsonParameter (v : Json) : Option Json := if jsonbAccepts v then some v else none

/-- `status === 'failed' ? String(result.error || message).slice(0, 500) : null`. -/
def errorText (ending : Ending) (result : Json) (message : String) : Option (Option String) :=
  match ending with
  | .succeeded => some none
  | .failed => do
      let text ← textParameter
        (sliceText 500 ((truthyString (result.get? "error")).getD message))
      return some text

/-- The columns a completed operation takes. -/
def endOperation (now : Time) (ending : Ending) (result : Option Json) (error : Option String)
    (op : OperationRow) : OperationRow :=
  { op with status := ending.operation, result, error, completedAt := some now }

def updateOperation (db : Db) (kind : OperationKind) (id : String) (p : OperationRow → Bool)
    (f : OperationRow → OperationRow) (hf : ∀ op, (f op).key = op.key) : Db :=
  db.updateOperations (fun op => op.key = (kind, id) && p op) f hf

def stackProject (db : Db) (stackId : String) : Option String :=
  (db.managedStacks.find? stackId).map (·.projectName)

def finishBackup (db : Db) (now : Time) (agentId id : String) (ending : Ending)
    (result : Json) : Option Db := do
  let result ← jsonParameter result
  let ofAgent := fun op : OperationRow => op.agentId == agentId
  let after := updateOperation db .backup id ofAgent
    (fun op => endOperation now ending (some result) op.error op) fun _ => rfl
  match (db.operations.find? (.backup, id)).filter ofAgent with
  | none => return after
  | some op =>
      let event : Event :=
        { type := if ending = .succeeded then "backup.succeeded" else "backup.failed",
          agentId := some agentId, stackId := op.subject.stackId,
          projectName := op.subject.stackId.bind (stackProject db),
          payload := [("backupId", id)] }
      return after.enqueueEvent event

def finishRestore (db : Db) (now : Time) (agentId id : String) (ending : Ending)
    (result : Json) : Option Db := do
  let result ← jsonParameter result
  let ofAgent := fun op : OperationRow => op.agentId == agentId
  let after := updateOperation db .restore id ofAgent
    (fun op => endOperation now ending (some result) op.error op) fun _ => rfl
  match ending, (db.operations.find? (.restore, id)).filter ofAgent with
  | .failed, some { subject := .restore stackId backupId, .. } =>
      let event : Event :=
        { type := "backup.failed", agentId := some agentId, stackId := some stackId,
          projectName := stackProject db stackId,
          payload := [("restoreId", id), ("backupId", backupId), ("operation", "restore")] }
      return after.enqueueEvent event
  | _, _ => return after

def ofAgentActive (agentId : String) (op : OperationRow) : Bool :=
  op.agentId == agentId && op.status.active

def finishAction (db : Db) (now : Time) (agentId id : String) (ending : Ending)
    (result : Json) : Option Db := do
  let safe ← jsonParameter (← safeRuntimeResult result)
  let error ← errorText ending result "Runtime action failed."
  let after := updateOperation db .action id (ofAgentActive agentId)
    (endOperation now ending (some safe) error) fun _ => rfl
  match (db.operations.find? (.action, id)).filter (ofAgentActive agentId) with
  | some { subject := .action action scope projectName serviceName, .. } =>
      let event : Event :=
        { type := if ending = .succeeded then "runtime.action.succeeded"
            else "runtime.action.failed",
          agentId := some agentId, projectName := some projectName, serviceName,
          payload := [("action", action), ("scope", scope)] }
      return after.enqueueEvent event
  | _ => return after

/-- The logs themselves are kept with their request, when it succeeded. -/
def logsKept (ending : Ending) (result : Json) : Option (Option Json) :=
  match ending with
  | .failed => some none
  | .succeeded => do
      let logs ← sliceJson 262144 ((text? "logs" result).getD "")
      let kept ← jsonParameter
        (.obj [("logs", .str logs), ("truncated", .bool (isTrue "truncated" result))])
      return some kept

def finishLogs (db : Db) (now : Time) (agentId id : String) (ending : Ending)
    (result : Json) : Option Db := do
  let kept ← logsKept ending result
  let error ← errorText ending result "Runtime log request failed."
  return updateOperation db .logs id (ofAgentActive agentId)
    (endOperation now ending kept error) fun _ => rfl

def finishDeployment (db : Db) (now : Time) (agentId id : String) (ending : Ending)
    (result : Json) : Option Db := do
  let safe ← jsonParameter (← safeRuntimeResult result)
  let error ← errorText ending result "Deployment failed."
  let after := updateOperation db .deployment id (ofAgentActive agentId)
    (endOperation now ending (some safe) error) fun _ => rfl
  match (db.operations.find? (.deployment, id)).filter (ofAgentActive agentId) with
  | some { subject := .deployment deploymentId revisionId _ action, .. } =>
      let status := match ending with
        | .succeeded => if action = "stop" then RolloutStatus.stopped else .active
        | .failed => .failed
      let after := setDeployment after (fun d => d.id = deploymentId && d.agentId = agentId)
        (fun d => { d with
          status
          currentRevisionId := if ending = .succeeded ∧ action ≠ "stop" then some revisionId
            else d.currentRevisionId })
        fun _ => rfl
      let event : Event :=
        { type := if ending = .succeeded then "deployment.succeeded" else "deployment.failed",
          agentId := some agentId,
          projectName := ((after.deployments.find? deploymentId).filter
            (·.agentId = agentId)).map (·.projectName),
          payload := [("deploymentId", deploymentId), ("runId", id), ("action", action)] }
      return after.enqueueEvent event
  | _ => return after

def connectorRuntimeStatus (ending : Ending) (result : Json) : RuntimeStatus :=
  match ending, text? "runtimeStatus" result with
  | .failed, _ => .failed
  | .succeeded, some "origin_unhealthy" => .originUnhealthy
  | .succeeded, some "stopped" => .stopped
  | .succeeded, some "connected" => .connected
  | .succeeded, _ => .reconnecting

def connectorError (ending : Ending) (result : Json) : Option String :=
  match ending with
  | .failed => some (sliceText 1000 (((truthyString (result.get? "error")).or
      (truthyString (result.get? "stderr"))).getD "Connector deployment failed."))
  | .succeeded => (text? "message" result).map (sliceText 1000)

def finishConnector (db : Db) (agentId connectorId : String) (revision : Nat)
    (ending : Ending) (result : Json) : Option Db := do
  let runtimeStatus := connectorRuntimeStatus ending result
  let lastError ← nullableText (connectorError ending result)
  return db.updateConnectors
    (fun c => c.id = connectorId && c.agentId = agentId && c.desiredRevision = revision)
    (fun c => { c with
      deploymentStatus := match ending with
        | .succeeded => if runtimeStatus = .stopped then .stopped else .active
        | .failed => .failed
      runtimeStatus
      lastError })
    fun _ => rfl

def rolledOut : Ending → RolloutStatus
  | .succeeded => .active
  | .failed => .failed

def hasPending (db : Db) (work : Work) : Bool :=
  db.commands.rows.any fun c => c.work = work && c.status == .pending

def finishStack (db : Db) (agentId stackId : String) (ending : Ending) : Db :=
  if hasPending db (.stackSync stackId) then db
  else
    let managedStacks := db.managedStacks.update
      (fun s => s.id = stackId && s.agentId = agentId)
      (fun s => { s with status := rolledOut ending }) fun _ => rfl
    { db with managedStacks }

def finishRoute (db : Db) (agentId routeId : String) (ending : Ending) : Db :=
  if hasPending db (.routeSync routeId) then db
  else
    let managedRoutes := db.managedRoutes.update
      (fun r => r.id = routeId && r.gatewayAgentId = agentId)
      (fun r => { r with status := rolledOut ending }) fun _ => rfl
    { db with managedRoutes }

/-- The event of a sync that failed. -/
def syncFailed (db : Db) (agentId : String) (c : CommandRow) (ending : Ending) : Db :=
  match ending with
  | .succeeded => db
  | .failed => db.enqueueEvent
      { type := "deployment.failed", agentId := some agentId,
        projectName := match c.work with
          | .stackSync stackId => ((db.managedStacks.find? stackId).filter
              (·.agentId = agentId)).map (·.projectName)
          | _ => none
        payload := [("commandId", c.id), ("commandType", c.work.type)] }

/-- What the end of a command does to the thing it is about. -/
def finishWork (db : Db) (now : Time) (agentId : String) (c : CommandRow) (ending : Ending)
    (result : Json) : Option Db :=
  match c.work with
  | .connectorSync connectorId revision => do
      let db ← finishConnector db agentId connectorId revision ending result
      return syncFailed db agentId c ending
  | .stackSync stackId =>
      some (syncFailed (finishStack db agentId stackId ending) agentId c ending)
  | .routeSync routeId =>
      some (syncFailed (finishRoute db agentId routeId ending) agentId c ending)
  | .operation .backup id => finishBackup db now agentId id ending result
  | .operation .restore id => finishRestore db now agentId id ending result
  | .operation .action id => finishAction db now agentId id ending result
  | .operation .logs id => finishLogs db now agentId id ending result
  | .operation .deployment id => finishDeployment db now agentId id ending result
  | .connectorRemove _ _ | .plain _ _ => some db

def completeRow (now : Time) (ending : Ending) (result : Json) (c : CommandRow) : CommandRow :=
  { c with status := ending.command, result := some result, completedAt := some now,
           leaseExpiresAt := none }

def completeCommand (db : Db) (now : Time) (agentId commandId : String) (ending : Ending)
    (result : Json) : Option (Db × Completion) :=
  match (db.commands.find? commandId).filter (·.agentId = agentId) with
  | none => some (db, .missing)
  | some current =>
      let kept := commandResult current.work result
      -- The comparison with the stored result casts the new one as well.
      if current.status = ending.command ∧ jsonbAccepts kept = false then none
      else if current.status = ending.command ∧ current.result.any (jsonbMatches · kept) then
        some (db, .idempotent)
      else if current.status ≠ .claimed then some (db, .conflict)
      else do
        let kept ← jsonParameter kept
        let db := db.updateCommands (fun c => c.id = commandId && c.agentId = agentId)
          (completeRow now ending kept) fun _ => rfl
        let db ← finishWork db now agentId current ending result
        return (db, .updated)

/-! ### The two sweeps -/

def staleText : String := "The operation exceeded the 24-hour completion window."

def staleResult : Json := .obj [("error", .str staleText)]

/-- Half an hour. -/
def connectorPatience : Time := 1800000

def isStale (staleBefore now : Time) (c : CommandRow) : Bool :=
  (c.status == .pending || c.status == .claimed) &&
    match c.work with
    | .operation _ _ => decide (c.createdAt < staleBefore)
    | .connectorSync _ _ | .connectorRemove _ _ => decide (c.createdAt + connectorPatience < now)
    | _ => false

/-- The active operations that wait for the command. -/
def awaits (commandId : String) (kind : OperationKind) (op : OperationRow) : Bool :=
  op.kind == kind && op.commandId == some commandId && op.status.active

def failAwaiting (db : Db) (now : Time) (kind : OperationKind) (commandId : String)
    (p : OperationRow → Bool) (error : OperationRow → Option String) : Db :=
  db.updateOperations (fun op => awaits commandId kind op && p op)
    (fun op => endOperation now .failed (some staleResult) (error op) op) fun _ => rfl

/-- A backup or restore is failed together with a read of its stack. -/
def onStack (db : Db) (op : OperationRow) : Bool :=
  op.subject.stackId.any fun id => (db.managedStacks.find? id).isSome

/-- What the sweep does to the thing a stale command is about. -/
def failWork (now : Time) (db : Db) (c : CommandRow) : Db :=
  match c.work with
  | .connectorSync connectorId revision => db.updateConnectors
      (fun r => r.id = connectorId && r.agentId = c.agentId && r.desiredRevision = revision)
      (fun r => { r with deploymentStatus := .failed, lastError := some staleText }) fun _ => rfl
  | .operation .backup _ =>
      let failing := db.operations.rows.find? fun op => awaits c.id .backup op && onStack db op
      let after := failAwaiting db now .backup c.id (onStack db) (·.error)
      match failing with
      | none => after
      | some op => after.enqueueEvent
          { type := "backup.failed", agentId := some c.agentId, stackId := op.subject.stackId,
            projectName := op.subject.stackId.bind (stackProject db),
            payload := [("backupId", op.id), ("operation", "backup"), ("reason", "stale")] }
  | .operation .restore _ =>
      let failing := db.operations.rows.find? fun op => awaits c.id .restore op && onStack db op
      let after := failAwaiting db now .restore c.id (onStack db) (·.error)
      match failing with
      | some { id, subject := .restore stackId backupId, .. } => after.enqueueEvent
          { type := "backup.failed", agentId := some c.agentId, stackId := some stackId,
            projectName := stackProject db stackId,
            payload := [("restoreId", id), ("backupId", backupId), ("operation", "restore"),
              ("reason", "stale")] }
      | _ => after
  | .operation .action _ =>
      let failing := db.operations.rows.find? (awaits c.id .action)
      let after := failAwaiting db now .action c.id (fun _ => true) fun _ => some staleText
      match failing with
      | some { subject := .action action scope projectName serviceName, .. } =>
          after.enqueueEvent
            { type := "runtime.action.failed", agentId := some c.agentId,
              projectName := some projectName, serviceName,
              payload := [("action", action), ("scope", scope)] }
      | _ => after
  | .operation .logs _ => failAwaiting db now .logs c.id (fun _ => true) fun _ => some staleText
  | .operation .deployment _ =>
      let failing := db.operations.rows.find? (awaits c.id .deployment)
      let after := failAwaiting db now .deployment c.id (fun _ => true) fun _ => some staleText
      match failing with
      | some { subject := .deployment deploymentId _ _ _, .. } =>
          setDeployment after (fun d => d.id = deploymentId)
            (fun d => { d with status := .failed }) fun _ => rfl
      | _ => after
  | _ => db

def failRow (now : Time) (c : CommandRow) : CommandRow := completeRow now .failed staleResult c

def failStaleCommands (db : Db) (now staleBefore : Time) : Db :=
  let stale := db.commands.rows.filter (isStale staleBefore now)
  let db := db.updateCommands (isStale staleBefore now) (failRow now) fun _ => rfl
  stale.foldl (failWork now) db

def expired (completedBefore : Time) (op : OperationRow) : Bool :=
  op.kind == .logs && op.result.isSome && op.completedAt.any (· < completedBefore)

def purgeRuntimeLogResults (db : Db) (completedBefore : Time) : Db :=
  let ids := (db.operations.rows.filter (expired completedBefore)).filterMap (·.commandId)
  let db := db.updateOperations (expired completedBefore)
    (fun op => { op with result := none }) fun _ => rfl
  db.updateCommands
    (fun c => ids.contains c.id && c.work.type == OperationKind.logs.type)
    (fun c => { c with result := some ((c.result.map (without "logs")).getD (.obj [])) })
    fun _ => rfl

end GatewayControl.Store
