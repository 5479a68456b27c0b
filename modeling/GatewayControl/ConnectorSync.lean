import GatewayControl.Host

/-!
`connector.sync`: the agent stores a Cloudflare connector's token and replaces its container. A
candidate container is started beside the earlier one, which is then removed, and the candidate
gets its name.
-/

namespace GatewayControl.ConnectorSync

open Text AgentTypes Programs Host

/-- The executor's configuration. `redact` is the masking of secrets; `logsSince` is the time from
which logs are read, of a start time as Docker prints it. -/
structure Executor where
  stateDir : String
  stateVolume : String
  edgeNetwork : String
  cloudflaredImage : String
  redact : String → String
  logsSince : String → Time → String

variable (e : Executor)

/-! ### The payload -/

def validConnectorName (name : String) : Bool :=
  1 ≤ name.utf8ByteSize && name.utf8ByteSize ≤ 120 && trimSpace name = name &&
    name.toList.all fun character => !isControl character

/-- `none` is a payload that the JSON decoder refuses. -/
def decodeConnectorSyncPayload : Option ConnectorSyncPayload → Except String ConnectorSyncPayload
  | none => .error "invalid connector sync payload"
  | some p =>
      if !connectorUUIDPattern p.connectorId then .error "connectorId must be a valid UUID"
      else if p.enabled = none then .error "enabled must be a boolean"
      else if p.revision < 1 then .error "revision must be positive"
      else if p.enabled = some true then
        if !validConnectorName p.name then
          .error "name must contain 1 to 120 valid, non-control characters"
        else if p.token.utf8ByteSize < 48 ∨ 4096 < p.token.utf8ByteSize then
          .error "token must contain 48 to 4096 bytes"
        else .ok p
      else if p.name ≠ "" ∨ p.token ≠ "" then
        .error "disabled connector payload must not contain name or token"
      else .ok p

/-! ### Names and commands -/

variable (p : ConnectorSyncPayload)

def connectorStateMount : String := "/run/gateway-agent-state"

def connectorContainerName (connectorID : String) : String :=
  "gateway-cloudflared-" ++ toLower connectorID

def containerName : String := connectorContainerName p.connectorId

def candidateContainerName : String := containerName p ++ "-candidate"

def tokenDirectory : String := join e.stateDir "connectors"

def tokenName : String := toLower p.connectorId ++ ".token"

def connectorTokenPath : String := join (tokenDirectory e) (tokenName p)

def inspectArgs (name : String) : List String := ["container", "inspect", name]

def removeArgs (name : String) : List String := ["container", "rm", "--force", name]

def createArgs (identity : String) : List String :=
  ["container", "create", "--name", candidateContainerName p, "--restart", "unless-stopped",
      "--network", e.edgeNetwork, "--mount", "type=volume,source=" ++ e.stateVolume ++
        ",target=" ++ connectorStateMount ++ ",readonly"] ++
    (if identity = "" then [] else ["--user", identity]) ++
    [e.cloudflaredImage, "tunnel", "--no-autoupdate", "run", "--token-file",
      connectorStateMount ++ "/connectors/" ++ toLower p.connectorId ++ ".token"]

def startArgs : List String := ["container", "start", candidateContainerName p]

def runningArgs : List String :=
  ["container", "inspect", "--format", "\x7b\x7b.State.Running\x7d\x7d", candidateContainerName p]

def renameArgs : List String :=
  ["container", "rename", candidateContainerName p, containerName p]

/-! ### Steps -/

def dockerObjectMissing (output : RunOutput) : Bool :=
  let message := (toLower (output.stdout ++ "\n" ++ output.stderr)).toList
  ["no such container", "no such object", "no container with name", "no such network"].any
    fun text => occurs text.toList message

def removeContainer (name : String) : HostProg RunResult := do
  let inspected ← eff (.docker (inspectArgs name))
  if inspected.err.isSome then
    if dockerObjectMissing inspected.output then pure { inspected with err := none }
    else pure inspected
  else eff (.docker (removeArgs name))

def ensureNetwork : HostProg RunResult := do
  let inspected ← eff (.docker ["network", "inspect", e.edgeNetwork])
  if inspected.err.isNone || !dockerObjectMissing inspected.output then pure inspected
  else do
    let created ← eff (.docker ["network", "create", e.edgeNetwork])
    if created.err.isNone then pure created
    else do
      let verified ← eff (.docker ["network", "inspect", e.edgeNetwork])
      pure (if verified.err.isNone then verified else created)

def writeTokenAtomically : HostFallible Unit := do
  attempt (eff (.mkdirAll (tokenDirectory e)))
  attempt (eff (.chmod (tokenDirectory e)))
  writeFileAtomically (tokenDirectory e) (tokenName p) (.token p.token)

/-- Whether there was a token to remove does not matter. -/
def removeToken : HostFallible Unit := do
  let _ ← attempt (eff (.remove (connectorTokenPath e p)))
  pure ()

/-- `strings.ReplaceAll` of a text that is not empty. -/
def replaceAll (old new : List Char) : List Char → List Char
  | [] => []
  | c :: cs =>
      if old.isPrefixOf (c :: cs) then new ++ replaceAll old new (cs.drop (old.length - 1))
      else c :: replaceAll old new cs
termination_by s => s.length
decreasing_by all_goals simp; try omega

def redactConnectorOutput (value token : String) : String :=
  if token = "" then e.redact value
  else String.ofList (replaceAll token.toList "[REDACTED]".toList (e.redact value).toList)

/-! ### The results -/

variable (result : CommandResult)

def failure (err : String) : HostProg CommandResult := do
  return { result with error := e.redact err, finishedAt := ← eff .now }

def connectorSuccess (message runtimeStatus : String) : HostProg CommandResult := do
  return { result with
    success := true
    exitCode := 0
    stdout := message
    message := message
    runtimeStatus := runtimeStatus
    finishedAt := ← eff .now }

def connectorFailure (action : String) (output : RunOutput) (err : String) :
    HostProg CommandResult := do
  let expired := (← eff .contextError) = some "context deadline exceeded"
  let stderr := redactConnectorOutput e output.stderr p.token
  return { result with
    exitCode := if output.exitCode = 0 then -1 else output.exitCode
    stderr := if !expired && decide (output.exitCode < 0) then
        trimSpace (stderr ++ "\n" ++ redactConnectorOutput e err p.token)
      else stderr
    stdout := redactConnectorOutput e output.stdout p.token
    truncated := output.truncated
    timedOut := expired || result.timedOut
    error := action ++ (if expired then " timed out" else " failed")
    finishedAt := ← eff .now }

def connectorFailureWithCandidateCleanup (action : String) (output : RunOutput) (err : String) :
    HostProg CommandResult := do
  let _ ← removeContainer (candidateContainerName p)
  connectorFailure e p result action output err

/-- The status that `connectorRuntimeDiagnostic` finds. -/
def runtimeStatus : HostProg String := do
  let inspected ← eff (.docker ["container", "inspect", "--format",
    "\x7b\x7b.State.Running\x7d\x7d|\x7b\x7b.State.StartedAt\x7d\x7d", containerName p])
  let (running, startedAt) := splitFirst '|' (trimSpace inspected.output.stdout).toList
  if inspected.err.isSome || startedAt.isNone || running ≠ "true".toList then do
    let candidate ← eff (.docker (inspectArgs (candidateContainerName p)))
    pure (if candidate.err.isNone && candidate.output.exitCode == 0 then "failed" else "stopped")
  else do
    let since := e.logsSince (String.ofList (startedAt.getD [])) (← eff .now)
    let logs ← eff (.docker ["container", "logs", "--since", since, "--tail", "200",
      containerName p])
    let text := (toLower (logs.output.stdout ++ "\n" ++ logs.output.stderr)).toList
    pure (if occurs "unable to reach the origin service".toList text then "origin_unhealthy"
      else if occurs "registered tunnel connection".toList text then "connected"
      else "reconnecting")

/-! ### The command -/

def disableConnector : HostProg CommandResult := do
  let candidate ← removeContainer (candidateContainerName p)
  let container ← removeContainer (containerName p)
  let token ← (removeToken e p).run
  match candidate.err, container.err, token with
  | some err, _, _ =>
      connectorFailure e p result "remove connector candidate" candidate.output err
  | none, some err, _ =>
      connectorFailure e p result "remove connector container" container.output err
  | none, none, .error err => connectorFailure e p result "remove connector token" {} err
  | none, none, .ok () => connectorSuccess result "cloudflare connector disabled" "stopped"

def renameCandidate : HostProg CommandResult := do
  let renamed ← eff (.docker (renameArgs p))
  match renamed.err with
  | some err =>
      connectorFailureWithCandidateCleanup e p result "promote connector candidate"
        renamed.output err
  | none =>
      let status ← runtimeStatus e p
      connectorSuccess result "cloudflare connector enabled" status

/-- The earlier container makes way for the candidate, which runs. -/
def promoteCandidate : HostProg CommandResult := do
  let retired ← removeContainer (containerName p)
  match retired.err with
  | some err =>
      connectorFailureWithCandidateCleanup e p result "retire previous connector container"
        retired.output err
  | none => renameCandidate e p result

/-- Why a container counts as not running. -/
def notRunning (inspected : RunResult) : Option String :=
  match inspected.err with
  | some err => some err
  | none => if trimSpace inspected.output.stdout = "true" then none
      else some "container did not enter the running state"

def startCandidate : HostProg CommandResult := do
  let created ← eff (.docker (createArgs e p (← eff .identity)))
  match created.err with
  | some err =>
      connectorFailureWithCandidateCleanup e p result "create connector container"
        created.output err
  | none =>
      let started ← eff (.docker (startArgs p))
      match started.err with
      | some err =>
          connectorFailureWithCandidateCleanup e p result "start connector container"
            started.output err
      | none =>
          let inspected ← eff (.docker (runningArgs p))
          match notRunning inspected with
          | some err =>
              connectorFailureWithCandidateCleanup e p result "verify connector container"
                inspected.output err
          | none => promoteCandidate e p result

def enableConnector : HostProg CommandResult := do
  match ← (writeTokenAtomically e p).run with
  | .error err => connectorFailure e p result "persist connector token" {} err
  | .ok () =>
      let network ← ensureNetwork e
      match network.err with
      | some err => connectorFailure e p result "ensure edge network" network.output err
      | none =>
          let stale ← removeContainer (candidateContainerName p)
          match stale.err with
          | some err =>
              connectorFailure e p result "remove stale connector candidate" stale.output err
          | none => startCandidate e p result

def executeConnectorSync (raw : Option ConnectorSyncPayload) : HostProg CommandResult :=
  match decodeConnectorSyncPayload raw with
  | .error err => failure e result err
  | .ok p => do
      match ← eff .contextError with
      | some err => connectorFailure e p result "synchronize connector" {} err
      | none =>
          if p.enabled = some true then enableConnector e p result
          else disableConnector e p result

/-! ### What Docker does -/

/-- A container is the same under another name. -/
structure Container where
  id : ℕ
  running : Bool
deriving DecidableEq

abbrev Containers := String → Option Container

/-- What a command that takes effect does to the containers, by their names. -/
inductive Does : List String → Containers → Containers → Prop where
  | create {d : Containers} {name : String} {rest : List String} {id : ℕ} (hfree : d name = none)
      (hfresh : ∀ other c, d other = some c → c.id ≠ id) :
      Does ("container" :: "create" :: "--name" :: name :: rest) d
        (Function.update d name (some ⟨id, false⟩))
  | start {d : Containers} {name : String} {c : Container} (hfound : d name = some c) :
      Does ["container", "start", name] d (Function.update d name (some { c with running := true }))
  | rm {d : Containers} (name : String) :
      Does (removeArgs name) d (Function.update d name none)
  | rename {d : Containers} {source name : String} {c : Container} (hfound : d source = some c)
      (hfree : d name = none) :
      Does ["container", "rename", source, name] d
        (Function.update (Function.update d name (some c)) source none)
  | other {args : List String} (d : Containers)
      (hargs : ∀ verb ∈ ["create", "start", "rm", "rename"], args.take 2 ≠ ["container", verb]) :
      Does args d d

/-- A command that fails takes effect all the same where `late` says so and it can. -/
def Ran (late : List String → Prop) (d : Containers) (args : List String) (r : RunResult)
    (d' : Containers) : Prop :=
  if r.err = none then Does args d d'
  else Does args d d' ∧ late args ∨ d' = d ∧ (late args → ∀ d'', ¬ Does args d d'')

def syncEffect (links : String → String) (late : List String → Prop) :
    HostState Containers → (o : HostOp) → o.Res → HostState Containers → Prop :=
  hostEffect links (Ran late)

end GatewayControl.ConnectorSync
