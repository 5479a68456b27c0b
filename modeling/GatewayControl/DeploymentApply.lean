import GatewayControl.ComposeModel
import GatewayControl.Host

/-!
`deployment.compose.apply`: the executor stores the new definition, has Docker Compose validate
and apply it, and takes it back when that fails. Which way it takes it back depends on whether the
payload names a prior revision.
-/

namespace GatewayControl.DeploymentApply

open Text AgentTypes Programs Host

/-- The executor's configuration. `redact` is the masking of secrets, `sha256` the digest in
hexadecimal and `unmarshal` the JSON decoder. -/
structure Executor where
  deploymentsRoot : String
  hostDeploymentsRoot : String
  protectedProjects : List String
  redact : String → String
  sha256 : String → String
  unmarshal : String → Option Document

variable (e : Executor)

/-! ### The payload -/

structure DeploymentPayload where
  runId : String
  revisionId : String
  projectName : String
  sourceCompose : String
  checksum : String
  action : String
  priorRevisionId : String := ""
  priorCompose : String := ""
  priorChecksum : String := ""

def maximumDeploymentComposeBytes : ℕ := 1024 * 1024

def revisionChecksumPattern (checksum : String) : Bool :=
  checksum.toList.length == 64 && checksum.toList.all fun c =>
    c.isDigit || ('a' ≤ c && c ≤ 'f')

def validComposeChecksum (compose checksum : String) : Bool :=
  1 ≤ compose.utf8ByteSize && compose.utf8ByteSize ≤ maximumDeploymentComposeBytes &&
    revisionChecksumPattern checksum && e.sha256 compose == checksum

/-- `none` is a payload that the JSON decoder refuses. -/
def decodeDeploymentComposePayload : Option DeploymentPayload → Except String DeploymentPayload
  | none => .error "invalid deployment payload"
  | some p =>
      if !connectorUUIDPattern p.runId || !connectorUUIDPattern p.revisionId ||
          !composeProjectPattern p.projectName then
        .error "deployment identifiers are invalid"
      else if p.action ≠ "deploy" ∧ p.action ≠ "rollback" ∧ p.action ≠ "stop" then
        .error "deployment action is invalid"
      else if !validComposeChecksum e p.sourceCompose p.checksum then
        .error "deployment source checksum is invalid"
      else if p.priorRevisionId ≠ "" then
        if !connectorUUIDPattern p.priorRevisionId ||
            !validComposeChecksum e p.priorCompose p.priorChecksum then
          .error "prior deployment revision is invalid"
        else .ok p
      else if p.priorCompose ≠ "" ∨ p.priorChecksum ≠ "" then
        .error "prior deployment fields are incomplete"
      else .ok p

/-! ### The definition and its commands -/

def composeName : String := "compose.yaml"

def candidateName (p : DeploymentPayload) : String :=
  ".candidate-" ++ toLower p.revisionId ++ ".yaml"

/-- The path of a file of the project that Docker Compose is given. -/
def hostPath (p : DeploymentPayload) (name : String) : String :=
  join (join e.hostDeploymentsRoot p.projectName) name

def composeArgs (p : DeploymentPayload) (name : String) (command : List String) : List String :=
  ["compose", "--project-name", p.projectName, "--file", hostPath e p name] ++ command

def configArgs (p : DeploymentPayload) : List String :=
  composeArgs e p (candidateName p) ["config", "--format", "json"]

def upArgs (p : DeploymentPayload) : List String :=
  composeArgs e p composeName ["up", "--detach", "--remove-orphans", "--pull", "missing"]

def psArgs (p : DeploymentPayload) : List String :=
  composeArgs e p composeName ["ps", "--all", "--quiet"]

def downArgs (p : DeploymentPayload) : List String :=
  composeArgs e p composeName ["down", "--remove-orphans"]

def stopArgs (p : DeploymentPayload) : List String := composeArgs e p composeName ["stop"]

/-- `restoreFile`. -/
def restoreFile (directory name : String) : Option Contents → HostFallible Unit
  | some contents => writeFileAtomically directory name contents
  | none => removeFileAndSync directory name

def acceptedModel (stdout : String) : Bool :=
  match e.unmarshal stdout with
  | none => false
  | some model => (ComposeModel.validateNormalizedComposeJSON model).isOk

/-! ### Compensation -/

variable (p : DeploymentPayload) (directory : String)

def restorePrior : HostProg Bool := do
  match ← (writeFileAtomically directory composeName (.text p.priorCompose)).run with
  | .error _ => pure false
  | .ok () =>
      let up ← eff (.docker (upArgs e p))
      if up.err.isSome then pure false
      else do
        let verification ← eff (.docker (psArgs e p))
        pure (verification.err.isNone && !verification.output.truncated &&
          trimSpace verification.output.stdout ≠ "")

def removeInitial (previous : Option Contents) : HostProg Bool := do
  let cleanup ← eff (.docker (downArgs e p))
  let restored ← (restoreFile directory composeName previous).run
  pure (cleanup.err.isNone && restored.isOk)

/-- Whether the compensation succeeded, and its status. -/
def compensate (previous : Option Contents) : HostProg (Bool × String) :=
  if p.priorRevisionId ≠ "" then do
    let succeeded ← restorePrior e p directory
    pure (succeeded,
      if succeeded then "prior revision restored and verified"
      else "prior revision rollback failed")
  else do
    let succeeded ← removeInitial e p directory previous
    pure (succeeded,
      if succeeded then "initial resources removed and definition restored"
      else "initial cleanup failed")

def compensationMessage (succeeded : Bool) (status : String) : String :=
  "primary=failed compensation_attempted=true compensation_succeeded=" ++
    (if succeeded then "true" else "false") ++ " status=" ++ status

/-! ### The command -/

variable (result : CommandResult)

def failure (err : String) : HostProg CommandResult := do
  return { result with error := e.redact err, finishedAt := ← eff .now }

def runDeploymentAction : HostProg CommandResult := do
  let r ← eff (.docker (stopArgs e p))
  let result := { result with
    stdout := e.redact r.output.stdout
    stderr := e.redact r.output.stderr
    truncated := r.output.truncated
    finishedAt := ← eff .now }
  if r.err.isNone then
    return { result with success := true, exitCode := 0 }
  else
    return { result with exitCode := r.output.exitCode, error := "deployment action failed" }

def stopDeployment : HostProg CommandResult := do
  match ← (readRegularFile (join directory composeName)).run with
  | .ok (some _) => runDeploymentAction e p result
  | _ => failure e result "deployed revision is unavailable"

/-- What is done once the new definition is in place. -/
def applyDefinition (previous : Option Contents) : HostProg CommandResult := do
  let r ← eff (.docker (upArgs e p))
  if r.err.isNone then
    return { result with
      success := true
      exitCode := 0
      stdout := "deployment applied"
      stderr := e.redact r.output.stderr
      truncated := r.output.truncated
      finishedAt := ← eff .now }
  else do
    let (succeeded, status) ← compensate e p directory previous
    return { result with
      exitCode := r.output.exitCode
      stderr := e.redact r.output.stderr
      truncated := r.output.truncated
      error := "deployment failed after Compose mutation"
      message := compensationMessage succeeded status
      finishedAt := ← eff .now }

def replaceDefinition : HostProg CommandResult := do
  match ← (readRegularFile (join directory composeName)).run with
  | .error _ => failure e result "deployment storage failed"
  | .ok previous =>
      match ← (writeFileAtomically directory composeName (.text p.sourceCompose)).run with
      | .error _ => failure e result "deployment storage failed"
      | .ok () => applyDefinition e p directory result previous

def applyCandidate : HostProg CommandResult := do
  match ← (writeFileAtomically directory (candidateName p) (.text p.sourceCompose)).run with
  | .error _ => failure e result "deployment storage failed"
  | .ok () =>
      let configuration ← eff (.docker (configArgs e p))
      if configuration.err.isSome || configuration.output.truncated then
        failure e result "deployment Compose validation failed"
      else if !acceptedModel e configuration.output.stdout then
        failure e result "deployment policy validation failed"
      else if p.action = "stop" then stopDeployment e p directory result
      else replaceDefinition e p directory result

def executeDeploymentComposeApply (raw : Option DeploymentPayload) : HostProg CommandResult :=
  match decodeDeploymentComposePayload e raw with
  | .error _ => failure e result "deployment payload validation failed"
  | .ok p =>
      if p.projectName ∈ e.protectedProjects then failure e result "deployment project is protected"
      else do
        match ← (secureSubdirectory e.deploymentsRoot [p.projectName]).run with
        | .error _ => failure e result "deployment storage failed"
        | .ok directory =>
            let r ← applyCandidate e p directory result
            let _ ← eff (.remove (join directory (candidateName p)))
            pure r

/-! ### What Docker Compose does -/

/-- The services that a successful `up` leaves running, by the files there are and its
arguments. -/
abbrev Up := (String → Option Node) → List String → Set String

/-- What a command does to the running services of the project; one that fails leaves any. -/
structure Ran (up : Up) (files : String → Option Node) (running : Set String) (args : List String)
    (r : RunResult) (running' : Set String) : Prop where
  config : args = configArgs e p → running' = running
  ps : args = psArgs e p → running' = running
  up : args = upArgs e p → r.err = none → running' = up files args
  down : args = downArgs e p → r.err = none → running' = ∅

def deploymentEffect (links : String → String) (up : Up) (h : HostState (Set String)) :
    (o : HostOp) → o.Res → HostState (Set String) → Prop :=
  hostEffect links (Ran e p up h.files) h

end GatewayControl.DeploymentApply
