import GatewayControl.LimitedOutput
import Mathlib.Data.List.Sort
import Mathlib.Data.String.Basic

/-!
The command that starts, stops or restarts the containers of a project: it lists them by their
labels, reads the labels of each again, and acts on all of them at once.

Docker lists the full identifiers of the containers with the labels, a line to each, and an
inspection that succeeds prints a full identifier first. Everything else it answers is left open.
-/

namespace GatewayControl.RuntimeAction

open Text LimitedOutput

/-! ### Containers -/

def isLowerHex (c : Char) : Bool := ('0' ≤ c && c ≤ '9') || ('a' ≤ c && c ≤ 'f')

structure ContainerID where
  digits : List Char
  length_digits : digits.length = 64
  hex : digits.all isLowerHex = true

def ContainerID.text (id : ContainerID) : String := String.ofList id.digits

/-- A label that is not set is empty. -/
structure Container where
  id : ContainerID
  project : String
  service : String

structure Host where
  containers : List Container
  distinct : (containers.map fun c => c.id.digits).Nodup

structure Payload where
  operationID : String
  projectName : String
  serviceName : String
  action : String
  scope : String

/-- The containers with the labels that the filters of a payload name. -/
def Host.matching (h : Host) (p : Payload) : List Container :=
  h.containers.filter fun c =>
    c.project = p.projectName ∧ (p.serviceName = "" ∨ c.service = p.serviceName)

structure Reply where
  stdout : String := ""
  stderr : String := ""
  failed : Bool := false
  exitCode : Int := 0
  error : String := ""

structure Docker where
  host : Host
  /-- Why the listing fails, if it does. -/
  listFailure : Option Reply
  inspect : String → Reply
  inspected : ∀ id, (inspect id).failed = false →
    ∃ (c : ContainerID) (rest : List Char), (inspect id).stdout.toList = c.digits ++ '\t' :: rest
  /-- The answer to an action, and whether the time was up by then. -/
  act : String → List String → Reply × Bool

def Docker.listing (d : Docker) (p : Payload) : String :=
  String.ofList (LimitedOutput.listing ((d.host.matching p).map fun c => c.id.digits))

structure Settings where
  maxOutput : ℕ
  protectedProjects : List String
  redact : String → String
  cleanCommandOutput : String → String

structure Result where
  success : Bool := false
  exitCode : Int := -1
  error : String := ""
  message : String := ""
  timedOut : Bool := false
  truncated : Bool := false
  matched : ℕ := 0
  succeeded : ℕ := 0

/-- The result, and the action with the containers it was issued for. -/
structure Outcome where
  result : Result
  issued : Option (String × List String) := none

/-! ### Discovery -/

def maximumRuntimeContainers : ℕ := 100

def maximumRuntimeDiagnosticRunes : ℕ := 500

structure RuntimeContainer where
  id : String
  name : String
  project : String
  service : String

def validContainerID (value : String) : Bool :=
  12 ≤ value.utf8ByteSize && value.utf8ByteSize ≤ 64 && value.toList.all isLowerHex

variable (s : Settings)

def runtimeDiagnostic (label : String) (output : Reply) : String :=
  let detail := trimSpace (received s.maxOutput output.stderr)
  let detail := if detail = "" then output.error else detail
  let detail := trimSpace (s.redact (s.cleanCommandOutput detail))
  if detail = "" then label
  else label ++ ": " ++ String.ofList (detail.toList.take maximumRuntimeDiagnosticRunes)

variable (d : Docker) (p : Payload)

/-- What the inspection of a container prints, in its parts. -/
def inspectedFields (id : String) : List String :=
  ((trimBoth isSpace (received s.maxOutput (d.inspect id).stdout).toList).splitOn '\t').map
    String.ofList

def labelsChanged : String := "runtime container labels changed during revalidation"

def revalidate : List String → List String → Except String (List RuntimeContainer)
  | _, [] => .ok []
  | seen, id :: ids =>
      if id ∈ seen then revalidate seen ids
      else if !validContainerID id then
        .error "runtime discovery returned an invalid container identity"
      else if (d.inspect id).failed then .error "runtime container revalidation failed"
      else
        match inspectedFields s d id with
        | [id', name, project, service] =>
            if id' ≠ id ∨ project ≠ p.projectName ∨ !composeServicePattern service ∨
                p.serviceName ≠ "" ∧ service ≠ p.serviceName then .error labelsChanged
            else do
              let containers ← revalidate (id :: seen) ids
              return ⟨id, if "/".isPrefixOf name then String.ofList name.toList.tail else name,
                project, service⟩ :: containers
        | _ => .error labelsChanged

def discoverRuntimeContainers : Except String (List RuntimeContainer) :=
  match d.listFailure with
  | some output => .error (runtimeDiagnostic s "runtime container discovery failed" output)
  | none =>
      let ids := (fields (received s.maxOutput (d.listing p)).toList).map String.ofList
      if maximumRuntimeContainers < ids.length then
        .error "runtime target exceeds the container limit"
      else revalidate s d p [] (ids.insertionSort (· ≤ ·))

/-! ### The action -/

def validFields : Bool :=
  connectorUUIDPattern p.operationID && composeProjectPattern p.projectName &&
    ["start", "stop", "restart"].contains p.action && ["project", "service"].contains p.scope &&
    ((p.scope == "service") == (p.serviceName != "")) &&
    (p.serviceName == "" || composeServicePattern p.serviceName)

def failure (error : String) : Outcome := { result := { error := s.redact error } }

/-- `raw` is the decoded payload, or why it cannot be decoded. -/
def executeRuntimeAction (raw : Except String Payload) : Outcome :=
  match raw with
  | .error err => failure s ("invalid runtime action payload: " ++ err)
  | .ok p =>
      if !validFields p then failure s "invalid runtime action fields"
      else if p.projectName ∈ s.protectedProjects then failure s "runtime project is protected"
      else
        match discoverRuntimeContainers s d p with
        | .error err => failure s err
        | .ok [] => failure s "no matching runtime containers were found"
        | .ok containers =>
            let ids := containers.map (·.id)
            let (output, deadline) := d.act p.action ids
            let truncated : Bool := Truncated s.maxOutput output.stdout ∨
              Truncated s.maxOutput output.stderr
            if deadline then
              { result := { timedOut := true, error := "command timed out", truncated }
                issued := some (p.action, ids) }
            else if output.failed then
              { result := { exitCode := output.exitCode, error := "runtime action failed",
                            truncated }
                issued := some (p.action, ids) }
            else
              { result := { success := true, exitCode := 0, truncated,
                            message := "Runtime action completed.",
                            matched := containers.length, succeeded := containers.length }
                issued := some (p.action, ids) }

end GatewayControl.RuntimeAction
