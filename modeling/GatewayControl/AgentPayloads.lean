import GatewayControl.ComposeModel
import GatewayControl.ConnectorSync
import GatewayControl.DeploymentApply
import GatewayControl.JsonDecoder

/-!
The agent's strict decoders: a payload, or a backup manifest, is decoded, the decoder is asked for
a second value, and the fields are checked.
-/

namespace GatewayControl.AgentPayloads

open Text AgentTypes JsonDecoder

abbrev Bytes := List UInt8

/-- A byte is a character of its own. -/
def text (raw : Bytes) : List Char := raw.map fun b => Char.ofNat b.toNat

variable {α : Type} (schema : Schema α)

/-- What the decoders share. -/
def decodeOnly (invalid : String → String) (trailing : String) (raw : Bytes) : Except String α :=
  match schema.decode (text raw) with
  | .error err => .error (invalid err)
  | .ok (value, rest) => if decodesNothing rest then .error trailing else .ok value

def strictDecode (raw : Bytes) : Except String α :=
  if raw = [] then .error "payload is required"
  else decodeOnly schema id "payload contains trailing data" raw

/-! ### Payloads -/

structure ComposePayload where
  stack : String
  project : String
  composePath : String
deriving DecidableEq

def checkCompose (payload : ComposePayload) : Except String ComposePayload :=
  if !ComposeModel.stackPattern payload.stack then .error "stack must be a valid identifier"
  else if !composeProjectPattern payload.project then
    .error ("project must use 1 to 63 lowercase letters, numbers, underscores, or hyphens and " ++
      "start with a letter or number")
  else .ok payload

def decodeComposePayload (schema : Schema ComposePayload) (raw : Bytes) :
    Except String ComposePayload :=
  if raw = [] then .error "compose command payload is required"
  else
    (decodeOnly schema ("invalid compose payload: " ++ ·) "compose payload contains trailing data"
      raw).bind checkCompose

def decodeConnectorSyncPayload (schema : Schema ConnectorSyncPayload) (raw : Bytes) :
    Except String ConnectorSyncPayload :=
  if raw = [] then .error "connector sync payload is required"
  else
    (decodeOnly schema ("invalid connector sync payload: " ++ ·)
      "connector sync payload contains trailing data" raw).bind fun payload =>
        ConnectorSync.decodeConnectorSyncPayload (some payload)

def checkConnectorRemove (payload : ConnectorRemovePayload) :
    Except String ConnectorRemovePayload :=
  if !connectorUUIDPattern payload.connectorId || payload.revision < 1 then
    .error "invalid connector remove payload"
  else .ok payload

/-- What `executeConnectorRemove` goes on with. -/
def decodeConnectorRemovePayload (schema : Schema ConnectorRemovePayload) (raw : Bytes) :
    Except String ConnectorRemovePayload :=
  (decodeOnly schema (fun _ => "invalid connector remove payload")
    "invalid connector remove payload" raw).bind checkConnectorRemove

/-! ### Routes -/

def validDisplayName (name : String) (maximum : ℕ) : Bool :=
  1 ≤ name.utf8ByteSize && name.utf8ByteSize ≤ maximum && trimSpace name = name &&
    name.toList.all fun character => !isControl character

def hostnameLabelPattern (label : List Char) : Bool :=
  1 ≤ label.length && label.length ≤ 63 && label.all (fun c => isLowerOrDigit c || c = '-') &&
    label.head? != some '-' && label.getLast? != some '-'

/-- The parts of a URL that are looked at. -/
structure BackendUrl where
  scheme : String
  host : String
  user : Bool
  fragment : String
  rawQuery : String
deriving DecidableEq

/-- What the agent uses of Go's `net` and `net/url`. -/
structure Net where
  parseIP : String → Bool
  parseUrl : String → Option BackendUrl

variable (net : Net)

def validHostname (hostname : String) : Bool :=
  1 ≤ hostname.utf8ByteSize && hostname.utf8ByteSize ≤ 253 && !net.parseIP hostname &&
    (hostname.toList.splitOn '.').all hostnameLabelPattern

def validateBackendURL (value : String) : Except String Unit :=
  if value.utf8ByteSize < 8 ∨ 2048 < value.utf8ByteSize ∨ trimSpace value ≠ value then
    .error "backend URL is invalid"
  else
    match net.parseUrl value with
    | some u =>
        if (u.scheme = "http" ∨ u.scheme = "https") ∧ u.host ≠ "" ∧ u.user = false ∧
            u.fragment = "" ∧ u.rawQuery = "" then .ok ()
        else .error ("backend URL must be an absolute HTTP or HTTPS URL without credentials, " ++
          "query, or fragment")
    | none => .error ("backend URL must be an absolute HTTP or HTTPS URL without credentials, " ++
        "query, or fragment")

def checkBackends : (seen backends : List String) → Except String Unit
  | _, [] => .ok ()
  | seen, backend :: backends => do
      validateBackendURL net backend
      if seen.contains backend then .error "backends must not contain duplicate URLs"
      else checkBackends (backend :: seen) backends

def checkRoute (payload : RouteSyncPayload) : Except String RouteSyncPayload :=
  if !connectorUUIDPattern payload.routeId then .error "routeId must be a valid UUID"
  else if !validDisplayName payload.name 120 then
    .error "name must contain 1 to 120 valid, non-control characters"
  else
    let payload := { payload with hostname := toLower payload.hostname }
    if !validHostname net payload.hostname then .error "hostname must be a valid DNS hostname"
    else if payload.exposure ≠ "tunnel" ∧ payload.exposure ≠ "public" then
      .error "exposure must be tunnel or public"
    else if payload.enabled = none then .error "enabled must be a boolean"
    else if payload.revision.all (· < 1) then .error "revision must be a positive integer"
    else if payload.backends.length < 1 ∨ 20 < payload.backends.length then
      .error "backends must contain 1 to 20 URLs"
    else (checkBackends net [] payload.backends).map fun _ => payload

def maximumRoutePayloadBytes : ℕ := 256 * 1024

def decodeRouteSyncPayload (schema : Schema RouteSyncPayload) (raw : Bytes) :
    Except String RouteSyncPayload :=
  if raw = [] ∨ maximumRoutePayloadBytes < raw.length then
    .error "route sync payload is too large"
  else
    (decodeOnly schema ("invalid route sync payload: " ++ ·)
      "route sync payload contains trailing data" raw).bind (checkRoute net)

/-! ### Deployments and manifests -/

def maximumDeploymentPayloadBytes : ℕ := 3 * 1024 * 1024

def decodeDeploymentComposePayload (e : DeploymentApply.Executor)
    (schema : Schema DeploymentApply.DeploymentPayload) (raw : Bytes) :
    Except String DeploymentApply.DeploymentPayload :=
  if raw = [] ∨ maximumDeploymentPayloadBytes < raw.length then
    .error "deployment payload exceeds 1 MiB"
  else
    (decodeOnly schema id "deployment payload contains trailing data" raw).bind fun payload =>
      DeploymentApply.decodeDeploymentComposePayload e (some payload)

/-- The manifest of `contents`; `validate` are the checks on it and on the archives beside it. -/
def loadAndValidateManifest (schema : Schema BackupManifest)
    (validate : BackupManifest → Except String Unit) (contents : Bytes) :
    Except String BackupManifest :=
  if 2 ^ 20 < contents.length then .error "backup manifest is unavailable"
  else
    match strictDecode schema contents with
    | .error _ => .error "backup manifest does not match restore request"
    | .ok manifest => (validate manifest).map fun _ => manifest

end GatewayControl.AgentPayloads
