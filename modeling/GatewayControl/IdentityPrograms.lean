import GatewayControl.Cloudflare
import GatewayControl.Identity
import GatewayControl.Programs

/-!
How connector tokens are verified: when a connector is created or changed, in the periodic
reconciliation, and on request.

How a secret is decrypted and how a tunnel token is read are parameters. Request bodies come
with their fields checked.
-/

namespace GatewayControl.Identity

open Database (Time IdentityStatus)
open Cloudflare (Failure)
open Programs

/-! ### Calls -/

inductive Endpoint where
  | fed
  | us
deriving DecidableEq

structure ParsedToken where
  accountIdentifier : String
  tunnelId : String
  endpoint : Option Endpoint
  secretMaterial : String
deriving DecidableEq

/-- Decryption and the reading of a tunnel token. -/
structure Keys where
  decrypt : String → Option String
  parse : String → Option ParsedToken

structure TunnelMetadata where
  id : String
  accountIdentifier : String
  deleted : Bool

inductive Op where
  | getCloudflareAccountSecretByIdentifier (accountIdentifier : String)
  | getConnectorDeployment (id : String)
  | markConnectorIdentity (id : String) (expected : Expectation) (values : IdentityValues)
  | createConnector (values : ConnectorValues)
  | updateConnector (id : String) (values : ConnectorChange)
  | listConnectors
  | hasEnabledDomainAccessDependency (id : String)
  | listConnectorIdentityDeployments (limit : Nat)
  | encrypt (token : String)
  | getTunnelMetadata (apiToken : String) (federal : Bool) (accountIdentifier tunnelId : String)
  | getTunnelToken (apiToken : String) (federal : Bool) (accountIdentifier tunnelId : String)

abbrev Op.Answer : Op → Type
  | .getCloudflareAccountSecretByIdentifier _ => Option AccountRow
  | .getConnectorDeployment _ | .markConnectorIdentity _ _ _ | .createConnector _
  | .updateConnector _ _ => Option ConnectorRow
  | .listConnectors | .listConnectorIdentityDeployments _ => List ConnectorRow
  | .hasEnabledDomainAccessDependency _ => Bool
  | .encrypt _ | .getTunnelToken _ _ _ _ => String
  | .getTunnelMetadata _ _ _ _ => TunnelMetadata

/-- A call answers or throws. -/
abbrev Plane : Interface := ⟨Op, fun o => Except Failure o.Answer⟩

abbrev Handler (α : Type) := ExceptT Failure (Prog Plane) α

def call (o : Op) : Handler o.Answer := ExceptT.mk (Prog.perform (F := Plane) o)

/-! ### Verification -/

def temporarilyUnavailable : Failure :=
  .api 503 "Cloudflare connector identity verification is temporarily unavailable."
    (some "connector_identity_verification_failed")

def invalidToken : Failure :=
  .api 400 "The Cloudflare tunnel connector token is invalid." (some "invalid_connector_token")

/-- What an error of the verification becomes. -/
def asVerificationError : Failure → Failure
  | .api status message code => .api status message code
  | e => if e.isExplicitNotFound then
      .api 409 "The Cloudflare tunnel was not found." (some "connector_tunnel_not_found")
    else temporarilyUnavailable

variable (keys : Keys)

/-- The part that asks Cloudflare. -/
def verifyAtCloudflare (parsed : ParsedToken) (accountId apiToken : String) :
    Handler VerifiedIdentity := do
  let federal := parsed.endpoint == some .fed
  let metadata ← call
    (.getTunnelMetadata apiToken federal parsed.accountIdentifier parsed.tunnelId)
  if metadata.deleted then
    throw (.api 409 "The Cloudflare tunnel has been deleted." (some "connector_tunnel_deleted"))
  else if metadata.accountIdentifier ≠ parsed.accountIdentifier ∨
      metadata.id ≠ parsed.tunnelId then
    throw (.api 409 "The connector token does not match the Cloudflare tunnel."
      (some "connector_identity_mismatch"))
  else
    let token ← call (.getTunnelToken apiToken federal parsed.accountIdentifier parsed.tunnelId)
    match keys.parse token with
    | none => throw (.other "The Cloudflare tunnel connector token is invalid.")
    | some remote =>
      if remote ≠ parsed then
        throw (.api 409 "The connector token is not the current Cloudflare tunnel token."
          (some "connector_token_mismatch"))
      else
        return { accountId, accountIdentifier := parsed.accountIdentifier,
                 tunnelId := parsed.tunnelId }

def verifyParsedConnectorIdentity (parsed : ParsedToken) : Handler VerifiedIdentity := do
  match ← call (.getCloudflareAccountSecretByIdentifier parsed.accountIdentifier) with
  | none => throw (.api 409 "No enabled Cloudflare account matches the connector token."
      (some "connector_account_unlinked"))
  | some account =>
    match keys.decrypt account.encryptedApiToken with
    | none => throw temporarilyUnavailable
    | some apiToken =>
      tryCatch (verifyAtCloudflare keys parsed account.id apiToken)
        fun e => throw (asVerificationError e)

def verifyConnectorToken (token : String) : Handler VerifiedIdentity :=
  match keys.parse token with
  | none => throw invalidToken
  | some parsed => verifyParsedConnectorIdentity keys parsed

/-- The code of an error that may be of any kind. -/
def verificationCode : Failure → Option String
  | .api _ _ code => code
  | _ => some "connector_identity_verification_failed"

def verificationError (e : Failure) : String :=
  (verificationCode e).getD "connector_identity_verification_failed"

structure CreationIdentity where
  accountId : Option String := none
  accountIdentifier : String
  tunnelId : String
  identityStatus : IdentityStatus
  identityError : Option String := none

def creationStatus (e : Failure) : IdentityStatus :=
  if verificationCode e = some "connector_identity_verification_failed" then .parsed
  else .mismatch

def connectorIdentityForCreation (token : String)
    (submittedAccountId submittedTunnelId : Option String) : Handler CreationIdentity :=
  match keys.parse token with
  | none => throw invalidToken
  | some parsed => do
    let parsedIdentity : CreationIdentity :=
      { accountIdentifier := parsed.accountIdentifier, tunnelId := parsed.tunnelId,
        identityStatus := .unmatched, identityError := some "connector_account_unlinked" }
    match ← call (.getCloudflareAccountSecretByIdentifier parsed.accountIdentifier) with
    | none => return parsedIdentity
    | some account =>
      if submittedAccountId.any (· ≠ account.id) ||
          submittedTunnelId.any (·.toLower ≠ parsed.tunnelId) then
        return { parsedIdentity with
          accountId := some account.id
          identityStatus := .mismatch
          identityError := some "connector_submitted_identity_mismatch" }
      else
        match ← ExceptT.lift (verifyParsedConnectorIdentity keys parsed).run with
        | .ok verified =>
          return { accountId := some verified.accountId,
                   accountIdentifier := verified.accountIdentifier,
                   tunnelId := verified.tunnelId, identityStatus := .verified }
        | .error e =>
          return { parsedIdentity with
            accountId := some account.id
            identityStatus := creationStatus e
            identityError := some (verificationError e) }

def storedStatus (e : Failure) : IdentityStatus :=
  if verificationCode e = some "connector_account_unlinked" then .unmatched
  else if verificationCode e = some "connector_identity_verification_failed" then .pending
  else .mismatch

/-- The error a verification of a stored connector ends with. -/
def thrownAs : Failure → Failure
  | .api status message code => .api status message code
  | _ => temporarilyUnavailable

def connectorNotFound : Failure :=
  .api 404 "Connector not found." (some "connector_not_found")

/-- What is recorded before a stored token is verified. -/
def parsedValues (parsed : ParsedToken) : IdentityValues :=
  { status := .parsed, accountIdentifier := some parsed.accountIdentifier,
    tunnelId := some parsed.tunnelId }

def failedValues (parsed : ParsedToken) (e : Failure) : IdentityValues :=
  { parsedValues parsed with
    status := storedStatus e
    error := some (verificationError e) }

def verifiedValues (identity : VerifiedIdentity) : IdentityValues :=
  { status := .verified, accountId := some identity.accountId,
    accountIdentifier := some identity.accountIdentifier, tunnelId := some identity.tunnelId }

/-- What follows the verification of a stored token. -/
def recordVerdict (id : String) (expected : Expectation) (parsed : ParsedToken) :
    Except Failure VerifiedIdentity → Handler (Option ConnectorRow)
  | .error e => do
    match ← call (.markConnectorIdentity id expected (failedValues parsed e)) with
    | none => return none
    | some _ => throw (thrownAs e)
  | .ok identity => do
    match ← call (.markConnectorIdentity id expected (verifiedValues identity)) with
    | none => return none
    | some verified =>
      if verified.identityStatus = .mismatch then
        throw (.api 409 "The connector token identity does not match its persisted topology."
          (some "connector_identity_mismatch"))
      else return some verified

/-- From the token on. -/
def verifyStoredToken (id : String) (expected : Expectation) (parsed : ParsedToken) :
    Handler (Option ConnectorRow) := do
  match ← call (.markConnectorIdentity id expected (parsedValues parsed)) with
  | none => return none
  | some _ =>
    let verdict ← ExceptT.lift (verifyParsedConnectorIdentity keys parsed).run
    recordVerdict id expected parsed verdict

/-- From the deployment on. -/
def verifyReadConnector (connectorId : String) (deployment : ConnectorRow) :
    Handler (Option ConnectorRow) :=
  let expected : Expectation :=
    { desiredRevision := deployment.desiredRevision,
      encryptedToken := deployment.encryptedToken }
  match keys.decrypt deployment.encryptedToken with
  | none => call (.markConnectorIdentity connectorId expected
      { status := .failed, error := some "connector_credentials_unavailable" })
  | some token =>
    match keys.parse token with
    | none => do
      match ← call (.markConnectorIdentity connectorId expected
          { status := .invalid, error := some "invalid_connector_token" }) with
      | none => return none
      | some _ => throw invalidToken
    | some parsed => verifyStoredToken keys connectorId expected parsed

def verifyStoredConnector (connectorId : String) : Handler (Option ConnectorRow) := do
  match ← call (.getConnectorDeployment connectorId) with
  | none => throw connectorNotFound
  | some deployment => verifyReadConnector keys connectorId deployment

/-- The errors of the single verifications are dropped. -/
def verifyAll : List ConnectorRow → Handler Unit
  | [] => pure ()
  | c :: cs => do
    let _ ← ExceptT.lift (verifyStoredConnector keys c.id).run
    verifyAll cs

def reconcileConnectorIdentities : Handler Unit := do
  let connectors ← call (.listConnectorIdentityDeployments 20)
  verifyAll keys connectors

/-! ### Requests -/

structure CreateBody where
  name : String
  token : String
  enabled : Bool
  agentId : String
  accountId : Option String
  tunnelId : Option String

def creationValues (name encryptedToken : String) (enabled : Bool) (agentId : String)
    (identity : CreationIdentity) : ConnectorValues :=
  { name, encryptedToken, enabled, agentId, accountId := identity.accountId,
    accountIdentifier := identity.accountIdentifier, tunnelId := identity.tunnelId,
    identityStatus := identity.identityStatus, identityError := identity.identityError }

def postConnector (body : CreateBody) : Handler ConnectorRow := do
  let identity ← connectorIdentityForCreation keys body.token body.accountId body.tunnelId
  let encryptedToken ← call (.encrypt body.token)
  match ← call (.createConnector
      (creationValues body.name encryptedToken body.enabled body.agentId identity)) with
  | none => throw (.api 409 "An enabled, enrolled agent is required."
      (some "connector_target_unavailable"))
  | some connector => return connector

/-- The guided bootstrap's connector, of the account and the tunnel it has made. -/
def bootstrapConnector (connectorName connectorToken accountId tunnelId agentId : String) :
    Handler ConnectorRow := do
  let identity ← connectorIdentityForCreation keys connectorToken (some accountId) (some tunnelId)
  if identity.identityStatus ≠ .verified then
    throw (.api 409 "The created tunnel token could not be verified."
      (some "connector_identity_unverified"))
  else
    let encryptedToken ← call (.encrypt connectorToken)
    match ← call (.createConnector
        (creationValues connectorName encryptedToken true agentId identity)) with
    | none => throw (.api 409 "The selected Agent became unavailable."
        (some "connector_target_unavailable"))
    | some connector => return connector

structure PatchBody where
  name : Option String
  token : Option String
  enabled : Option Bool
  agentId : Option String
  accountId : Option String
  tunnelId : Option String

def PatchBody.touchesTopology (body : PatchBody) : Bool :=
  body.enabled == some false || body.agentId.isSome || body.token.isSome ||
    body.accountId.isSome || body.tunnelId.isSome

/-- `token === undefined ? undefined : await ...`, of the verification and of encryption. -/
def whenGiven {α : Type} (token : Option String) (f : String → Handler α) : Handler (Option α) :=
  match token with
  | none => pure none
  | some token => do
    let a ← f token
    return some a

def dependencyEnabled (id : String) (body : PatchBody) : Handler Bool :=
  if body.touchesTopology then call (.hasEnabledDomainAccessDependency id) else pure false

def patchConnector (id : String) (body : PatchBody) : Handler ConnectorRow := do
  let connectors ← call .listConnectors
  match connectors.find? (·.id = id) with
  | none => throw (.api 404 "Connector not found." none)
  | some current =>
    let dependent ← dependencyEnabled id body
    if dependent then
      throw (.api 409 "Disable linked domain access before changing this connector."
        (some "domain_access_dependency_enabled"))
    else
      let identity ← whenGiven body.token (verifyConnectorToken keys)
      if body.accountId.any (some · ≠ (identity.map (·.accountId)).or current.accountId) ||
          body.tunnelId.any (some ·.toLower ≠
            (identity.map (·.tunnelId)).or current.tokenTunnelId) then
        throw (.api 409 "Submitted connector binding does not match the token identity."
          (some "connector_submitted_identity_mismatch"))
      else if body.enabled = some true ∧ identity.isNone ∧
          connectorIdentityAllowsRuntime current = false then
        throw (.api 409
          "The connector token must contain a parsed identity before it can be enabled."
          (some "connector_identity_unverified"))
      else
        let encryptedToken ← whenGiven body.token fun token => call (.encrypt token)
        match ← call (.updateConnector id
            { name := body.name, encryptedToken, enabled := body.enabled,
              agentId := body.agentId, identity }) with
        | none => throw (.api 404 "Connector not found." none)
        | some connector => return connector

/-! ### What the calls do -/

/-- What a call takes from outside. -/
structure Choice where
  newId : String
  encrypted : String
  metadata : Except Failure TunnelMetadata
  tunnelToken : Except Failure String

def refused (r : Refusal) : Failure :=
  .other (match r with
    | .coherence => "cloudflare_connectors_identity_coherence"
    | .tokenIdentityPair => "cloudflare_connectors_token_identity_pair"
    | .tunnelAssignment => "cloudflare_connectors_tunnel_assignment"
    | .dependencyEnabled => "domain_access_dependency_enabled"
    | .accountTunnelTaken => "cloudflare_connectors_account_tunnel_unique"
    | .verifiedIdentityTaken => "cloudflare_connectors_verified_token_identity_unique"
    | .duplicate => "cloudflare_connectors_pkey")

def stored {α : Type} (db : Db) : Except Refusal (Db × α) → Except Failure α × Db
  | .ok (db', a) => (.ok a, db')
  | .error r => (.error (refused r), db)

def Op.run (ch : Choice) (db : Db) : (o : Op) → Except Failure o.Answer × Db
  | .getCloudflareAccountSecretByIdentifier accountIdentifier =>
      (.ok (Identity.getCloudflareAccountSecretByIdentifier db accountIdentifier), db)
  | .getConnectorDeployment id => (.ok (db.connectors.find? id), db)
  | .markConnectorIdentity id expected values =>
      stored db (Identity.markConnectorIdentity db id expected values)
  | .createConnector values => stored db (Identity.createConnector db ch.newId values)
  | .updateConnector id values => stored db (Identity.updateConnector db id values)
  | .listConnectors => (.ok db.connectors.rows, db)
  | .hasEnabledDomainAccessDependency id => (.ok (db.guarded.contains id), db)
  | .listConnectorIdentityDeployments limit =>
      (.ok (Identity.listConnectorIdentityDeployments db limit), db)
  | .encrypt _ => (.ok ch.encrypted, db)
  | .getTunnelMetadata _ _ _ _ => (ch.metadata, db)
  | .getTunnelToken _ _ _ _ => (ch.tunnelToken, db)

end GatewayControl.Identity
