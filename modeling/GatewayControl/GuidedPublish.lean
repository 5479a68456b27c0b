import GatewayControl.PublicIp
import GatewayControl.Reconcile
import GatewayControl.Verification

/-!
Guided publishing. A guided operation takes a host name from a new route to a published access
and on to the check of its certificate; a request that finds it half way continues it. Any
number of requests can run at once, and the verification ticks beside them.
-/

namespace GatewayControl.GuidedPublish

open Database Store Placement Json Text Requests PublicIp Publishing Cloudflare Calls Reconcile
open Verification Programs

/-! ### Calls -/

/-- A request, or a verification tick. -/
inductive PublishSlot where
  | request (number : ℕ)
  | tick (number : ℕ)
deriving DecidableEq

inductive PublishCall where
  | plane (c : Call)
  /-- Whether `listAgents` has the agent, enabled and enrolled. -/
  | agentReady (agentId : String)
  | createOperation (idempotencyKey requestedByUserId requestHash : String) (request : Json)
  | listRoutes
  | createRoute (values : RouteValues)
  /-- `guidedVerificationRunning` is looked at and set in one turn. -/
  | enter
  | leave

abbrev PublishCall.Answer : PublishCall → Type
  | .plane c => c.Answer
  | .agentReady _ | .enter => Bool
  | .createOperation _ _ _ _ => GuidedRow
  | .listRoutes => List RouteRow
  | .createRoute _ => Option RouteRow
  | .leave => Unit

abbrev PublishPlane : Interface := ⟨PublishCall, fun c => Except Failure c.Answer⟩

abbrev PublishHandler (α : Type) := ExceptT Failure (Prog PublishPlane) α

def perform (c : PublishCall) : PublishHandler c.Answer :=
  ExceptT.mk (Prog.perform (F := PublishPlane) c)

/-- A handler of the plane, in here. -/
def onPlane {α : Type} (p : Handler α) : PublishHandler α :=
  ExceptT.mk (p.run.embed (G := PublishPlane) PublishCall.plane fun _ r => r)

def ask (c : Call) : PublishHandler c.Answer := perform (.plane c)

/-! ### The body of a request -/

def textField (body : Json) (field : String) (least most : ℕ) : Except Failure String :=
  match stringField (body.get? field) least most with
  | some s => .ok s
  | none => .error (.api 400 (field ++ " must be a string between " ++ toString least ++ " and " ++
      toString most ++ " characters.") none)

def optionalUuid (body : Json) (field : String) : Except Failure (Option String) :=
  match body.get? field with
  | none => .ok none
  | some _ => do
      let value ← textField body field 36 36
      if commandIDPattern value then return some value
      else throw (.api 400 (field ++ " must be a valid UUID.") none)

/-- What is not `tunnel` or `public_ip` is refused when an operation is made. -/
def accessMethodOf (text : String) : Option AccessMethod :=
  if text = "tunnel" then some .tunnel else if text = "public_ip" then some .publicIp else none

/-- What else the handlers work with: `Number(text)`, the hash of a request, how a result is
shown, and how long the check of a certificate may take. -/
structure Settings where
  number : List Char → Number
  requestHash : Json → String
  render : Render
  guidedVerificationTimeout : Time := 15 * 60000

variable (settings : Settings)

def addressField (body : Json) (version : Version) : Except Failure (List String) :=
  match publicIpArray settings.number (body.get? version.field) version with
  | .ok addresses => .ok addresses
  | .error e => .error (.api e.status e.message (some e.code))

structure PublishBody where
  accountId : Option String
  zoneId : Option String
  accessMethod : Option AccessMethod
  connectorId : Option String
  publicIpv4 : List String
  publicIpv6 : List String

def readBody (body : Json) : Except Failure PublishBody := do
  let accountId ← optionalUuid body "accountId"
  let zoneId ← optionalUuid body "zoneId"
  let accessMethod ← textField body "accessMethod" 1 255
  let connectorId ← optionalUuid body "connectorId"
  let publicIpv4 ← addressField settings body .v4
  let publicIpv6 ← addressField settings body .v6
  return { accountId, zoneId, accessMethod := accessMethodOf accessMethod, connectorId,
           publicIpv4, publicIpv6 }

/-! ### `continueGuidedPublish` -/

/-- The answers with 200 and 202. -/
inductive PublishAnswer where
  | succeeded (operation : GuidedRow)
  | verifying (operation : GuidedRow) (access : Option AccessRow)
  | waiting (operation : GuidedRow) (route : RouteRow)
  | published (operation : GuidedRow) (route : RouteRow) (access : AccessRow)

def operationNotFound : Failure :=
  .api 404 "Guided publish operation not found." "publish_operation_not_found"

def operationUnavailable : Failure :=
  .api 409 "Guided publish operation cannot be resumed." "publish_operation_unavailable"

def routeUnavailable : Failure :=
  .api 409 "The guided route is unavailable." "domain_access_route_invalid"

def routeFailedMessage : String := "The Agent route probe or deployment failed."

def selectionInvalid : Failure :=
  .api 409 "The selected account or zone is no longer valid." "cloudflare_zone_invalid"

def tunnelInvalid : Failure :=
  .api 409 "The tunnel topology is no longer valid." "tunnel_topology_mismatch"

def addressRequired : Failure :=
  .api 400 "At least one public IP is required." "invalid_access_configuration"

def accessInvalid : Failure :=
  .api 409 "Domain access relationships changed or are already managed." "domain_access_invalid"

/-- What reading a field of `null` throws. -/
def nullOperation : Failure := .other "Cannot read properties of null"

/-- `error.message.slice(0, 500)`. -/
def failureMessage : Failure → String
  | .api _ message _ | .client message _ _ | .other message => sliceText 500 message

/-- An operation is never deleted, so that the last case does not come up. -/
def updated (id : String) (values : GuidedChange) : PublishHandler GuidedRow := do
  match ← ask (.updateGuided id values) with
  | some operation => return operation
  | none => throw nullOperation

def accessOf : Option String → PublishHandler (Option AccessRow)
  | none => return none
  | some id => do
      let accesses ← ask .listAccess
      return accesses.find? (·.id = id)

def connectorOf : Option String → PublishHandler (Option ConnectorRow)
  | none => return none
  | some id => do
      let connectors ← ask .listConnectors
      return connectors.find? (·.id = id)

def routeOf : Option String → PublishHandler (Option RouteRow)
  | none => return none
  | some id => ask (.route id)

def accountOf (accounts : List AccountRow) (body : PublishBody) : Option AccountRow :=
  accounts.find? fun a => some a.id = body.accountId && a.enabled

def zoneOf (zones : Option (List ZoneRow)) (zoneId : Option String) : Option ZoneRow :=
  (zones.getD []).find? fun z => some z.id = zoneId && z.status == "active"

def tunnelFits (a : AccountRow) (route : RouteRow) (c : ConnectorRow) : Bool :=
  c.enabled && c.identityStatus == .verified && c.agentId == route.gatewayAgentId &&
    c.accountId == some a.id &&
    c.tokenAccountIdentifier.map lower == some (lower a.accountIdentifier) &&
    c.tunnelId.map lower == c.tokenTunnelId.map lower

/-- `createPendingDomainAccess`, with the values of the request. -/
def createAccess (body : PublishBody) (account : AccountRow) (zone : ZoneRow)
    (route : RouteRow) : PublishHandler AccessRow :=
  match body.accessMethod with
  | none => throw accessInvalid
  | some accessMethod => do
      let created ← ask (.createAccess
        { accountId := account.id, zoneId := zone.id, routeId := route.id, accessMethod,
          connectorId := body.connectorId, publicIpv4 := body.publicIpv4,
          publicIpv6 := body.publicIpv6, proxied := accessMethod = .tunnel })
      match created with
      | some access => return access
      | none => throw accessInvalid

/-- The access of the operation, made if there is none. -/
def ensureAccess (operation : GuidedRow) (body : PublishBody) (account : AccountRow)
    (zone : ZoneRow) (route : RouteRow) : PublishHandler AccessRow := do
  match ← accessOf operation.domainAccessId with
  | some access => return access
  | none =>
      let access ← createAccess body account zone route
      let _ ← updated operation.id
        { domainAccessId := some access.id, status := some .pending,
          stage := some "domain_access_created" }
      return access

/-- The rest of the `try` block, once the selection has been checked. -/
def finishPublish (operation : GuidedRow) (body : PublishBody) (account : AccountRow)
    (zone : ZoneRow) (route : RouteRow) : PublishHandler PublishAnswer := do
  let access ← ensureAccess operation body account zone route
  let access ← onPlane (reconcileDomainAccess access.id true)
  let now ← ask .now
  let operation ← updated operation.id
    { status := some .waiting, stage := some "pending_https_verification", error := some none,
      verificationDeadlineAt := some (now + settings.guidedVerificationTimeout) }
  return .published operation route access

/-- The `try` block. -/
def publishRoute (operation : GuidedRow) (request : Json) (route : RouteRow) :
    PublishHandler PublishAnswer := do
  let body ← ofExcept (readBody settings request)
  let accounts ← ask .listAccounts
  let zones ← ask (.listZones (body.accountId.getD ""))
  match accountOf accounts body, zoneOf zones body.zoneId with
  | some account, some zone =>
      if !hostnameWithinZone route.hostname zone.name then throw selectionInvalid
      else
        let connector ← connectorOf body.connectorId
        if body.accessMethod = some .tunnel && !connector.any (tunnelFits account route) then
          throw tunnelInvalid
        else if body.accessMethod = some .publicIp &&
            body.publicIpv4.length + body.publicIpv6.length = 0 then throw addressRequired
        else finishPublish settings operation body account zone route
  | _, _ => throw selectionInvalid

/-- The `catch` block gives a new status, and no stage. -/
def recordFailure {α : Type} (operationId : String) (error : Failure) : PublishHandler α := do
  let _ ← ask (.updateGuided operationId
    { status := some .failed, error := some (some (failureMessage error)) })
  throw error

/-- What follows the reads of the operation and its route. -/
def advance (operation : GuidedRow) (request : Json) (route : RouteRow) :
    PublishHandler PublishAnswer :=
  if route.status = .pending then do
    let operation ← updated operation.id
      { status := some .waiting, stage := some "waiting_for_route", error := some none }
    return .waiting operation route
  else if route.status ≠ .active ∨ !route.enabled then do
    let operation ← updated operation.id
      { status := some .failed, stage := some "route_failed",
        error := some (some routeFailedMessage) }
    throw (.api 409 (operation.error.getD "") "domain_access_route_invalid")
  else tryCatch (publishRoute settings operation request route) (recordFailure operation.id)

def continueGuidedPublish (operationId requestedByUserId : String) :
    PublishHandler PublishAnswer := do
  match ← ask (.guidedOperation operationId) with
  | none => throw operationNotFound
  | some operation =>
      if operation.kind ≠ .domainPublish ∨ operation.requestedByUserId ≠ requestedByUserId then
        throw operationNotFound
      else if operation.status = .succeeded then return .succeeded operation
      else if operation.stage = "pending_https_verification" then
        let access ← accessOf operation.domainAccessId
        return .verifying operation access
      else
        match operation.request with
        | none => throw operationUnavailable
        | some request => do
            match ← routeOf operation.routeId with
            | none => throw routeUnavailable
            | some route => advance settings operation request route

/-! ### Its routes -/

/-- A request to publish, with its fields checked. -/
structure PublishRequest where
  accountId : String
  zoneId : String
  hostname : String
  agentId : String
  targetKind : String
  backend : String
  accessMethod : AccessMethod
  connectorId : Option String
  publicIpv4 : List String
  publicIpv6 : List String

def methodText : AccessMethod → String
  | .tunnel => "tunnel"
  | .publicIp => "public_ip"

def normalizedRequest (request : PublishRequest) : Json :=
  .obj ([("accountId", .str request.accountId), ("zoneId", .str request.zoneId),
    ("hostname", .str request.hostname), ("agentId", .str request.agentId),
    ("targetKind", .str request.targetKind), ("target", .str request.backend),
    ("accessMethod", .str (methodText request.accessMethod))] ++
    (request.connectorId.toList.map fun id => ("connectorId", .str id)) ++
    [("publicIpv4", .arr (request.publicIpv4.map .str)),
      ("publicIpv6", .arr (request.publicIpv6.map .str))])

def agentUnavailable : Failure :=
  .api 409 "An enabled, enrolled Agent is required." "agent_unavailable"

def hostnameOutside : Failure :=
  .api 409 "The hostname must belong to the selected active zone." "cloudflare_zone_invalid"

def connectorRequired : Failure :=
  .api 400 "Tunnel publishing requires connectorId." "invalid_access_configuration"

def addressesRequired : Failure :=
  .api 400 "Public publishing requires public IP addresses and no connector."
    "invalid_access_configuration"

def idempotencyConflict : Failure :=
  .api 409 "The idempotency key was already used for a different request."
    "idempotency_conflict"

def routeRefused : Failure :=
  .api 409 "The Agent became unavailable or hostname already exists."
    "domain_access_route_invalid"

def routeName (operationId : String) : String :=
  "publish-" ++ String.ofList (operationId.toList.take 8)

/-- The checks between the fields of a request. -/
def checkMethod (request : PublishRequest) : Except Failure Unit :=
  match request.accessMethod with
  | .tunnel => if request.connectorId.isNone then .error connectorRequired else .ok ()
  | .publicIp =>
      if request.connectorId.isSome ||
          request.publicIpv4.length + request.publicIpv6.length = 0 then
        .error addressesRequired
      else .ok ()

/-- A route left by an earlier attempt is used again. -/
def ensureRoute (request : PublishRequest) (operation : GuidedRow) :
    PublishHandler RouteRow := do
  let routes ← perform .listRoutes
  match routes.find? fun r => r.name = routeName operation.id &&
      r.gatewayAgentId = request.agentId && r.hostname = request.hostname with
  | some route => return route
  | none =>
      let created ← perform (.createRoute
        { gatewayAgentId := request.agentId, name := routeName operation.id,
          hostname := request.hostname, exposure := expectedExposure request.accessMethod,
          backends := [request.backend], enabled := true })
      match created with
      | some route => return route
      | none => throw routeRefused

def attachRoute (request : PublishRequest) (operation : GuidedRow) : PublishHandler Unit :=
  match operation.routeId with
  | some _ => return
  | none => do
      let route ← ensureRoute request operation
      let _ ← updated operation.id
        { routeId := some route.id, status := some .waiting, stage := some "waiting_for_route",
          error := some none }

def domainPublish (idempotencyKey userId : String) (request : PublishRequest) :
    PublishHandler PublishAnswer := do
  let ready ← perform (.agentReady request.agentId)
  let zones ← ask (.listZones request.accountId)
  if !ready then throw agentUnavailable
  else if !(zoneOf zones request.zoneId).any (hostnameWithinZone request.hostname ·.name) then
    throw hostnameOutside
  else
    ofExcept (checkMethod request)
    let body := normalizedRequest request
    let hash := settings.requestHash body
    let operation ← perform (.createOperation idempotencyKey userId hash body)
    if operation.requestHash ≠ hash then throw idempotencyConflict
    else
      attachRoute request operation
      continueGuidedPublish settings operation.id userId

/-- A tick does nothing while another one runs. What it throws is only logged. -/
def verificationTick : PublishHandler Unit := do
  if ← perform .enter then
    tryCatch (onPlane (reconcileGuidedVerifications settings.render)) fun _ => return
    perform .leave
  else return

/-! ### What the calls do -/

structure PublishState where
  world : World PublishSlot
  /-- `guidedVerificationRunning`, with the tick that set it. -/
  running : Option PublishSlot := none
  /-- The status and stage a request was last told of its operation. No program reads it. -/
  known : PublishSlot → Option (GuidedStatus × String) := fun _ => none

structure PublishChoice extends Choice where
  commandId : String

def PublishState.store {α : Type} (s : PublishState) (answer : Option (PublishDb × α)) :
    Except Failure α × PublishState :=
  let (r, world) := s.world.store answer
  (r, { s with world })

def PublishCall.run (ch : PublishChoice) (i : PublishSlot) :
    (c : PublishCall) → PublishState → Except Failure c.Answer × PublishState
  | .plane c, s =>
      let (r, world) := c.run ch.toChoice i s.world
      (r, { s with world })
  | .agentReady agentId, s => (.ok (Store.agentReady s.world.db.base agentId), s)
  | .createOperation idempotencyKey requestedByUserId requestHash request, s =>
      s.store ((createOrGetGuidedOperation s.world.db ch.now ch.newId .domainPublish
        idempotencyKey requestedByUserId requestHash request).map fun (db, row, _) => (db, row))
  | .listRoutes, s => (.ok s.world.db.base.managedRoutes.rows, s)
  | .createRoute values, s =>
      s.store ((Placement.createRoute s.world.db.base ch.now ch.newId ch.commandId values).map
        fun (base, route) => ({ s.world.db with base }, route))
  | .enter, s =>
      if s.running.isNone then (.ok true, { s with running := some i }) else (.ok false, s)
  | .leave, s => (.ok (), { s with running := none })

lemma run_enter (ch : PublishChoice) (i : PublishSlot) (s : PublishState) :
    PublishCall.enter.run ch i s =
      if s.running.isNone then (.ok true, { s with running := some i }) else (.ok false, s) :=
  rfl

/-- The two calls that are turns of the program itself, whose answer is never lost. -/
def PublishCall.isOwn : PublishCall → Bool
  | .enter | .leave => true
  | _ => false

/-- What an answer tells of the operation. -/
def learned : (c : PublishCall) → Except Failure c.Answer → Option (GuidedStatus × String)
  | .plane (.guidedOperation _), .ok (some operation) => some (operation.status, operation.stage)
  | .plane (.updateGuided _ _), .ok (some operation) => some (operation.status, operation.stage)
  | .createOperation _ _ _ _, .ok operation => some (operation.status, operation.stage)
  | _, _ => none

def PublishState.learn (s : PublishState) (i : PublishSlot)
    (news : Option (GuidedStatus × String)) : PublishState :=
  { s with known := Function.update s.known i (news.or (s.known i)) }

/-- A call as program `i` experiences it. -/
def Exec (i : PublishSlot) (s : PublishState) (c : PublishCall) (r : Except Failure c.Answer)
    (t : PublishState) : Prop :=
  ∃ ch u, t = u.learn i (learned c r) ∧
    ((r = (c.run ch i s).1 ∧ u = (c.run ch i s).2) ∨
      ∃ e, r = .error e ∧ Failure.lost e ∧ !c.isOwn ∧ (u = s ∨ u = (c.run ch i s).2))

/-! ### The system -/

inductive Starts : PublishSlot → Prog PublishPlane (Except Failure Unit) → Prop where
  | publish (number : ℕ) (idempotencyKey userId : String) (request : PublishRequest) :
      Starts (.request number)
        (do let _ ← domainPublish settings idempotencyKey userId request :
          PublishHandler Unit).run
  | reconcile (number : ℕ) (operationId userId : String) :
      Starts (.request number)
        (do let _ ← continueGuidedPublish settings operationId userId :
          PublishHandler Unit).run
  | tick (number : ℕ) : Starts (.tick number) (verificationTick settings).run

/-- A program that is cut short leaves nothing set, and gives its locks back. -/
def cutShort (i : PublishSlot) (s : PublishState) : PublishState :=
  { s with
    world := { s.world with
      holder := fun key => if s.world.holder key = some i then none else s.world.holder key }
    running := if s.running = some i then none else s.running }

/-- What everything else may do: anything but to the operations that publish. -/
structure Elsewhere (s t : PublishState) : Prop where
  running : t.running = s.running
  known : t.known = s.known
  guided : ∀ g : GuidedRow, g.kind = .domainPublish →
    (g ∈ t.world.db.guided.rows ↔ g ∈ s.world.db.guided.rows)

def system : System PublishPlane PublishState PublishSlot (Except Failure Unit) Unit where
  exec := Exec
  start := fun i _ s p t => t = { s with known := Function.update s.known i none } ∧
    Starts settings i p
  environment := fun _ => Elsewhere
  crash := fun i s t p => t = cutShort i s ∧ p = .pure (.ok ())

/-- The start: no operations, and otherwise whatever there may be. -/
structure Initial (c : Config PublishPlane PublishState PublishSlot (Except Failure Unit)) :
    Prop where
  guided : c.state.world.db.guided = ∅
  running : c.state.running = none
  thread : ∀ i, c.thread i = .pure (.ok ())

end GatewayControl.GuidedPublish
