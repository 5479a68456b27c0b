import GatewayControl.Placement
import GatewayControl.Requests

/-!
The tables behind published host names: zones, domain accesses, the DNS records tracked for
them and the guided operations, with the store's methods on them.

A method answers `none` where the database refuses the statement. Times of observation and
of change, and the certificate columns, are left out.
-/

namespace GatewayControl.Publishing

open Database Store Placement Requests

/-! ### Rows -/

inductive AccessMethod where
  | tunnel
  | publicIp
deriving DecidableEq

inductive AccessStatus where
  | pending
  | active
  | failed
  | disabled
deriving DecidableEq

inductive DnsType where
  | a
  | aaaa
  | cname
deriving DecidableEq

inductive DnsRowStatus where
  | active
  | cleanupPending
  | deleted
deriving DecidableEq

structure ZoneRow where
  id : String
  accountId : String
  zoneIdentifier : String
  name : String
  status : String
deriving DecidableEq

/-- A row of `cloudflare_public_hostnames`. -/
structure AccessRow where
  id : String
  accountId : String
  zoneId : String
  connectorId : Option String
  routeId : String
  hostname : String
  accessMethod : AccessMethod
  publicIpv4 : List String
  publicIpv6 : List String
  proxied : Bool
  deployedAccountIdentifier : String
  deployedZoneIdentifier : String
  deployedTunnelId : Option String
  enabled : Bool := true
  revision : Nat := 1
  status : AccessStatus := .pending
  dnsRecordId : Option Nat := none
  lastError : Option String := none
deriving DecidableEq

/-- A record tracked for an access, under the number Cloudflare gave it. -/
structure DnsRow where
  accessId : String
  type : DnsType
  content : String
  recordId : Nat
  ownershipMarker : String
  status : DnsRowStatus := .active
  lastError : Option String := none
deriving DecidableEq

def DnsRow.key (r : DnsRow) : String × Nat := (r.accessId, r.recordId)

inductive GuidedKind where
  | cloudflareBootstrap
  | domainPublish
deriving DecidableEq

inductive GuidedStatus where
  | pending
  | waiting
  | succeeded
  | failed
deriving DecidableEq

/-- A guided operation; `request` is what its encrypted text decrypts to. -/
structure GuidedRow where
  id : String
  kind : GuidedKind
  idempotencyKey : String
  requestedByUserId : String
  requestHash : String
  request : Option Json
  status : GuidedStatus := .pending
  stage : String := "created"
  accountId : Option String := none
  connectorId : Option String := none
  routeId : Option String := none
  domainAccessId : Option String := none
  remoteTunnelId : Option String := none
  remoteTunnelName : Option String := none
  result : Option Json := none
  error : Option String := none
  verificationDeadlineAt : Option Time := none
  verificationAttempts : Nat := 0
  updatedAt : Time

structure PublishDb where
  base : Db := {}
  zones : Table ZoneRow String ZoneRow.id := ∅
  /-- What the stored token of an account decrypts to. -/
  apiTokens : String → Option String := fun _ => none
  accesses : Table AccessRow String AccessRow.id := ∅
  dnsRows : Table DnsRow (String × Nat) DnsRow.key := ∅
  guided : Table GuidedRow String GuidedRow.id := ∅

/-- `lower` and `toLowerCase` on texts that are compared with identifiers and host names,
which are ASCII. -/
def lower (s : String) : String := toLowerCase .caseless s

/-! ### Domain accesses -/

/-- What a reconciliation reads: the row with what it depends on. -/
structure Deployment where
  access : AccessRow
  owned : List DnsRow
  account : AccountRow
  apiToken : Option String
  zone : ZoneRow
  route : RouteRow
  connector : Option ConnectorRow

def ownedDnsRecords (db : PublishDb) (id : String) : List DnsRow :=
  db.dnsRows.rows.filter (·.accessId = id)

def getCloudflareDomainAccessDeployment (db : PublishDb) (id : String) : Option Deployment := do
  let access ← db.accesses.find? id
  let account ← db.base.accounts.find? access.accountId
  let zone ← db.zones.find? access.zoneId
  let route ← db.base.managedRoutes.find? access.routeId
  let connector := access.connectorId.bind db.base.connectors.find?
  return { access, owned := ownedDnsRecords db id, account, apiToken := db.apiTokens account.id,
           zone, route, connector }

/-- The row of an access, if it is still at this revision. -/
def atRevision (db : PublishDb) (id : String) (revision : Nat) : Option AccessRow :=
  (db.accesses.find? id).filter (·.revision = revision)

def updateAccess (db : PublishDb) (id : String) (f : AccessRow → AccessRow)
    (hf : ∀ r, (f r).id = r.id) : PublishDb :=
  { db with accesses := db.accesses.update (fun r => r.id = id) f hf }

/-- The fields of a tracked record that a reconciliation gives. -/
structure TrackedRecord where
  type : DnsType
  content : String
  recordId : Nat
  ownershipMarker : String

def updateDnsRow (db : PublishDb) (key : String × Nat) (f : DnsRow → DnsRow)
    (hf : ∀ r, (f r).key = r.key) : PublishDb :=
  { db with dnsRows := db.dnsRows.update (fun r => r.key = key) f hf }

def trackRow (record : TrackedRecord) (r : DnsRow) : DnsRow :=
  { r with
    type := record.type
    content := record.content
    ownershipMarker := record.ownershipMarker
    status := .active
    lastError := none }

def saveDomainAccessDnsRecord (db : PublishDb) (id : String) (revision : Nat)
    (record : TrackedRecord) : Option (PublishDb × Bool) :=
  if (atRevision db id revision).isNone then some (db, false)
  else if (db.dnsRows.find? (id, record.recordId)).isSome then
    some (updateDnsRow db (id, record.recordId) (trackRow record) fun _ => rfl, true)
  -- a record tracked for one access is never tracked for another
  else if db.dnsRows.rows.any (·.recordId = record.recordId) then none
  else do
    let dnsRows ← db.dnsRows.insert?
      { accessId := id, type := record.type, content := record.content,
        recordId := record.recordId, ownershipMarker := record.ownershipMarker }
    return ({ db with dnsRows }, true)

def markRow (status : DnsRowStatus) (lastError : Option String) (r : DnsRow) : DnsRow :=
  { r with status, lastError }

def markDomainAccessDnsRecordStatus (db : PublishDb) (id : String) (revision recordId : Nat)
    (status : DnsRowStatus) (lastError : Option String) : PublishDb × Bool :=
  if (atRevision db id revision).isNone then (db, false)
  else (updateDnsRow db (id, recordId) (markRow status lastError) fun _ => rfl,
    (db.dnsRows.find? (id, recordId)).isSome)

/-- The check that keeps the status of an access in step with its switch. -/
def coherent (enabled : Bool) : AccessStatus → Bool
  | .active => enabled
  | .disabled => !enabled
  | .pending | .failed => true

/-- The tracked record a tunnel access shows. -/
def activeCname (db : PublishDb) (id : String) : Option Nat :=
  ((ownedDnsRecords db id).find? fun r => r.type = .cname && r.status = .active).map (·.recordId)

def endRow (status : AccessStatus) (lastError : Option String) (dnsRecordId : Option Nat)
    (r : AccessRow) : AccessRow :=
  { r with status, lastError, dnsRecordId }

def markDomainAccessOutcome (db : PublishDb) (id : String) (revision : Nat)
    (status : AccessStatus) (lastError : Option String) :
    Option (PublishDb × Option AccessRow) :=
  match atRevision db id revision with
  | none => some (db, none)
  | some row =>
      if !coherent row.enabled status then none
      else some (updateAccess db id (endRow status lastError (activeCname db id)) fun _ => rfl,
        some (endRow status lastError (activeCname db id) row))

def pendingRow (enabled : Option Bool) (r : AccessRow) : AccessRow :=
  { r with
    enabled := enabled.getD r.enabled
    revision := r.revision + 1
    status := .pending
    lastError := none }

def setDomainAccessPending (db : PublishDb) (id : String) (enabled : Option Bool) :
    PublishDb × Option AccessRow :=
  (updateAccess db id (pendingRow enabled) fun _ => rfl,
    (db.accesses.find? id).map (pendingRow enabled))

/-- `hostname` is the zone's name or ends in a dot and it. -/
def hostnameWithinZone (hostname zone : String) : Bool :=
  lower hostname == lower zone || ('.' :: (lower zone).toList).isSuffixOf (lower hostname).toList

structure AccessValues where
  accountId : String
  zoneId : String
  routeId : String
  accessMethod : AccessMethod
  connectorId : Option String
  publicIpv4 : List String
  publicIpv6 : List String
  proxied : Bool

/-- The connector of a tunnel access: verified, of the account, on the route's agent. -/
def connectorFits (c : ConnectorRow) (a : AccountRow) (r : RouteRow) : Bool :=
  c.enabled && c.identityStatus == .verified && c.tunnelId.isSome &&
    c.accountId == some a.id &&
    c.tokenAccountIdentifier.any (fun t => lower t == lower a.accountIdentifier) &&
    c.tokenTunnelId.isSome && c.tokenTunnelId.map lower == c.tunnelId.map lower &&
    c.agentId == r.gatewayAgentId

def methodFits (method : AccessMethod) (a : AccountRow) (r : RouteRow)
    (c : Option ConnectorRow) : Bool :=
  match method with
  | .tunnel => r.exposure == "tunnel" && c.any (connectorFits · a r)
  | .publicIp => r.exposure == "public" && c.isNone

/-- `lower(hostname)` and `route_id` are unique. -/
def accessTaken (db : PublishDb) (routeId hostname : String) : Bool :=
  db.accesses.rows.any fun h => h.routeId = routeId || lower h.hostname == lower hostname

def createPendingDomainAccess (db : PublishDb) (newId : String) (values : AccessValues) :
    PublishDb × Option AccessRow :=
  let created : Option (PublishDb × AccessRow) := do
    let z ← db.zones.find? values.zoneId
    let a ← db.base.accounts.find? z.accountId
    let r ← db.base.managedRoutes.find? values.routeId
    let c := values.connectorId.bind db.base.connectors.find?
    if a.id == values.accountId && a.enabled && z.status == "active" && r.enabled &&
        r.status == .active && methodFits values.accessMethod a r c &&
        hostnameWithinZone r.hostname z.name && !accessTaken db r.id r.hostname then
      let row : AccessRow :=
        { id := newId, accountId := a.id, zoneId := z.id, connectorId := c.map (·.id),
          routeId := r.id, hostname := r.hostname, accessMethod := values.accessMethod,
          publicIpv4 := values.publicIpv4, publicIpv6 := values.publicIpv6,
          proxied := values.proxied, deployedAccountIdentifier := a.accountIdentifier,
          deployedZoneIdentifier := z.zoneIdentifier,
          deployedTunnelId := c.bind (·.tunnelId) }
      let accesses ← db.accesses.insert? row
      return ({ db with accesses }, row)
    else none
  match created with
  | some (db, row) => (db, some row)
  | none => (db, none)

/-! ### What an enabled access depends on -/

/-- The guard of the three tables an access depends on: a change of the topology is refused
while an enabled access is linked. -/
def dependencyGuard (db : PublishDb) (linked : AccessRow → Bool) (topologyChanged : Bool) :
    Bool :=
  !(topologyChanged && db.accesses.rows.any fun h => h.enabled && linked h)

structure AccountChange where
  accountIdentifier : Option String := none
  apiToken : Option String := none
  enabled : Option Bool := none

def changeAccount (values : AccountChange) (a : AccountRow) : AccountRow :=
  { a with
    accountIdentifier := values.accountIdentifier.getD a.accountIdentifier
    enabled := values.enabled.getD a.enabled }

/-- An account's topology changes with its switch turned off, its identifier or its token,
whose encrypted text is never the same twice. -/
def accountTopologyChanged (values : AccountChange) (old new : AccountRow) : Bool :=
  (old.enabled && !new.enabled) || old.accountIdentifier != new.accountIdentifier ||
    values.apiToken.isSome

def updateCloudflareAccount (db : PublishDb) (id : String) (values : AccountChange) :
    Option PublishDb :=
  match db.base.accounts.find? id with
  | none => some db
  | some a =>
      if dependencyGuard db (·.accountId = id)
          (accountTopologyChanged values a (changeAccount values a)) then
        let accounts := db.base.accounts.update (·.id = id) (changeAccount values) fun _ => rfl
        let apiTokens := if values.apiToken.isSome then
          Function.update db.apiTokens id values.apiToken else db.apiTokens
        some { db with base := { db.base with accounts }, apiTokens }
      else none

def connectorTopologyChanged (old new : ConnectorRow) : Bool :=
  (old.enabled && !new.enabled) || old.agentId != new.agentId || old.accountId != new.accountId ||
    old.tunnelId != new.tunnelId || old.token != new.token

/-- Every connector that a change of the tables alters passes its guard. -/
def connectorsGuarded (db : PublishDb) (base' : Db) : Bool :=
  db.base.connectors.rows.all fun old =>
    (base'.connectors.find? old.id).any fun new =>
      dependencyGuard db (·.connectorId = some old.id) (connectorTopologyChanged old new)

def routeTopologyChanged (old new : RouteRow) : Bool :=
  (old.enabled && !new.enabled) || old.gatewayAgentId != new.gatewayAgentId ||
    old.hostname != new.hostname || old.exposure != new.exposure

def routesGuarded (db : PublishDb) (base' : Db) : Bool :=
  db.base.managedRoutes.rows.all fun old =>
    (base'.managedRoutes.find? old.id).any fun new =>
      dependencyGuard db (·.routeId = old.id) (routeTopologyChanged old new)

/-! ### Guided operations -/

structure GuidedChange where
  status : Option GuidedStatus := none
  stage : Option String := none
  accountId : Option String := none
  connectorId : Option String := none
  routeId : Option String := none
  domainAccessId : Option String := none
  remoteTunnelId : Option String := none
  remoteTunnelName : Option String := none
  result : Option Json := none
  error : Option (Option String) := none
  clearEncryptedRequest : Bool := false
  verificationDeadlineAt : Option Time := none
  incrementVerificationAttempts : Bool := false

/-- `COALESCE` of a new value and the old one. -/
def changeGuided (now : Time) (values : GuidedChange) (g : GuidedRow) : GuidedRow :=
  { g with
    status := values.status.getD g.status
    stage := values.stage.getD g.stage
    accountId := values.accountId.or g.accountId
    connectorId := values.connectorId.or g.connectorId
    routeId := values.routeId.or g.routeId
    domainAccessId := values.domainAccessId.or g.domainAccessId
    remoteTunnelId := values.remoteTunnelId.or g.remoteTunnelId
    remoteTunnelName := values.remoteTunnelName.or g.remoteTunnelName
    result := values.result.or g.result
    error := values.error.getD g.error
    request := if values.clearEncryptedRequest then none else g.request
    verificationDeadlineAt := values.verificationDeadlineAt.or g.verificationDeadlineAt
    verificationAttempts :=
      g.verificationAttempts + if values.incrementVerificationAttempts then 1 else 0
    updatedAt := now }

def updateGuidedOperation (db : PublishDb) (now : Time) (id : String) (values : GuidedChange) :
    PublishDb × Option GuidedRow :=
  ({ db with guided := db.guided.update (·.id = id) (changeGuided now values) fun _ => rfl },
    (db.guided.find? id).map (changeGuided now values))

/-- The operations a verification takes up, the least recently changed first. -/
def listGuidedOperationsPendingVerification (db : PublishDb) (limit : Nat) : List GuidedRow :=
  ((db.guided.rows.filter fun g => g.kind = .domainPublish && g.status = .waiting &&
    g.stage = "pending_https_verification").mergeSort fun g h => g.updatedAt ≤ h.updatedAt).take
      (max 1 (min limit 50))

def createOrGetGuidedOperation (db : PublishDb) (now : Time) (newId : String)
    (kind : GuidedKind) (idempotencyKey requestedByUserId requestHash : String)
    (request : Json) : Option (PublishDb × GuidedRow × Bool) :=
  match db.guided.rows.find? fun g => g.requestedByUserId = requestedByUserId ∧
      g.kind = kind ∧ g.idempotencyKey = idempotencyKey with
  | some existing => some (db, existing, false)
  | none => do
      let created : GuidedRow :=
        { id := newId, kind, idempotencyKey, requestedByUserId, requestHash,
          request := some request, updatedAt := now }
      let guided ← db.guided.insert? created
      return ({ db with guided }, created, true)

end GatewayControl.Publishing
