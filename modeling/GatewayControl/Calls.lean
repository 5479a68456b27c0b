import GatewayControl.Cloudflare
import GatewayControl.Programs

/-!
The calls the publishing handlers make: to the store, to Cloudflare, to the clock and to the
published site. A call is atomic; its answer can be lost, with its effect or without.
-/

namespace GatewayControl.Calls

open Database Publishing Ingress Cloudflare Programs

/-! ### The calls -/

/-- The text under which the store takes an advisory lock. -/
inductive LockKey where
  | domainAccess (id : String)
  | cloudflareTunnel (accountIdentifier tunnelId : String)
deriving DecidableEq

inductive TlsStatus where
  | valid
  | expiring
  | expired
  | error
deriving DecidableEq

structure TlsObservation where
  status : TlsStatus
  error : Option String := none

inductive Call where
  | acquire (key : LockKey)
  | release (key : LockKey)
  | lockRow (id : String)
  | deployment (id : String)
  | saveRecord (id : String) (revision : Nat) (record : TrackedRecord)
  | markRecord (id : String) (revision recordId : Nat) (status : DnsRowStatus)
      (lastError : Option String)
  | outcome (id : String) (revision : Nat) (status : AccessStatus) (lastError : Option String)
  | listRecords (zone hostname : String)
  | createRecord (zone : String) (type : DnsType) (hostname content : String) (proxied : Bool)
      (comment : String)
  | getRecord (zone : String) (recordId : Nat) (hostname : String)
  | deleteRecord (zone : String) (recordId : Nat)
  | tunnelConfig (accountIdentifier tunnelId : String)
  | putTunnelConfig (accountIdentifier tunnelId : String) (ingress : List Rule)
  | pendingVerifications (limit : Nat)
  | listAccess
  | route (id : String)
  | observe (hostname : String)
  | saveObservation (accessId : String) (observation : TlsObservation)
  | guidedOperation (id : String)
  | updateGuided (id : String) (values : GuidedChange)
  | listAccounts
  | listZones (accountId : String)
  | listConnectors
  | createAccess (values : AccessValues)
  | now

abbrev Call.Answer : Call → Type
  | .acquire _ | .release _ | .deleteRecord _ _ | .putTunnelConfig _ _ _
  | .saveObservation _ _ => Unit
  | .lockRow _ => Option AccessRow
  | .deployment _ => Option Deployment
  | .saveRecord _ _ _ | .markRecord _ _ _ _ _ => Bool
  | .outcome _ _ _ _ | .createAccess _ => Option AccessRow
  | .listRecords _ _ => List RemoteRecord
  | .createRecord _ _ _ _ _ _ | .getRecord _ _ _ => RemoteRecord
  | .tunnelConfig _ _ => List Rule
  | .pendingVerifications _ => List GuidedRow
  | .listAccess => List AccessRow
  | .route _ => Option RouteRow
  | .observe _ => TlsObservation
  | .guidedOperation _ | .updateGuided _ _ => Option GuidedRow
  | .listAccounts => List AccountRow
  | .listZones _ => Option (List ZoneRow)
  | .listConnectors => List ConnectorRow
  | .now => Time

/-- A call answers or throws. -/
abbrev Plane : Interface := ⟨Call, fun c => Except Failure c.Answer⟩

/-- A handler: calls in order, up to the first that throws. -/
abbrev Handler (α : Type) := ExceptT Failure (Prog Plane) α

def call (c : Call) : Handler c.Answer := ExceptT.mk (Prog.perform (F := Plane) c)

/-! ### Which calls a handler makes -/

lemma only_call {φ : Call → Prop} {c : Call} (hc : φ c) : (call c).run.Only φ :=
  ⟨hc, fun _ => trivial⟩

/-! ### What they do -/

/-- The database, Cloudflare, and who holds which lock. -/
structure World (ι : Type) where
  db : PublishDb
  cloud : Cloud := {}
  holder : LockKey → Option ι := fun _ => none

/-- What a call takes from outside: the time, a fresh identifier, what a probe sees. -/
structure Choice where
  now : Time
  newId : String
  observation : TlsObservation

def refused : Failure := .other "The database refused the statement."

def lockTimeout : Failure :=
  .other "Timed out waiting for domain access reconciliation lock."

variable {ι : Type} [DecidableEq ι]

/-- The answer of the database, with what it holds afterwards. -/
def World.store {α : Type} (w : World ι) : Option (PublishDb × α) → Except Failure α × World ι
  | some (db, a) => (.ok a, { w with db })
  | none => (.error refused, w)

def Call.run (ch : Choice) (i : ι) : (c : Call) → World ι → Except Failure c.Answer × World ι
  | .acquire key, w =>
      if w.holder key = none then
        (.ok (), { w with holder := Function.update w.holder key (some i) })
      else (.error lockTimeout, w)
  | .release key, w =>
      if w.holder key = some i then
        (.ok (), { w with holder := Function.update w.holder key none })
      else (.ok (), w)
  | .lockRow id, w => (.ok (w.db.accesses.find? id), w)
  | .deployment id, w => (.ok (getCloudflareDomainAccessDeployment w.db id), w)
  | .saveRecord id revision record, w =>
      w.store (saveDomainAccessDnsRecord w.db id revision record)
  | .markRecord id revision recordId status lastError, w =>
      w.store (some (markDomainAccessDnsRecordStatus w.db id revision recordId status lastError))
  | .outcome id revision status lastError, w =>
      w.store (markDomainAccessOutcome w.db id revision status lastError)
  | .listRecords zone hostname, w => (.ok (listDnsRecordsExact w.cloud zone hostname), w)
  | .createRecord zone type hostname content proxied comment, w =>
      let r := newRecord w.cloud zone type hostname content proxied comment
      (.ok r, { w with cloud := addRecord w.cloud r })
  | .getRecord zone recordId hostname, w => (getDnsRecord w.cloud zone recordId hostname, w)
  | .deleteRecord zone recordId, w =>
      let (answer, cloud) := deleteDnsRecord w.cloud zone recordId
      (answer, { w with cloud })
  | .tunnelConfig account tunnel, w => (readTunnelConfig w.cloud account tunnel, w)
  | .putTunnelConfig account tunnel ingress, w =>
      (.ok (), { w with cloud := writeTunnelConfig w.cloud account tunnel ingress })
  | .pendingVerifications limit, w =>
      (.ok (listGuidedOperationsPendingVerification w.db limit), w)
  | .listAccess, w => (.ok w.db.accesses.rows, w)
  | .route id, w => (.ok (w.db.base.managedRoutes.find? id), w)
  | .observe _, w => (.ok ch.observation, w)
  | .saveObservation _ _, w => (.ok (), w)
  | .guidedOperation id, w => (.ok (w.db.guided.find? id), w)
  | .updateGuided id values, w =>
      w.store (some (updateGuidedOperation w.db ch.now id values))
  | .listAccounts, w => (.ok w.db.base.accounts.rows, w)
  | .listZones accountId, w =>
      (.ok (if (w.db.base.accounts.find? accountId).isSome then
        some (w.db.zones.rows.filter (·.accountId = accountId)) else none), w)
  | .listConnectors, w => (.ok w.db.base.connectors.rows, w)
  | .createAccess values, w =>
      w.store (some (createPendingDomainAccess w.db ch.newId values))
  | .now, w => (.ok ch.now, w)

lemma run_acquire (ch : Choice) (i : ι) (key : LockKey) (w : World ι) :
    (Call.acquire key).run ch i w = if w.holder key = none then
      (.ok (), { w with holder := Function.update w.holder key (some i) })
    else (.error lockTimeout, w) :=
  rfl

lemma run_release (ch : Choice) (i : ι) (key : LockKey) (w : World ι) :
    (Call.release key).run ch i w = if w.holder key = some i then
      (.ok (), { w with holder := Function.update w.holder key none })
    else (.ok (), w) :=
  rfl

/-- A failure that says nothing about the effect: a connection that broke, a refusal of the
service. That a record is not there is only said of one that is not. -/
def Failure.lost : Failure → Prop
  | .api _ _ _ => False
  | e => e.isExplicitNotFound = false

/-- A call as program `i` experiences it. -/
def Call.exec (i : ι) (w : World ι) (c : Call) (r : Except Failure c.Answer) (w' : World ι) :
    Prop :=
  ∃ ch : Choice, (r = (c.run ch i w).1 ∧ w' = (c.run ch i w).2) ∨
    ∃ e, r = .error e ∧ Failure.lost e ∧ (w' = w ∨ w' = (c.run ch i w).2)

end GatewayControl.Calls
