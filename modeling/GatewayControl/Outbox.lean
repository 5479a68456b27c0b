import Mathlib.Algebra.GroupWithZero.Nat
import Mathlib.Algebra.Ring.Int.Defs
import GatewayControl.Database
import GatewayControl.Programs

/-!
The notification outbox: events become deliveries, and the dispatcher's ticks claim one
delivery at a time and send it.

A message's time is its text, secrets are kept decrypted. The database's clock is part of
the state; a tick may be cut short at any call, and any call's answer can be lost.
-/

namespace GatewayControl.Outbox

open Database (Time Event)
open Programs

/-! ### Rows -/

inductive DeliveryStatus where
  | pending
  | dispatching
  | succeeded
  | failed
  | skipped
deriving DecidableEq

def DeliveryStatus.final : DeliveryStatus → Bool
  | pending | dispatching => false
  | succeeded | failed | skipped => true

structure DeliveryRow where
  id : String
  eventId : String
  status : DeliveryStatus := .pending
  attempts : Nat := 0
  nextAttemptAt : Time
  claimedAt : Option Time := none
  completedAt : Option Time := none
  lastError : Option String := none
  createdAt : Time

structure EventRow where
  id : String
  event : Event
  occurredAt : String

structure ScopeRow where
  agentId : String
  projectName : Option String
  serviceName : Option String
  enabled : Bool

structure NotificationSecrets where
  botToken : String
  groupId : String

structure NotificationSettings where
  botToken : Option String
  groupId : Option String
  selectedEvents : List String

abbrev Deliveries := Table DeliveryRow String DeliveryRow.id

structure Hub where
  now : Time := 0
  deliveries : Deliveries := ∅
  events : Table EventRow String EventRow.id := ∅
  settings : Option NotificationSettings := none
  scopes : List ScopeRow := []

/-- A claimed delivery, with its event. -/
structure NotificationDelivery where
  id : String
  eventId : String
  event : Event
  occurredAt : String
  attempts : Nat

/-! ### Which events are delivered -/

def NotificationSettings.secrets (settings : NotificationSettings) :
    Option NotificationSecrets := do
  let botToken ← settings.botToken
  let groupId ← settings.groupId
  return { botToken, groupId }

def getNotificationSecrets (hub : Hub) : Option NotificationSecrets :=
  hub.settings.bind (·.secrets)

def wanted (hub : Hub) (e : Event) : Bool :=
  hub.settings.any (fun settings =>
      settings.secrets.isSome && settings.selectedEvents.contains e.type) &&
    (e.agentId.isNone || !hub.scopes.any fun s =>
      some s.agentId == e.agentId && s.projectName.isNone && !s.enabled) &&
    (e.serviceName.isNone || !hub.scopes.any fun s =>
      some s.agentId == e.agentId && s.projectName.isSome && s.projectName == e.projectName &&
        s.serviceName == e.serviceName && !s.enabled)

def isNotificationDeliveryEnabled (hub : Hub) (d : NotificationDelivery) : Bool :=
  wanted hub d.event

/-- The identifiers an event and its delivery get. -/
structure Fresh where
  eventId : String
  deliveryId : String
  occurredAt : String

def enqueueEvent (hub : Hub) (fresh : Fresh) (e : Event) : Option Hub := do
  let events ← hub.events.insert?
    { id := fresh.eventId, event := e, occurredAt := fresh.occurredAt }
  if wanted hub e then
    let deliveries ← hub.deliveries.insert?
      { id := fresh.deliveryId, eventId := fresh.eventId, nextAttemptAt := hub.now,
        createdAt := hub.now }
    return { hub with events, deliveries }
  else return { hub with events }

/-! ### Claims and outcomes -/

def claimMs : Nat := 2 * 60000

def due (now : Time) (d : DeliveryRow) : Bool :=
  (d.status == .pending && d.nextAttemptAt ≤ now) ||
    (d.status == .dispatching && d.claimedAt.any (· + claimMs < now))

/-- `ORDER BY next_attempt_at, created_at`. -/
def before (d e : DeliveryRow) : Bool :=
  d.nextAttemptAt < e.nextAttemptAt ||
    (d.nextAttemptAt == e.nextAttemptAt && d.createdAt ≤ e.createdAt)

def earlier (first : Option DeliveryRow) (d : DeliveryRow) : Option DeliveryRow :=
  match first with
  | some f => if before f d then some f else some d
  | none => some d

/-- The first of the due deliveries that no other transaction has locked. -/
def selected (hub : Hub) (locked : List String) : Option DeliveryRow :=
  (hub.deliveries.rows.filter fun d => due hub.now d && !locked.contains d.id).foldl earlier none

def maxAttempts : Nat := 10

/-- `none`: the row would have more attempts than its `CHECK` allows. -/
def claimNotificationDelivery (hub : Hub) (locked : List String) :
    Option (Hub × Option NotificationDelivery) :=
  match selected hub locked with
  | none => some (hub, none)
  | some d =>
    if maxAttempts ≤ d.attempts then none
    else
      let deliveries := hub.deliveries.update (·.id = d.id)
        (fun d => { d with
          status := .dispatching
          claimedAt := some hub.now
          attempts := d.attempts + 1 })
        fun _ => rfl
      some ({ hub with deliveries }, (hub.events.find? d.eventId).map fun e =>
        { id := d.id, eventId := d.eventId, event := e.event, occurredAt := e.occurredAt,
          attempts := d.attempts + 1 })

/-- `UPDATE ... WHERE id = $1 AND status = 'dispatching'`. -/
def settle (hub : Hub) (id : String) (f : DeliveryRow → DeliveryRow)
    (hf : ∀ d, (f d).id = d.id) : Hub :=
  let deliveries := hub.deliveries.update (fun d => d.id = id && d.status == .dispatching) f hf
  { hub with deliveries }

def completeNotificationDelivery (hub : Hub) (id : String) : Hub :=
  settle hub id (fun d => { d with status := .succeeded, completedAt := some hub.now })
    fun _ => rfl

def skipNotificationDelivery (hub : Hub) (id : String) : Hub :=
  settle hub id (fun d => { d with status := .skipped, completedAt := some hub.now })
    fun _ => rfl

def retryNotificationDelivery (hub : Hub) (id error : String) (delaySeconds : Nat)
    (terminal : Bool) : Hub :=
  settle hub id
    (fun d => { d with
      status := if terminal then .failed else .pending
      lastError := some error
      nextAttemptAt := hub.now + delaySeconds * 1000
      claimedAt := none
      completedAt := if terminal then some hub.now else none })
    fun _ => rfl

/-! ### The dispatcher -/

inductive Op where
  | sweepOfflineAgents
  | failStaleCommands
  | purgeRuntimeLogResults
  | claimNotificationDelivery
  | isNotificationDeliveryEnabled (d : NotificationDelivery)
  | skipNotificationDelivery (id : String)
  | getNotificationSecrets
  | send (secrets : NotificationSecrets) (text : String)
  | completeNotificationDelivery (id : String)
  | retryNotificationDelivery (id error : String) (delaySeconds : Nat) (terminal : Bool)

/-- Sending answers with the status of the response. -/
abbrev Op.Answer : Op → Type
  | .claimNotificationDelivery => Option NotificationDelivery
  | .isNotificationDeliveryEnabled _ => Bool
  | .getNotificationSecrets => Option NotificationSecrets
  | .send _ _ => Nat
  | _ => Unit

/-- A call answers or throws. -/
abbrev Dispatching : Interface := ⟨Op, fun o => Except String o.Answer⟩

def call (o : Op) : Fallible Dispatching o.Answer :=
  ExceptT.mk (Prog.perform (F := Dispatching) o)

/-- `{ ...payload, [key]: value }`. -/
def put (key value : String) : List (String × String) → List (String × String)
  | [] => [(key, value)]
  | (k, v) :: es => if k = key then (key, value) :: es else (k, v) :: put key value es

def putIf (key : String) (value : Option String) (es : List (String × String)) :
    List (String × String) :=
  match value with
  | some v => put key v es
  | none => es

/-- The payload as `enqueueEvent` stores it. -/
def payload (e : Event) : List (String × String) :=
  putIf "serviceName" e.serviceName
    (putIf "projectName" e.projectName (putIf "agentId" e.agentId e.payload))

def message (d : NotificationDelivery) : String :=
  let details := ((payload d.event).take 10).map fun (key, value) =>
    key ++ ": " ++ Json.sliceText 300 value
  "\n".intercalate (["Gateway Control: " ++ d.event.type, "Event ID: " ++ d.eventId,
    "Delivery ID: " ++ d.id, "Occurred: " ++ d.occurredAt] ++ details)

def delaySeconds (attempts : Nat) : Nat := min 900 (5 * 2 ^ (attempts - 1))

def dispatch (d : NotificationDelivery) : Fallible Dispatching Unit :=
  tryCatch
    (do
      if !(← call (.isNotificationDeliveryEnabled d)) then
        call (.skipNotificationDelivery d.id)
      else
        match ← call .getNotificationSecrets with
        | none => throw "Telegram notifications are not configured."
        | some secrets =>
          let status ← call (.send secrets (message d))
          if 200 ≤ status ∧ status ≤ 299 then call (.completeNotificationDelivery d.id)
          else throw ("Telegram returned HTTP " ++ toString status ++ "."))
    fun error => call (.retryNotificationDelivery d.id (Json.sliceText 1000 error)
      (delaySeconds d.attempts) (6 ≤ d.attempts))

def iteration : Fallible Dispatching Unit := do
  call .sweepOfflineAgents
  call .failStaleCommands
  call .purgeRuntimeLogResults
  match ← call .claimNotificationDelivery with
  | none => pure ()
  | some d => dispatch d

/-- What an iteration throws is logged. -/
def tick : Prog Dispatching Unit := iteration.run >>= fun _ => .pure ()

/-! ### What the calls do -/

/-- What a call takes from outside: the rows others have locked, the events a sweep
announces, the answer to a message. -/
structure Choice where
  locked : List String := []
  announced : List (Fresh × Event) := []
  status : Nat := 200

def enqueueEvents (hub : Hub) (announced : List (Fresh × Event)) : Option Hub :=
  announced.foldlM (fun hub e => enqueueEvent hub e.1 e.2) hub

def refused : String := "The database refused the statement."

def stored {α : Type} (hub : Hub) : Option (Hub × α) → Except String α × Hub
  | some (hub', a) => (.ok a, hub')
  | none => (.error refused, hub)

def Op.run (ch : Choice) (hub : Hub) : (o : Op) → Except String o.Answer × Hub
  | .sweepOfflineAgents => stored hub ((enqueueEvents hub ch.announced).map (·, ()))
  | .failStaleCommands => stored hub ((enqueueEvents hub ch.announced).map (·, ()))
  | .purgeRuntimeLogResults => (.ok (), hub)
  | .claimNotificationDelivery => stored hub (Outbox.claimNotificationDelivery hub ch.locked)
  | .isNotificationDeliveryEnabled d => (.ok (Outbox.isNotificationDeliveryEnabled hub d), hub)
  | .skipNotificationDelivery id => (.ok (), Outbox.skipNotificationDelivery hub id)
  | .getNotificationSecrets => (.ok (Outbox.getNotificationSecrets hub), hub)
  | .send _ _ => (.ok ch.status, hub)
  | .completeNotificationDelivery id => (.ok (), Outbox.completeNotificationDelivery hub id)
  | .retryNotificationDelivery id error delaySeconds terminal =>
      (.ok (), Outbox.retryNotificationDelivery hub id error delaySeconds terminal)

/-! ### The system -/

/-- What is recorded of a delivery. -/
inductive Mark where
  | claimed
  | skipped
  | completed
  | retried
deriving DecidableEq

/-- The outbox, with what each dispatcher has claimed and not given back, and with what was
recorded of each delivery so far. -/
structure State where
  hub : Hub := {}
  held : Nat → Option NotificationDelivery := fun _ => none
  log : List (String × Mark) := []

/-- What a call records when it takes effect. -/
def noted (hub : Hub) (ch : Choice) : Op → List (String × Mark)
  | .claimNotificationDelivery =>
      (if (Outbox.claimNotificationDelivery hub ch.locked).isSome then
        selected hub ch.locked else none).toList.map fun d => (d.id, .claimed)
  | .skipNotificationDelivery id => [(id, .skipped)]
  | .completeNotificationDelivery id => [(id, .completed)]
  | .retryNotificationDelivery id _ _ _ => [(id, .retried)]
  | _ => []

/-- A dispatcher holds what it was told it has claimed, until it asks for a retry. -/
def holds (current : Option NotificationDelivery) :
    (o : Op) → Except String o.Answer → Option NotificationDelivery
  | .claimNotificationDelivery, .ok (some d) => some d
  | .retryNotificationDelivery _ _ _ _, _ => none
  | _, _ => current

/-- A call as dispatcher `i` experiences it, with a choice that `ok` allows. -/
inductive Exec (ok : Hub → Choice → Op → Prop) (i : Nat) (s : State) (o : Op) :
    Except String o.Answer → State → Prop
  | answered (ch : Choice) (hok : ok s.hub ch o) : Exec ok i s o (o.run ch s.hub).1
      { hub := (o.run ch s.hub).2
        held := Function.update s.held i (holds (s.held i) o (o.run ch s.hub).1)
        log := s.log ++ noted s.hub ch o }
  | lost (ch : Choice) (hok : ok s.hub ch o) (e : String) : Exec ok i s o (.error e)
      { hub := (o.run ch s.hub).2
        held := Function.update s.held i (holds (s.held i) o (.error e))
        log := s.log ++ noted s.hub ch o }
  | thrown (e : String) : Exec ok i s o (.error e)
      { s with held := Function.update s.held i (holds (s.held i) o (.error e)) }

/-- What others change: the clock goes on or is set, settings are saved, events happen. -/
inductive Foreign : Hub → Hub → Prop
  | clock (hub : Hub) (now : Time) : Foreign hub { hub with now }
  | settings (hub : Hub) (settings : Option NotificationSettings) :
      Foreign hub { hub with settings }
  | scopes (hub : Hub) (scopes : List ScopeRow) : Foreign hub { hub with scopes }
  | event (hub hub' : Hub) (fresh : Fresh) (e : Event)
      (h : enqueueEvent hub fresh e = some hub') : Foreign hub hub'

/-- Any number of dispatchers, each running one tick at a time. -/
def system (ok : Hub → Choice → Op → Prop) : System Dispatching State Nat Unit Unit where
  exec := Exec ok
  start := fun i _ s p t => p = tick ∧ t = { s with held := Function.update s.held i none }
  environment := fun _ s t => Foreign s.hub t.hub ∧ t.held = s.held ∧ t.log = s.log
  crash := fun i s t p => p = .pure () ∧ t = { s with held := Function.update s.held i none }

/-- Nothing has been enqueued yet. -/
def Initial (c : Config Dispatching State Nat Unit) : Prop :=
  c.state.hub.deliveries = ∅ ∧ c.state.hub.events = ∅ ∧ (∀ i, c.state.held i = none) ∧
    c.state.log = [] ∧ ∀ i, c.thread i = .pure ()

end GatewayControl.Outbox
