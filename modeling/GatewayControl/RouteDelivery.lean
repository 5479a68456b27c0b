import GatewayControl.AgentLoop
import GatewayControl.RouteDirectory
import GatewayControl.RouteHandouts

/-!
One agent and the control plane together, as far as routes go: users create, change and move
routes, the agent polls, executes and reports, anything it sends or is sent may be lost, and it
may be cut short anywhere.

The agent is the program of its command loop with its state file, its executor the one that
writes the dynamic directory, and the control plane the transactions on its database.
-/

namespace GatewayControl.RouteDelivery

open Text AgentTypes AgentPayloads AgentStore AgentLoop AgentRoutes Database Programs
open RouteSync RouteDirectory RouteQueue RouteHandouts Transactions

/-! ### The system -/

/-- The control plane's database and the agent's host. -/
structure Site where
  db : Db
  route : RouteState
  /-- The syncs handed out, each with its command, and those that arrived, the latest first. -/
  handed : List (String × RouteSyncPayload) := []
  received : List (String × RouteSyncPayload) := []

/-- A payload as the agent goes on with it. -/
def normal (p : RouteSyncPayload) : RouteSyncPayload := { p with hostname := toLower p.hostname }

def syncOf (c : Command) : Option (String × RouteSyncPayload) :=
  match c.payload with
  | .routeSync p => some (c.id, normal p)
  | _ => none

/-- An agent and the control plane it works for. The payload of a sync is read as it was
written, if it is read; every other command leaves the dynamic directory alone and is answered
under its own id. -/
structure Installation where
  settings : Settings
  agentId : String
  enrollmentToken : String
  executor : Executor
  links : String → String
  wire : RouteSyncPayload → Bytes
  others : Command → Host.HostProg CommandResult
  reads : ∀ p q rest, executor.schema.decode (text (wire p)) = .ok (q, rest) → q = p
  elsewhere : ∀ c, (others c).Only fun o : Host.HostOp => ∀ name,
    o ≠ .rename (Executor.path executor links name) ∧
      o ≠ .remove (Executor.path executor links name)
  answers : ∀ c, (others c).Ends (·.commandId = c.id)

variable (x : Installation)

/-- `Execute`, as far as it tells the commands apart here. -/
def execute (c : Command) : Host.HostProg CommandResult :=
  match c.payload with
  | .routeSync p => do
      let startedAt ← Host.eff .now
      executeRouteSync x.executor
        { commandId := c.id, type := c.type, exitCode := -1, startedAt, finishedAt := 0 } (x.wire p)
  | _ => x.others c

/-- The control plane has answered a poll; whether the answer arrives is another matter. -/
def Answered (w w' : Site) (commands : Option (List Command)) : Prop :=
  ∃ now locked db', pollRoute x.settings w.db now x.agentId locked = (db', commands) ∧
    w' = { w with db := db', handed := (commands.getD []).filterMap syncOf ++ w.handed }

def surroundings : Surroundings Host.interface Site where
  enroll := fun w _ w' => w' = w
  poll := fun w r w' => ∃ u commands, (u = w ∧ commands = none ∨ Answered x w u commands) ∧
    ((∃ e, r = .error e) ∧ w' = u ∨ ∃ cs, commands = some cs ∧ r = .ok cs ∧
      w' = { u with received := cs.filterMap syncOf ++ u.received })
  submit := fun result w r w' => (∃ e, r = .error e) ∧ w' = w ∨
    ∃ now db' answer, resultRoute w.db now x.agentId result = (db', answer) ∧
      w' = { w with db := db' } ∧ (r = .ok () → ∃ idempotent, answer = .accepted idempotent)
  host := fun w o r w' => ∃ route, RouteDirectory.Exec x.links w.route o r route ∧
    w' = { w with route }

/-- The payload a command is executed with, if it is accepted. -/
def accepted (c : Command) : Option RouteSyncPayload :=
  match c.payload with
  | .routeSync p => (x.executor.decode (x.wire p)).toOption
  | _ => none

/-- What the ghosts of the directory note where an execution begins. -/
def noted (w : Site) : AgentOp Host.interface → Site
  | .enter c => { w with route :=
      { w.route with command := accepted x c, before := w.route.history } }
  | _ => w

/-- The record tells how the command ended. -/
def Says (d : Data) (id : String) (success : Bool) : Prop :=
  ∃ record result, d.command id = some record ∧ record.result = some result ∧
    result.success = success

inductive Other where
  | transaction (t : Transaction)
  /-- A poll that the control plane answers after the agent has given it up. -/
  | latePoll
  /-- A result that arrives after the agent has given its request up, or once more. -/
  | lateReport (result : CommandResult)
  | host

def deliverySystem : System (Agent.interface Host.interface) (Agent × Site) Unit Phase Other where
  exec := fun _ s o r t => ∃ w, effect (surroundings x) s.1 s.2 o r t.1 w ∧ t.2 = noted x w o
  start := fun _ phase s p t => p = pass x.enrollmentToken (execute x) phase ∧ t = s
  environment := fun a s t => t.1 = s.1 ∧ match a with
    | .transaction u => foreign x.agentId u ∧ ∃ db', u.run s.2.db db' ∧ t.2 = { s.2 with db := db' }
    | .latePoll => ∃ commands, Answered x s.2 t.2 commands
    | .lateReport result => Says s.1.data result.commandId result.success ∧
        ∃ now db' answer, resultRoute s.2.db now x.agentId result = (db', answer) ∧
          t.2 = { s.2 with db := db' }
    | .host => ∃ route, Elsewhere x.executor x.links s.2.route route ∧ t.2 = { s.2 with route }
  crash := fun _ s t p => t.1 = s.1.restart ∧
    t.2 = { s.2 with route := { s.2.route with host := s.2.route.host.crashed } } ∧
    p = pass x.enrollmentToken (execute x) .enrolling

/-- No route has been created and no command handed out yet. -/
structure Initial (c : Config (Agent.interface Host.interface) (Agent × Site) Unit Phase) :
    Prop where
  commands : c.state.2.db.commands = ∅
  routes : c.state.2.db.managedRoutes = ∅
  handed : c.state.2.handed = []
  received : c.state.2.received = []
  files : ∀ name config, c.state.2.route.host.files (Executor.path x.executor x.links name) ≠
    some (.regular (.route config))
  history : c.state.2.route.history = [] ∧ c.state.2.route.before = [] ∧
    c.state.2.route.command = none
  agent : ∃ file : Option Data, c.state.1 = Agent.restart { file } ∧
    ∀ d, file = some d → d.commands = ∅
  thread : c.thread () = pass x.enrollmentToken (execute x) .enrolling

/-! ### What a row of a route asks for -/

def revision (p : RouteSyncPayload) : Int := p.revision.getD 0

/-- What the dynamic directory should hold for a route. -/
def wanted (r : RouteRow) : Option Route :=
  if r.enabled then some ⟨toLower r.hostname, r.exposure, r.backends⟩ else none

/-- The payload says what the row says. -/
structure Describes (p : RouteSyncPayload) (r : RouteRow) : Prop where
  hostname : p.hostname = toLower r.hostname
  exposure : p.exposure = r.exposure
  backends : p.backends = r.backends
  enabled : p.enabled = some r.enabled

/-- A payload made of a row of a route that there is, or of an earlier one. -/
def Known (db : Db) (p : RouteSyncPayload) : Prop :=
  ∃ r, db.managedRoutes.find? p.routeId = some r ∧ revision p ≤ r.revision ∧
    (revision p = r.revision → Describes p r)

lemma known_payloadOf {db : Db} {r : RouteRow} (hr : db.managedRoutes.find? r.id = some r) :
    Known db (normal (payloadOf r)) ∧ revision (normal (payloadOf r)) = r.revision :=
  ⟨⟨r, hr, Int.le_refl _, fun _ => ⟨rfl, rfl, rfl, rfl⟩⟩, rfl⟩

lemma Known.later {db db' : Db} {p : RouteSyncPayload} (h : Known db p)
    (hroutes : ∀ r, db.managedRoutes.find? p.routeId = some r →
      ∃ r', db'.managedRoutes.find? p.routeId = some r' ∧ Newer r r') : Known db' p := by
  obtain ⟨r, hr, hle, hdescribes⟩ := h
  obtain ⟨r', hr', hnewer⟩ := hroutes r hr
  have hrevision := hnewer.revision
  refine ⟨r', hr', by omega, fun heq => ?_⟩
  obtain ⟨hhostname, hexposure, hbackends, henabled⟩ := hnewer.content (by omega)
  obtain ⟨a, b, c, d⟩ := hdescribes (by omega)
  exact ⟨by rw [a, hhostname], by rw [b, hexposure], by rw [c, hbackends], by rw [d, henabled]⟩

/-! ### What holds throughout -/

/-- A sync of the route that has not come to an end in the control plane. -/
def Open (db : Db) (id routeId : String) : Prop :=
  ∃ c, db.commands.find? id = some c ∧ c.work = .routeSync routeId ∧ Outstanding c

def Closed (db : Db) (id : String) : Prop := ∀ routeId, ¬Open db id routeId

def Listed (db : Db) (id : String) : Prop := (db.commands.find? id).isSome

/-- A sync of that revision has taken effect. -/
def Effective (w : Site) (routeId : String) (revision : Int) : Prop :=
  ∃ q ∈ w.route.history, q.routeId = routeId ∧ RouteDelivery.revision q = revision

/-- A command will bring the agent what the row says: it is outstanding, and has been handed out
with nothing else. -/
def Covered (w : Site) (r : RouteRow) : Prop :=
  ∃ id c, w.db.commands.find? id = some c ∧ c.agentId = x.agentId ∧ c.work = .routeSync r.id ∧
    Outstanding c ∧ ∀ h ∈ w.handed, h.1 = id → revision h.2 = r.revision

/-- A route of the agent is on its way, or there, or else its row does not say that it is there,
and no success is left to report that would make it say so. -/
def Accounted (s : Agent × Site) (r : RouteRow) : Prop :=
  Covered x s.2 r ∨ Effective s.2 r.id r.revision ∨
    r.status ≠ .active ∧ ∀ id, Says s.1.data id true → ¬Open s.2.db id r.id

/-- The data in memory, or on disk, or about to be. -/
def Holds (a : Agent) (d : Data) : Prop := d = a.data ∨ a.temporary = some d ∨ a.file = some d

/-- What the agent's records tell is so. -/
structure Truthful (w : Site) (d : Data) : Prop where
  listed : ∀ id record, d.command id = some record → Listed w.db id
  keyed : ∀ id record result, d.command id = some record → record.result = some result →
    result.commandId = id
  received : ∀ id record routeId, d.command id = some record → Open w.db id routeId →
    ∃ p, (id, p) ∈ w.received
  delivered : ∀ id record, d.command id = some record → record.delivered → Closed w.db id
  success : ∀ id routeId, Says d id true → Open w.db id routeId →
    ∃ p, w.received.head? = some (id, p) ∧ Effective w p.routeId (revision p)

/-- The syncs that took effect, and the one that may be about to. -/
def Site.line (w : Site) : List RouteSyncPayload := w.route.history ++ w.route.command.toList

structure Inv (s : Agent × Site) : Prop where
  directory : RouteDirectory.Inv x.executor x.links s.2.route
  canonical : ∀ routeId r, s.2.db.managedRoutes.find? routeId = some r →
    toLower routeId = routeId
  handed : ∀ h ∈ s.2.handed, ∃ c, s.2.db.commands.find? h.1 = some c ∧ c.agentId = x.agentId ∧
    c.work = .routeSync h.2.routeId ∧ c.status ≠ .pending ∧ Known s.2.db h.2
  received : ∀ h ∈ s.2.received, h ∈ s.2.handed
  falling : s.2.received.Pairwise fun h h' =>
    h.2.routeId = h'.2.routeId → revision h'.2 ≤ revision h.2
  line : ∀ p ∈ s.2.line, Known s.2.db p ∧
    ∃ h ∈ s.2.received, h.2.routeId = p.routeId ∧ revision h.2 = revision p
  rising : s.2.line.Pairwise fun p p' => p.routeId = p'.routeId → revision p ≤ revision p'
  quiet : Quiet s.2.db
  truthful : ∀ d, Holds s.1 d → Truthful s.2 d
  kept : ∀ d, Holds s.1 d → ∀ id, Says d id true → Says s.1.data id true
  routes : ∀ routeId r, s.2.db.managedRoutes.find? routeId = some r →
    r.gatewayAgentId = x.agentId → Accounted x s r

end GatewayControl.RouteDelivery
