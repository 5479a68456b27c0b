import GatewayControl.Reconcile
import GatewayControl.Verification

/-!
The publishing side of the control plane as one system: any number of reconciliations and
verification ticks, the requests of users, and what others do at Cloudflare.

The notes are of what the runs have come to; no program reads them.
-/

namespace GatewayControl.ControlPlane

open Database Placement Json Publishing Ingress Cloudflare Calls Reconcile Verification Programs

/-! ### Programs and state -/

inductive Slot where
  | reconcile (id : String) (number : Nat)
  | tick (number : Nat)
deriving DecidableEq

abbrev PlaneWorld := World Slot

structure Notes where
  /-- The status the last reconciliation of an access ended with. It is forgotten when the
  next one has its locks and starts. -/
  ended : String → Option AccessStatus := fun _ => none
  /-- The revisions of accesses at which a reconciliation published them. -/
  reconciled : List (String × Nat) := []

structure State where
  world : PlaneWorld
  notes : Notes := {}

def publishes (status : AccessStatus) : Bool := status = .active || status = .pending

def Notes.after (notes : Notes) : Slot → (c : Call) → Except Failure c.Answer → Notes
  | .reconcile _ _, .deployment id, _ =>
      { notes with ended := Function.update notes.ended id none }
  | .reconcile _ _, .outcome id revision status _, .ok (some _) =>
      { ended := Function.update notes.ended id (some status)
        reconciled := if publishes status then (id, revision) :: notes.reconciled
          else notes.reconciled }
  | _, _, _ => notes

structure Exec (i : Slot) (s : State) (c : Call) (r : Except Failure c.Answer) (t : State) :
    Prop where
  world : Call.exec i s.world c r t.world
  notes : t.notes = s.notes.after i c r

inductive Starts (render : Render) : Slot → Prog Plane (Except Failure Unit) → Prop where
  | reconcile (id : String) (number : Nat) (requireHttpsObservation : Bool) :
      Starts render (.reconcile id number)
        (do let _ ← reconcileDomainAccess id requireHttpsObservation : Handler Unit).run
  | tick (number : Nat) : Starts render (.tick number) (reconcileGuidedVerifications render).run

/-- A program that ends gives its locks back, whatever it holds. -/
def dropLocks (i : Slot) (w : PlaneWorld) : PlaneWorld :=
  { w with holder := fun key => if w.holder key = some i then none else w.holder key }

/-! ### What no program does -/

inductive Act where
  /-- A user switches an access on or off, or asks for its reconciliation. -/
  | request (id : String) (enabled : Option Bool)
  | create (newId : String) (values : AccessValues)
  | account (id : String) (values : AccountChange)
  /-- Anything else the control plane writes to the tables an access depends on. -/
  | tables (base : Db) (zones : Table ZoneRow String ZoneRow.id)
      (apiTokens : String → Option String)
  | operations (guided : Table GuidedRow String GuidedRow.id)
  /-- Others change DNS records at Cloudflare. -/
  | records (edited : List RemoteRecord) (nextRecord : Nat)
  /-- Others change the configuration of a tunnel. -/
  | tunnel (address : String × String) (config : Entries)

def Act.run : Act → PlaneWorld → PlaneWorld
  | .request id enabled, w => { w with db := (setDomainAccessPending w.db id enabled).1 }
  | .create newId values, w => { w with db := (createPendingDomainAccess w.db newId values).1 }
  | .account id values, w =>
      { w with db := (updateCloudflareAccount w.db id values).getD w.db }
  | .tables base zones apiTokens, w => { w with db := { w.db with base, zones, apiTokens } }
  | .operations guided, w => { w with db := { w.db with guided } }
  | .records edited nextRecord, w =>
      { w with cloud := { w.cloud with records := edited, nextRecord } }
  | .tunnel address config, w =>
      { w with cloud := { w.cloud with
          configs := Function.update w.cloud.configs address config } }

/-- The records of an access, by their comments. -/
def marked (records : List RemoteRecord) (id : String) : List RemoteRecord :=
  records.filter fun r => r.comment = some (ownershipMarker id)

def Unmarked (r : RemoteRecord) : Prop := ∀ id, r.comment ≠ some (ownershipMarker id)

/-- Records keep their numbers, and a number is given once. Nobody marks a record for an
access, or touches one that is marked. -/
structure ForeignEdit (cloud : Cloud) (records : List RemoteRecord) (nextRecord : Nat) :
    Prop where
  numbers : (records.map (·.id)).Nodup
  given : ∀ r ∈ records, r.id < nextRecord
  next : cloud.nextRecord ≤ nextRecord
  traces : ∀ r' ∈ records, r'.id < cloud.nextRecord →
    ∃ r ∈ cloud.records, r.id = r'.id ∧ (r = r' ∨ Unmarked r ∧ Unmarked r')
  marks : ∀ id, marked records id = marked cloud.records id

/-- Accounts are created, and deleted where no access names them; a change of one is an act
of its own. -/
def accountsKept (db : PublishDb) (base : Db) : Prop :=
  ∀ a ∈ db.base.accounts.rows, base.accounts.find? a.id = some a ∨
    ∀ h ∈ db.accesses.rows, h.accountId ≠ a.id

/-- The handlers store host names in lower case. -/
def PlainHosts (db : Db) : Prop := ∀ r ∈ db.managedRoutes.rows, lower r.hostname = r.hostname

/-- `publicIpArray` returns different addresses. -/
structure Distinct (values : AccessValues) : Prop where
  ipv4 : (values.publicIpv4.map lower).Nodup
  ipv6 : (values.publicIpv6.map lower).Nodup

/-- The identifier of a new access is new: nobody has its lock. -/
def Act.Possible (w : PlaneWorld) : Act → Prop
  | .create newId values => Distinct values ∧ w.holder (.domainAccess newId) = none
  | .tables base _ _ => accountsKept w.db base ∧ connectorsGuarded w.db base ∧
      routesGuarded w.db base ∧ PlainHosts base
  | .records edited nextRecord => ForeignEdit w.cloud edited nextRecord
  | _ => True

/-! ### The system -/

def system (render : Render) : System Plane State Slot (Except Failure Unit) Act where
  exec := Exec
  start := fun i _ s p t => t = s ∧ Starts render i p
  environment := fun a s t => a.Possible s.world ∧ t = { s with world := a.run s.world }
  crash := fun i s t p => t = { s with world := dropLocks i s.world } ∧ p = .pure (.ok ())

/-- The start: no accesses, and at Cloudflare whatever there may be. -/
structure Initial (c : Config Plane State Slot (Except Failure Unit)) : Prop where
  db : c.state.world.db = {}
  numbers : (c.state.world.cloud.records.map (·.id)).Nodup
  given : ∀ r ∈ c.state.world.cloud.records, r.id < c.state.world.cloud.nextRecord
  holder : ∀ key, c.state.world.holder key = none
  notes : c.state.notes = {}
  thread : ∀ i, c.thread i = .pure (.ok ())

/-! ### Scripts

Runs given move by move, for single examples. -/

abbrev PlaneConfig := Config Plane State Slot (Except Failure Unit)

inductive Move where
  | act (a : Act)
  | start (i : Slot) (requireHttpsObservation : Bool)
  /-- The next calls of a program, all answered. -/
  | answer (i : Slot) (count : Nat)
  /-- The next call of a program, its answer lost. -/
  | lose (i : Slot) (effect : Bool)

variable (render : Render) (ch : Choice)

def program : Slot → Bool → Prog Plane (Except Failure Unit)
  | .reconcile id _, requireHttpsObservation =>
      (do let _ ← reconcileDomainAccess id requireHttpsObservation : Handler Unit).run
  | .tick _, _ => (reconcileGuidedVerifications render).run

def lostAnswer : Failure := .other "socket hang up"

def answered (i : Slot) (s : State) (c : Call) : Except Failure c.Answer × State :=
  let (r, world) := c.run ch i s.world
  (r, { world, notes := s.notes.after i c r })

lemma exec_answered (i : Slot) (s : State) (c : Call) :
    Exec i s c (answered ch i s c).1 (answered ch i s c).2 :=
  ⟨⟨ch, Or.inl ⟨rfl, rfl⟩⟩, rfl⟩

def loseNext (i : Slot) (effect : Bool) (c : PlaneConfig) : PlaneConfig :=
  match c.thread i with
  | .pure _ => c
  | .op o k =>
      let world := if effect then (o.run ch i c.state.world).2 else c.state.world
      { state := { world, notes := c.state.notes.after i o (.error lostAnswer) },
        thread := Function.update c.thread i (k (.error lostAnswer)) }

def Move.play (c : PlaneConfig) : Move → PlaneConfig
  | .act a => { c with state := { c.state with world := a.run c.state.world } }
  | .start i flag => { c with thread := Function.update c.thread i (program render i flag) }
  | .answer i count =>
      let (p, state) := (c.thread i).runFor (answered ch i) count c.state
      { state, thread := Function.update c.thread i p }
  | .lose i effect => loseNext ch i effect c

/-- An act of the control plane itself. -/
def Act.isOwn : Act → Bool
  | .records _ _ | .tunnel _ _ => false
  | _ => true

/-- What can be computed of whether the system allows a move whose calls pass a check. -/
def Move.ready (check : Slot → State → Call → Bool) (c : PlaneConfig) : Move → Bool
  | .act a => a.isOwn
  | .start i _ => (c.thread i).next.isNone
  | .answer i count => (c.thread i).checkFor (check i) (answered ch i) count c.state
  | .lose i _ => (c.thread i).next.all fun o => check i c.state o

/-- The rest of it. -/
def Move.Possible (c : PlaneConfig) : Move → Prop
  | .act a => a.Possible c.state.world
  | _ => True

def play : List Move → PlaneConfig → PlaneConfig
  | [], c => c
  | m :: ms, c => play ms (m.play render ch c)

def ready (check : Slot → State → Call → Bool) : List Move → PlaneConfig → Bool
  | [], _ => true
  | m :: ms, c => m.ready ch check c && ready check ms (m.play render ch c)

def Possible : List Move → PlaneConfig → Prop
  | [], _ => True
  | m :: ms, c => m.Possible c ∧ Possible ms (m.play render ch c)

def Move.slot : Move → Option Slot
  | .act _ => none
  | .start i _ | .answer i _ | .lose i _ => some i

/-- A program that no move names stays where it is. -/
lemma play_thread {ms : List Move} {j : Slot} (h : ∀ m ∈ ms, m.slot ≠ some j) :
    ∀ c : PlaneConfig, (play render ch ms c).thread j = c.thread j := by
  induction ms with
  | nil => exact fun c => rfl
  | cons m ms ih =>
    intro c
    have hm := h m List.mem_cons_self
    have hmove : (m.play render ch c).thread j = c.thread j := by
      cases m with
      | act a => rfl
      | start i flag => exact Function.update_of_ne (fun heq => hm (congrArg some heq.symm)) _ _
      | answer i count => exact Function.update_of_ne (fun heq => hm (congrArg some heq.symm)) _ _
      | lose i effect =>
        change (loseNext ch i effect c).thread j = c.thread j
        unfold loseNext
        split
        · rfl
        · exact Function.update_of_ne (fun heq => hm (congrArg some heq.symm)) _ _
    exact (ih (fun m' hm' => h m' (List.mem_cons_of_mem _ hm')) _).trans hmove

section Playing

variable {render ch} {effect : Slot → State → (c : Call) → Except Failure c.Answer → Prop}
  {foreign : Act → State → Prop} {check : Slot → State → Call → Bool} {init : PlaneConfig → Prop}
  (hcheck : ∀ i s c r, check i s c → effect i s c r) (hforeign : ∀ a s, a.isOwn → foreign a s)
include hcheck

lemma reach_lose {c : PlaneConfig} (h : Reach ((system render).within effect foreign) init c)
    {i : Slot} (answered : Bool) (hnext : (c.thread i).next.all fun o => check i c.state o) :
    Reach ((system render).within effect foreign) init (loseNext ch i answered c) := by
  unfold loseNext
  split
  · exact h
  · rename_i o k hth
    let r : Except Failure (Call.Answer o) := .error lostAnswer
    have hlost : Failure.lost lostAnswer := rfl
    have hexec : Exec i c.state o r
        { world := if answered then (o.run ch i c.state.world).2 else c.state.world
          notes := c.state.notes.after i o r } := by
      refine ⟨⟨ch, Or.inr ⟨lostAnswer, rfl, hlost, ?_⟩⟩, rfl⟩
      cases answered with
      | true => exact Or.inr rfl
      | false => exact Or.inl rfl
    have hok : check i c.state o := by simpa [hth, Prog.next] using hnext
    exact h.step (.perform (S := (system render).within effect foreign) i r hth
      ⟨hcheck i c.state o r hok, hexec⟩)

include hforeign

lemma reach_move {c : PlaneConfig} (h : Reach ((system render).within effect foreign) init c)
    {m : Move} (hm : m.ready ch check c) (hp : m.Possible c) :
    Reach ((system render).within effect foreign) init (m.play render ch c) := by
  cases m with
  | act a =>
    exact h.step (.environment (S := (system render).within effect foreign) a
      ⟨hforeign a c.state hm, hp, rfl⟩)
  | start i flag =>
    cases hth : c.thread i with
    | op o k => simp [Move.ready, hth, Prog.next] at hm
    | pure a =>
      refine h.step (.start i hth ⟨rfl, ?_⟩)
      cases i with
      | reconcile id n => exact .reconcile id n flag
      | tick n => exact .tick n
  | answer i count =>
    exact reach_checkFor (S := system render) (exec_answered ch i) (hcheck i) count h hm
  | lose i effect => exact reach_lose hcheck h effect hm

lemma reach_play {ms : List Move} : ∀ {c : PlaneConfig},
    Reach ((system render).within effect foreign) init c → ready render ch check ms c →
      Possible render ch ms c →
        Reach ((system render).within effect foreign) init (play render ch ms c) := by
  induction ms with
  | nil => exact fun h _ _ => h
  | cons m ms ih =>
    intro c h hready hpossible
    obtain ⟨hm, hrest⟩ := Bool.and_eq_true_iff.mp hready
    exact ih (reach_move hcheck hforeign h hm hpossible.1) hrest hpossible.2

end Playing

/-- A script whose calls pass any check is a run. -/
lemma reach_play_any {render : Render} {ch : Choice} {init : PlaneConfig → Prop}
    {c : PlaneConfig} {ms : List Move} (h : Reach (system render) init c)
    (hready : ready render ch (fun _ _ _ => true) ms c) (hp : Possible render ch ms c) :
    Reach (system render) init (play render ch ms c) := by
  have hwithin : Reach ((system render).within (fun _ _ _ _ => True) fun _ _ => True) init c :=
    h.within (fun _ _ _ _ => trivial) fun _ _ => trivial
  exact (reach_play (fun _ _ _ _ _ => trivial) (fun _ _ _ => trivial) hwithin hready hp).of_within

end GatewayControl.ControlPlane
