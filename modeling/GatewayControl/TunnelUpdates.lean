import GatewayControl.DnsRuns
import GatewayControl.TunnelRules

/-!
Who changes the configuration of a tunnel, and what is in it for each access.

A run reads the list of rules, writes another one and, when it fails, writes the first again.
Nothing is lost as long as one lock is taken by every run that writes to the tunnel.
-/

namespace GatewayControl.TunnelUpdates

open Database Store Publishing Ingress Cloudflare Calls Reconcile Verification Programs
open ControlPlane AccessHistory DnsOwnership DnsRuns TunnelRules

/-- The tunnel an access is served by, by the address of its configuration. -/
def tunnelOf (h : AccessRow) : Option (String × String) :=
  match h.accessMethod, h.deployedTunnelId with
  | .tunnel, some tunnelId => some (tunnelAddress h.deployedAccountIdentifier tunnelId)
  | _, _ => none

/-- The locks of a run. -/
def Takes (key : LockKey) (db : PublishDb) : Slot → Prop
  | .reconcile id _ =>
      key = .domainAccess id ∨ (db.accesses.find? id).bind tunnelKey = some key
  | .tick _ => False

def rulesAt (T : String × String) (s : State) (hostname : String) : List Rule :=
  hostRules .caseless (s.world.cloud.configs T) hostname

/-- What the tunnel should hold for an access whose last reconciliation ended so. -/
def Shows (status : AccessStatus) (hostname : String) (rules : List Rule) : Prop :=
  match status with
  | .active | .pending => rules = [hostnameRule hostname]
  | .disabled => rules = []
  | .failed => True

/-! ### The contract -/

variable (T : String × String) (key : LockKey)

/-- Whoever writes to the tunnel has the key among its locks. -/
def Shared (i : Slot) (s : State) : Call → Prop
  | .putTunnelConfig accountIdentifier tunnelId _ =>
      tunnelAddress accountIdentifier tunnelId = T → Takes key s.world.db i
  | _ => True

/-- Nobody else writes to the tunnel. -/
def Untouched : Act → Prop
  | .tunnel address _ => address ≠ T
  | _ => True

structure Inv (s : State) : Prop where
  hosts : ∀ id h, s.world.db.accesses.find? id = some h → ∀ id' h',
    s.world.db.accesses.find? id' = some h' → lower h.hostname = lower h'.hostname → id = id'
  plain : ∀ id h, s.world.db.accesses.find? id = some h → lower h.hostname = h.hostname
  routes : PlainHosts s.world.db.base
  fresh : ∀ id, s.world.db.accesses.find? id = none → s.notes.ended id = none
  told : ∀ id h, s.world.db.accesses.find? id = some h → tunnelOf h = some T →
    ∀ status, s.notes.ended id = some status → Shows status h.hostname (rulesAt T s h.hostname)

structure RelyOn (id : String) (i : Slot) (s t : State) : Prop where
  accesses : ∀ h, s.world.db.accesses.find? id = some h →
    ∃ h', t.world.db.accesses.find? id = some h' ∧ Later h h'
  absent : s.world.holder (.domainAccess id) = some i →
    s.world.db.accesses.find? id = none → t.world.db.accesses.find? id = none
  holder : ∀ k, s.world.holder k = some i → t.world.holder k = some i
  config : s.world.holder key = some i → t.world.cloud.configs T = s.world.cloud.configs T
  ended : s.world.holder (.domainAccess id) = some i → t.notes.ended id = s.notes.ended id

def Rely : Slot → State → State → Prop
  | .reconcile id n => RelyOn T key id (.reconcile id n)
  | .tick _ => fun _ _ => True

def allowed : Slot → State → Call → Prop
  | .reconcile id _, s, .outcome id' revision status _ =>
      id' = id ∧ ∀ h, atRevision s.world.db id revision = some h → tunnelOf h = some T →
        Shows status h.hostname (rulesAt T s h.hostname)
  | _, _, .createAccess _ => False
  | _, _, _ => True

def contract : Contract Plane State Slot where
  exec := fun i s c r t => Exec i s c r t ∧ Shared T key i s c
  inv := Inv T
  rely := Rely T key
  allowed := allowed T

variable {T key}

lemma RelyOn.refl (id : String) (i : Slot) (s : State) : RelyOn T key id i s s :=
  ⟨fun h hh => ⟨h, hh, .refl h⟩, fun _ h => h, fun _ h => h, fun _ => rfl, fun _ => rfl⟩

lemma RelyOn.trans {id : String} {i : Slot} {s t u : State} (h : RelyOn T key id i s t)
    (h' : RelyOn T key id i t u) : RelyOn T key id i s u where
  accesses := by
    intro a ha
    obtain ⟨b, hb, hab⟩ := h.accesses a ha
    obtain ⟨c, hc, hbc⟩ := h'.accesses b hb
    exact ⟨c, hc, hab.trans hbc⟩
  absent := fun hold hnone => h'.absent (h.holder _ hold) (h.absent hold hnone)
  holder := fun k hold => h'.holder k (h.holder k hold)
  config := fun hold => (h'.config (h.holder _ hold)).trans (h.config hold)
  ended := fun hold => (h'.ended (h.holder _ hold)).trans (h.ended hold)

variable (T key) in
lemma lawful : (contract T key).Lawful where
  refl := by
    rintro (⟨id, n⟩ | n) s
    · exact RelyOn.refl id _ s
    · trivial
  trans := by
    rintro (⟨id, n⟩ | n) s t u h h'
    · exact RelyOn.trans h h'
    · trivial

/-! ### Steps that leave the tunnel alone -/

lemma Later.tunnelOf_eq {h h' : AccessRow} (l : Later h h') : tunnelOf h' = tunnelOf h :=
  l.congr tunnelOf rfl

variable (T) in
structure Still (s t : State) : Prop where
  accesses : Evolves s.world.db t.world.db
  routes : PlainHosts s.world.db.base → PlainHosts t.world.db.base
  config : t.world.cloud.configs T = s.world.cloud.configs T
  ended : t.notes.ended = s.notes.ended

lemma Still.refl (s : State) : Still T s s := ⟨evolves_same rfl, fun h => h, rfl, rfl⟩

lemma Still.rulesAt_eq {s t : State} (q : Still T s t) : rulesAt T t = rulesAt T s := by
  funext hostname
  rw [rulesAt, rulesAt, q.config]

/-- **Step lemma.** What is told of the accesses stays true if the rules it is about, and what
is told, stay. -/
lemma inv_evolves {s t : State} (hi : Inv T s) (haccesses : Evolves s.world.db t.world.db)
    (hroutes : PlainHosts t.world.db.base)
    (hfresh : ∀ id, s.world.db.accesses.find? id = none → t.notes.ended id = none)
    (htold : ∀ id h, s.world.db.accesses.find? id = some h → tunnelOf h = some T →
      ∀ status, t.notes.ended id = some status →
        Shows status h.hostname (rulesAt T t h.hostname)) : Inv T t where
  hosts := by
    intro id a ha id' a' ha' heq
    obtain ⟨b, hb, hab⟩ := haccesses.back id a ha
    obtain ⟨b', hb', hab'⟩ := haccesses.back id' a' ha'
    rw [hab.hostname_eq, hab'.hostname_eq] at heq
    exact hi.hosts id b hb id' b' hb' heq
  plain := by
    intro id a ha
    obtain ⟨b, hb, hab⟩ := haccesses.back id a ha
    rw [hab.hostname_eq]
    exact hi.plain id b hb
  routes := hroutes
  fresh := by
    intro id hnone
    refine hfresh id ?_
    cases hb : s.world.db.accesses.find? id with
    | none => rfl
    | some b =>
      obtain ⟨a, ha, -⟩ := haccesses.forth id b hb
      rw [hnone] at ha
      cases ha
  told := by
    intro id a ha htunnel status hended
    obtain ⟨b, hb, hab⟩ := haccesses.back id a ha
    rw [Later.tunnelOf_eq hab] at htunnel
    rw [hab.hostname_eq]
    exact htold id b hb htunnel status hended

lemma Still.inv {s t : State} (q : Still T s t) (hi : Inv T s) : Inv T t := by
  refine inv_evolves hi q.accesses (q.routes hi.routes) (fun id hnone => ?_)
    fun id h hh htunnel status hended => ?_
  · rw [q.ended]
    exact hi.fresh id hnone
  · rw [q.ended] at hended
    rw [q.rulesAt_eq]
    exact hi.told id h hh htunnel status hended

lemma evolves_absent {db db' : PublishDb} (h : Evolves db db') {id : String}
    (hnone : db.accesses.find? id = none) : db'.accesses.find? id = none := by
  cases ha : db'.accesses.find? id with
  | none => rfl
  | some a =>
    obtain ⟨b, hb, -⟩ := h.back id a ha
    rw [hnone] at hb
    cases hb

lemma Still.rely {s t : State} (q : Still T s t) {j : Slot}
    (hj : ∀ k, s.world.holder k = some j → t.world.holder k = some j) : Rely T key j s t := by
  cases j with
  | tick n => trivial
  | reconcile id n =>
    exact ⟨fun h hh => q.accesses.forth id h hh, fun _ => evolves_absent q.accesses, hj,
      fun _ => q.config, fun _ => by rw [q.ended]⟩

/-! ### Calls that leave the tunnel alone -/

def isStill : Call → Bool
  | .acquire _ | .release _ | .deployment _ | .outcome _ _ _ _ => false
  | .putTunnelConfig _ _ _ | .createAccess _ => false
  | _ => true

lemma still_run {c : Call} (hc : isStill c) (ch : Choice) (i : Slot) (w : PlaneWorld) :
    (c.run ch i w).2.db.accesses = w.db.accesses ∧ (c.run ch i w).2.db.base = w.db.base ∧
      (c.run ch i w).2.cloud.configs = w.cloud.configs ∧
      (c.run ch i w).2.holder = w.holder := by
  have hstore {α : Type} {answer : Option (PublishDb × α)}
      (h : ∀ db a, answer = some (db, a) → db.accesses = w.db.accesses ∧ db.base = w.db.base) :
      (w.store answer).2.db.accesses = w.db.accesses ∧ (w.store answer).2.db.base = w.db.base ∧
        (w.store answer).2.cloud.configs = w.cloud.configs ∧
        (w.store answer).2.holder = w.holder := by
    cases answer with
    | none => exact ⟨rfl, rfl, rfl, rfl⟩
    | some answer =>
      obtain ⟨haccesses, hbase⟩ := h answer.1 answer.2 rfl
      exact ⟨haccesses, hbase, rfl, rfl⟩
  cases c with
  | acquire _ | release _ | deployment _ | outcome _ _ _ _ => simp [isStill] at hc
  | putTunnelConfig _ _ _ | createAccess _ => simp [isStill] at hc
  | saveRecord id revision record =>
    refine hstore fun db b h => ?_
    rcases saveDomainAccessDnsRecord_some h with ⟨-, rfl⟩ | ⟨-, hstep, -⟩
    · exact ⟨rfl, rfl⟩
    · exact ⟨hstep.accesses, hstep.base⟩
  | markRecord id revision recordId status lastError =>
    refine hstore fun db b h => ?_
    rcases markDomainAccessDnsRecordStatus_cases (Option.some.inj h) with
      ⟨-, rfl⟩ | ⟨hstep, -⟩
    · exact ⟨rfl, rfl⟩
    · exact ⟨hstep.accesses, hstep.base⟩
  | updateGuided id values =>
    refine hstore fun db b h => ?_
    obtain ⟨rfl, -⟩ := Prod.mk.inj (Option.some.inj h)
    exact ⟨rfl, rfl⟩
  | deleteRecord zone recordId =>
    change w.db.accesses = w.db.accesses ∧ w.db.base = w.db.base ∧
      (deleteDnsRecord w.cloud zone recordId).2.configs = w.cloud.configs ∧ w.holder = w.holder
    rw [deleteDnsRecord_cloud]
    exact ⟨rfl, rfl, rfl, rfl⟩
  | _ => exact ⟨rfl, rfl, rfl, rfl⟩

lemma after_still {c : Call} (hc : isStill c) (notes : Notes) (i : Slot)
    (r : Except Failure c.Answer) : notes.after i c r = notes := by
  cases i <;> cases c <;> first | rfl | simp [isStill] at hc

lemma still_exec {i : Slot} {s t : State} {c : Call} {r : Except Failure c.Answer}
    (hc : isStill c) (h : Exec i s c r t) :
    Still T s t ∧ t.world.holder = s.world.holder := by
  obtain ⟨ch, hcases⟩ := h.world
  have hended : t.notes.ended = s.notes.ended := by rw [h.notes, after_still hc]
  obtain ⟨haccesses, hbase, hconfigs, hholder⟩ := still_run hc ch i s.world
  have hrun : t.world = (c.run ch i s.world).2 →
      Still T s t ∧ t.world.holder = s.world.holder := by
    intro heq
    refine ⟨⟨evolves_same ?_, ?_, ?_, hended⟩, ?_⟩
    · rw [heq, haccesses]
    · rw [heq, hbase]
      exact fun h => h
    · rw [heq, hconfigs]
    · rw [heq, hholder]
  rcases hcases with ⟨-, heq⟩ | ⟨e, -, -, heq | heq⟩
  · exact hrun heq
  · refine ⟨⟨?_, ?_, ?_, hended⟩, ?_⟩
    · rw [heq]
      exact evolves_same rfl
    · rw [heq]
      exact fun h => h
    · rw [heq]
    · rw [heq]
  · exact hrun heq

end GatewayControl.TunnelUpdates
