import GatewayControl.DnsRuns

/-!
One attempt to publish a domain access, for what it leaves behind when it fails: the system of
that attempt with everybody else around it, and the `catch` block that takes back what was
made.
-/

namespace GatewayControl.FailedPublish

open Database Publishing Ingress Cloudflare Calls Reconcile Programs
open ControlPlane DnsOwnership DnsRuns

/-! ### The attempt -/

structure AttemptState where
  world : PlaneWorld
  /-- The world as the attempt found it when it read its deployment. -/
  before : Option PlaneWorld := none
  /-- Whether the last write of a tunnel's configuration was answered. -/
  written : Option Bool := none

def AttemptState.found (s : AttemptState) : Call → Option PlaneWorld
  | .deployment _ => s.before.or (some s.world)
  | _ => s.before

def AttemptState.wrote (s : AttemptState) : (c : Call) → Except Failure c.Answer → Option Bool
  | .putTunnelConfig _ _ _, answer => some answer.isOk
  | _, _ => s.written

structure Exec (i : Slot) (s : AttemptState) (c : Call) (answer : Except Failure c.Answer)
    (t : AttemptState) : Prop where
  world : Call.exec i s.world c answer t.world
  before : t.before = s.found c
  written : t.written = s.wrote c answer

/-- Cloudflare gives every record a number of its own. -/
structure Numbered (cloud : Cloud) : Prop where
  distinct : (cloud.records.map (·.id)).Nodup
  given : ∀ r ∈ cloud.records, r.id < cloud.nextRecord

/-- What others leave alone once the attempt has read its deployment in `b`: the tracked rows
of the access, the records with its marker, and the configuration of its tunnel. The access
itself may change, and with it its revision. -/
structure Meanwhile (id : String) (b w w' : PlaneWorld) : Prop where
  rows : ownedDnsRecords w'.db id = ownedDnsRecords w.db id
  marks : marked w'.cloud.records id = marked w.cloud.records id
  next : w.cloud.nextRecord ≤ w'.cloud.nextRecord
  config : ∀ d tunnelId, getCloudflareDomainAccessDeployment b.db id = some d →
    d.access.deployedTunnelId = some tunnelId →
    w'.cloud.configs (tunnelAddress d.access.deployedAccountIdentifier tunnelId) =
      w.cloud.configs (tunnelAddress d.access.deployedAccountIdentifier tunnelId)

/-- Before that, they may do anything. -/
structure Others (id : String) (s t : AttemptState) : Prop where
  before : t.before = s.before
  written : t.written = s.written
  world : ∀ b, s.before = some b → Meanwhile id b s.world t.world

/-- One call of `reconcileDomainAccess`, and everybody else. -/
def attempt (i : Slot) (id : String) :
    System Plane AttemptState Unit (Except Failure AccessRow) Unit where
  exec := fun _ => Exec i
  start := fun _ _ _ _ _ => False
  environment := fun _ s t => Others id s t ∧ Numbered t.world.cloud
  crash := fun _ _ _ _ => False

structure Initial (id : String) (requireHttpsObservation : Bool)
    (c : Config Plane AttemptState Unit (Except Failure AccessRow)) : Prop where
  numbered : Numbered c.state.world.cloud
  before : c.state.before = none
  written : c.state.written = none
  thread : c.thread () = (reconcileDomainAccess id requireHttpsObservation).run

/-! ### What a failed attempt should leave -/

/-- The tracked row of the record is left for clean-up. -/
def Pending (db : PublishDb) (id : String) (recordId : ℕ) : Prop :=
  ∃ row ∈ ownedDnsRecords db id, row.recordId = recordId ∧ row.status = .cleanupPending

structure CleanedUp (b : PlaneWorld) (d : Deployment) (s : AttemptState) : Prop where
  created : ∀ r ∈ marked s.world.cloud.records d.access.id, b.cloud.nextRecord ≤ r.id →
    Pending s.world.db d.access.id r.id
  kept : ∀ r ∈ marked b.cloud.records d.access.id, Made d.access r → r ∈ s.world.cloud.records
  ingress : ∀ tunnelId, d.access.accessMethod = .tunnel →
    d.access.deployedTunnelId = some tunnelId → s.written ≠ some false →
    readTunnelConfig s.world.cloud d.access.deployedAccountIdentifier tunnelId =
      readTunnelConfig b.cloud d.access.deployedAccountIdentifier tunnelId

/-- Of an enabled access. -/
def Cleaned (id : String) (s : AttemptState) : Prop :=
  ∀ b d, s.before = some b → getCloudflareDomainAccessDeployment b.db id = some d →
    d.access.enabled → CleanedUp b d s

/-! ### When it does -/

/-- The tracked rows of the access say what its records are. -/
structure Orderly (w : PlaneWorld) (d : Deployment) : Prop where
  given : ∀ row ∈ ownedDnsRecords w.db d.access.id, row.recordId < w.cloud.nextRecord
  agree : ∀ row ∈ ownedDnsRecords w.db d.access.id, row.status ≠ .deleted →
    ∀ r ∈ marked w.cloud.records d.access.id, Made d.access r → r.id = row.recordId →
      row.type = r.type ∧ lower row.content = lower r.content
  distinct : DistinctWanted d.access

/-- The record has a tracked row, and the access is still at that revision. -/
def Recordable (db : PublishDb) (id : String) (revision recordId : ℕ) : Prop :=
  (atRevision db id revision).isSome ∧ ∃ row ∈ ownedDnsRecords db id, row.recordId = recordId

/-- The condition on a call: the attempt starts over rows that are in order; a record it made
and cannot delete can be left for clean-up; and with a record made that nothing tracks, the
listing that looks for it is answered. -/
def Careful (id : String) (s : AttemptState) : (c : Call) → Except Failure c.Answer → Prop
  | .deployment _, _ => ∀ d, getCloudflareDomainAccessDeployment s.world.db id = some d →
      d.access.enabled → Orderly s.world d
  | .markRecord _ revision recordId status _, answer => ∀ b, s.before = some b →
      b.cloud.nextRecord ≤ recordId → (∃ saved, answer = .ok saved) ∧
        (status = .cleanupPending →
          (∃ r ∈ marked s.world.cloud.records id, r.id = recordId) →
          Recordable s.world.db id revision recordId)
  | .listRecords _ _, answer => ∀ b, s.before = some b →
      (∃ r ∈ marked s.world.cloud.records id, b.cloud.nextRecord ≤ r.id ∧
        ∀ row ∈ ownedDnsRecords s.world.db id, row.recordId ≠ r.id) →
      ∃ listed, answer = .ok listed
  | _, _ => True

/-! ### The contract -/

def contract (i : Slot) (id : String) : Contract Plane AttemptState Unit where
  exec := fun _ s c answer t => Careful id s c answer ∧ Exec i s c answer t
  inv := fun s => Numbered s.world.cloud
  rely := fun _ => Others id
  allowed := fun _ _ _ => True

variable {i : Slot} {id : String}

lemma Meanwhile.refl (b w : PlaneWorld) : Meanwhile id b w w :=
  ⟨rfl, rfl, le_rfl, fun _ _ _ _ => rfl⟩

lemma Meanwhile.trans {b w w' w'' : PlaneWorld} (h : Meanwhile id b w w')
    (h' : Meanwhile id b w' w'') : Meanwhile id b w w'' where
  rows := h'.rows.trans h.rows
  marks := h'.marks.trans h.marks
  next := h.next.trans h'.next
  config := fun d tunnelId hd ht => (h'.config d tunnelId hd ht).trans (h.config d tunnelId hd ht)

lemma lawful : (contract i id).Lawful where
  refl := fun _ s => ⟨rfl, rfl, fun b _ => .refl b s.world⟩
  trans := fun _ s t u h h' => by
    refine ⟨h'.before.trans h.before, h'.written.trans h.written, fun b hb => ?_⟩
    exact (h.world b hb).trans (h'.world b (h.before.trans hb))

/-- A call is answered with what it did, or its answer is lost. -/
lemma Exec.cases {s t : AttemptState} {c : Call} {answer : Except Failure c.Answer}
    (h : Exec i s c answer t) : ∃ ch : Choice,
    answer = (c.run ch i s.world).1 ∧ t.world = (c.run ch i s.world).2 ∨
      ∃ e, answer = .error e ∧ e.isExplicitNotFound = false ∧
        (t.world = s.world ∨ t.world = (c.run ch i s.world).2) := by
  obtain ⟨ch, h | ⟨e, he, hlost, hworld⟩⟩ := h.world
  · exact ⟨ch, Or.inl h⟩
  · exact ⟨ch, Or.inr ⟨e, he, lost_not_found hlost, hworld⟩⟩

lemma Numbered.drop {cloud : Cloud} (h : Numbered cloud) (zone : String) (k : ℕ) :
    Numbered { cloud with records := dropped zone k cloud.records } where
  distinct := h.distinct.sublist (List.filter_sublist.map _)
  given := fun r hr => h.given r (List.mem_filter.mp hr).1

lemma Numbered.add {cloud : Cloud} (h : Numbered cloud) {r : RemoteRecord}
    (hr : r.id = cloud.nextRecord) : Numbered (addRecord cloud r) where
  distinct := by
    simp only [addRecord, List.map_append, List.map_singleton]
    refine List.nodup_append.mpr ⟨h.distinct, List.nodup_singleton _, ?_⟩
    intro k hk k' hk' heq
    obtain ⟨r', hr', rfl⟩ := List.mem_map.mp hk
    have hlt := h.given r' hr'
    rw [heq, List.mem_singleton.mp hk', hr] at hlt
    exact Nat.lt_irrefl _ hlt
  given := fun r' hr' => by
    rcases List.mem_append.mp hr' with hr' | hr'
    · exact Nat.lt_succ_of_lt (h.given r' hr')
    · rw [List.mem_singleton.mp hr', hr]
      exact Nat.lt_succ_self _

lemma store_cloud {α : Type} (w : PlaneWorld) (answer : Option (PublishDb × α)) :
    (w.store answer).2.cloud = w.cloud := by
  cases answer <;> rfl

lemma numbered_run {c : Call} (hc : isReconcileCall c) (ch : Choice) {w : PlaneWorld}
    (h : Numbered w.cloud) : Numbered (c.run ch i w).2.cloud := by
  cases c with
  | acquire key =>
    rw [run_acquire]
    split
    · exact h
    · exact h
  | release key =>
    rw [run_release]
    split
    · exact h
    · exact h
  | saveRecord _ _ _ | markRecord _ _ _ _ _ | outcome _ _ _ _ =>
    refine Eq.mpr (congrArg Numbered (store_cloud w _)) h
  | createRecord zone type hostname content proxied comment => exact h.add rfl
  | deleteRecord zone k =>
    change Numbered (deleteDnsRecord w.cloud zone k).2
    rw [deleteDnsRecord_cloud]
    exact h.drop zone k
  | putTunnelConfig account tunnelId rules => exact ⟨h.distinct, h.given⟩
  | lockRow _ | deployment _ | listRecords _ _ | getRecord _ _ _ | tunnelConfig _ _ => exact h
  | _ => cases hc

lemma numbered_exec {c : Call} (hc : isReconcileCall c) {s t : AttemptState}
    {answer : Except Failure c.Answer} (h : Exec i s c answer t) (hs : Numbered s.world.cloud) :
    Numbered t.world.cloud := by
  obtain ⟨ch, ⟨-, heq⟩ | ⟨e, -, -, heq | heq⟩⟩ := h.cases
  · rw [heq]
    exact numbered_run hc ch hs
  · rw [heq]
    exact hs
  · rw [heq]
    exact numbered_run hc ch hs

/-- The rule for a call. -/
lemma exits_call {c : Call} (hc : isReconcileCall c) {P : AttemptState → Prop}
    {K : c.Answer → AttemptState → Prop} {X : Failure → AttemptState → Prop}
    (hP : Stable (contract i id) () P) (hK : ∀ a, Stable (contract i id) () (K a))
    (hX : ∀ e, Stable (contract i id) () (X e))
    (hstep : ∀ s answer t, Numbered s.world.cloud → P s → Careful id s c answer →
      Exec i s c answer t → Exits K X answer t) :
    Triple (contract i id) () P (call c).run (Exits K X) := by
  refine triple_perform hP ?_ (fun _ _ _ => trivial) ?_
  · rintro (e | a)
    · exact hX e
    · exact hK a
  · rintro s answer t hi hp ⟨hcareful, hexec⟩
    exact ⟨numbered_exec hc hexec hi, fun j hj => absurd rfl hj,
      hstep s answer t hi hp hcareful hexec⟩

/-! ### Calls that change nothing the attempt is about -/

def isLook : Call → Bool
  | .acquire _ | .release _ | .lockRow _ | .outcome _ _ _ _ => true
  | .listRecords _ _ | .getRecord _ _ _ | .tunnelConfig _ _ => true
  | _ => false

lemma look_run {c : Call} (hc : isLook c) (ch : Choice) (w : PlaneWorld) :
    (c.run ch i w).2.cloud = w.cloud ∧ (c.run ch i w).2.db.dnsRows = w.db.dnsRows := by
  cases c with
  | acquire key =>
    rw [run_acquire]
    split
    · exact ⟨rfl, rfl⟩
    · exact ⟨rfl, rfl⟩
  | release key =>
    rw [run_release]
    split
    · exact ⟨rfl, rfl⟩
    · exact ⟨rfl, rfl⟩
  | outcome id revision status lastError =>
    obtain ⟨hquiet, -⟩ := quiet_run (c := .outcome id revision status lastError) rfl ch i w
    refine ⟨?_, hquiet.dnsRows⟩
    change (w.store (markDomainAccessOutcome w.db id revision status lastError)).2.cloud = _
    cases markDomainAccessOutcome w.db id revision status lastError <;> rfl
  | lockRow _ | listRecords _ _ | getRecord _ _ _ | tunnelConfig _ _ => exact ⟨rfl, rfl⟩
  | _ => cases hc

lemma reconcile_of_look {c : Call} (hc : isLook c) : isReconcileCall c := by
  cases c <;> first | rfl | cases hc

lemma look_others {c : Call} (hc : isLook c) {s t : AttemptState}
    {answer : Except Failure c.Answer} (h : Exec i s c answer t) : Others id s t := by
  have hworld : t.world.cloud = s.world.cloud ∧ t.world.db.dnsRows = s.world.db.dnsRows := by
    obtain ⟨ch, ⟨-, heq⟩ | ⟨e, -, -, heq | heq⟩⟩ := h.cases
    · rw [heq]
      exact look_run hc ch s.world
    · rw [heq]
      exact ⟨rfl, rfl⟩
    · rw [heq]
      exact look_run hc ch s.world
  obtain ⟨hcloud, hrows⟩ := hworld
  have hbefore : t.before = s.before := by
    rw [h.before]
    cases c <;> first | rfl | cases hc
  have hwritten : t.written = s.written := by
    rw [h.written]
    cases c <;> first | rfl | cases hc
  refine ⟨hbefore, hwritten, fun b _ => ⟨?_, ?_, ?_, fun d tunnelId _ _ => ?_⟩⟩
  · rw [ownedDnsRecords, hrows]
    rfl
  · rw [hcloud]
  · rw [hcloud]
  · rw [hcloud]

/-- The rule for such a call: what is stable holds, and the answer is one it can give. -/
lemma exits_look {c : Call} (hc : isLook c) {P : AttemptState → Prop} {φ : c.Answer → Prop}
    (hP : Stable (contract i id) () P)
    (hφ : ∀ s ch a, Numbered s.world.cloud → P s → (c.run ch i s.world).1 = .ok a → φ a) :
    Triple (contract i id) () P (call c).run (Exits (fun a s => φ a ∧ P s) fun _ => P) := by
  have hcall := reconcile_of_look hc
  refine exits_call hcall hP (fun _ => (stable_const _).and hP) (fun _ => hP) ?_
  intro s answer t hi hp _ hexec
  have hpt := hP s t hi (numbered_exec hcall hexec hi) (look_others hc hexec) hp
  cases answer with
  | error e => exact hpt
  | ok a =>
    obtain ⟨ch, ⟨hanswer, -⟩ | ⟨e, hanswer, -⟩⟩ := hexec.cases
    · exact ⟨hφ s ch a hi hp hanswer.symm, hpt⟩
    · cases hanswer

lemma keeping_look {c : Call} (hc : isLook c) {P : AttemptState → Prop}
    (hP : Stable (contract i id) () P) : Keeping (contract i id) () P (call c) :=
  exits_conseq (exits_look (φ := fun _ => True) hc hP fun _ _ _ _ _ _ => trivial)
    (fun _ _ h => h) (fun _ _ _ h => h.2) fun _ _ _ h => h

/-! ### What an attempt has made so far -/

lemma mem_marked {records : List RemoteRecord} {r : RemoteRecord} :
    r ∈ marked records id ↔ r ∈ records ∧ r.comment = some (ownershipMarker id) := by
  simp [marked]

variable {b : PlaneWorld} {d : Deployment}

/-- What taking back the write of the tunnel needs, by what was read of it. -/
def Restorable (b : PlaneWorld) (d : Deployment) : Option (List Rule) → AttemptState → Prop
  | none, s => s.written = none ∧ ∀ tunnelId, d.access.deployedTunnelId = some tunnelId →
      s.world.cloud.configs (tunnelAddress d.access.deployedAccountIdentifier tunnelId) =
        b.cloud.configs (tunnelAddress d.access.deployedAccountIdentifier tunnelId)
  | some rules, _ => ∃ tunnelId, d.access.accessMethod = .tunnel ∧
      d.access.deployedTunnelId = some tunnelId ∧
      readTunnelConfig b.cloud d.access.deployedAccountIdentifier tunnelId = .ok rules

/-- The records the attempt made are among those listed, or left for clean-up. -/
structure Attempt (b : PlaneWorld) (d : Deployment) (created : List ℕ)
    (original : Option (List Rule)) (s : AttemptState) : Prop where
  before : s.before = some b
  kept : ∀ r ∈ marked b.cloud.records d.access.id, Made d.access r → r ∈ s.world.cloud.records
  given : ∀ r ∈ marked b.cloud.records d.access.id, r.id < b.cloud.nextRecord
  fresh : ∀ k ∈ created, b.cloud.nextRecord ≤ k
  left : ∀ r ∈ marked s.world.cloud.records d.access.id, b.cloud.nextRecord ≤ r.id →
    r.zone = d.access.deployedZoneIdentifier ∧
      (r.id ∈ created ∨ Pending s.world.db d.access.id r.id)
  restorable : Restorable b d original s

/-- The attempt has ended as it should. -/
structure Done (b : PlaneWorld) (d : Deployment) (s : AttemptState) : Prop where
  before : s.before = some b
  cleaned : CleanedUp b d s

/-- No record of the access has this number any more. -/
def Gone (d : Deployment) (k : ℕ) (s : AttemptState) : Prop :=
  ∀ r ∈ marked s.world.cloud.records d.access.id, r.id ≠ k

variable {created rest : List ℕ} {original : Option (List Rule)} {k : ℕ} {s t : AttemptState}

/-- A marked record that was there is there while the marked records are the same. -/
lemma kept_of_marks {records : List RemoteRecord}
    (hmarks : marked t.world.cloud.records d.access.id = marked records d.access.id)
    (h : ∀ r ∈ marked b.cloud.records d.access.id, Made d.access r → r ∈ records) :
    ∀ r ∈ marked b.cloud.records d.access.id, Made d.access r → r ∈ t.world.cloud.records := by
  intro r hr hmade
  have hold := mem_marked.mpr ⟨h r hr hmade, (mem_marked.mp hr).2⟩
  rw [← hmarks] at hold
  exact (mem_marked.mp hold).1

lemma pending_of_rows {db db' : PublishDb} (h : ownedDnsRecords db' id = ownedDnsRecords db id) :
    Pending db' id k ↔ Pending db id k := by
  rw [Pending, Pending, h]

lemma restorable_of_same (hwritten : t.written = s.written)
    (hconfig : ∀ tunnelId, d.access.deployedTunnelId = some tunnelId →
      t.world.cloud.configs (tunnelAddress d.access.deployedAccountIdentifier tunnelId) =
        s.world.cloud.configs (tunnelAddress d.access.deployedAccountIdentifier tunnelId))
    (h : Restorable b d original s) : Restorable b d original t := by
  cases original with
  | none =>
    exact ⟨hwritten.trans h.1, fun tunnelId ht => (hconfig tunnelId ht).trans (h.2 tunnelId ht)⟩
  | some rules => exact h

/-- While only rows change, and only so that what is left stays listed or pending. -/
lemma Attempt.of_rows {created' : List ℕ} (h : Attempt b d created original s)
    (hbefore : t.before = s.before) (hwritten : t.written = s.written)
    (hcloud : t.world.cloud = s.world.cloud) (hfresh : ∀ k ∈ created', b.cloud.nextRecord ≤ k)
    (hleft : ∀ r ∈ marked s.world.cloud.records d.access.id, b.cloud.nextRecord ≤ r.id →
      r.id ∈ created' ∨ Pending t.world.db d.access.id r.id) :
    Attempt b d created' original t where
  before := hbefore.trans h.before
  kept := by
    rw [hcloud]
    exact h.kept
  given := h.given
  fresh := hfresh
  left := by
    rw [hcloud]
    exact fun r hr hk => ⟨(h.left r hr hk).1, hleft r hr hk⟩
  restorable := restorable_of_same hwritten (fun _ _ => by rw [hcloud]) h.restorable

lemma Attempt.done (h : Attempt b d [] none s) : Done b d s where
  before := h.before
  cleaned :=
    { created := fun r hr hk => (h.left r hr hk).2.resolve_left List.not_mem_nil
      kept := h.kept
      ingress := fun tunnelId _ ht _ => by
        rw [readTunnelConfig, h.restorable.2 tunnelId ht]
        rfl }

section

variable (hd : getCloudflareDomainAccessDeployment b.db d.access.id = some d)
include hd

lemma stable_attempt : Stable (contract i d.access.id) () (Attempt b d created original) := by
  intro s t _ _ hr h
  have hm := hr.world b h.before
  refine ⟨hr.before.trans h.before, kept_of_marks hm.marks h.kept, h.given, h.fresh, ?_,
    restorable_of_same hr.written (fun tunnelId ht => hm.config d tunnelId hd ht) h.restorable⟩
  intro r hr' hk
  rw [hm.marks] at hr'
  exact (h.left r hr' hk).imp_right (Or.imp_right (pending_of_rows hm.rows).mpr)

lemma stable_done : Stable (contract i d.access.id) () (Done b d) := by
  intro s t _ _ hr h
  have hm := hr.world b h.before
  refine ⟨hr.before.trans h.before, fun r hr' hk => ?_, kept_of_marks hm.marks h.cleaned.kept,
    fun tunnelId hmethod ht hwritten => ?_⟩
  · rw [hm.marks] at hr'
    exact (pending_of_rows hm.rows).mpr (h.cleaned.created r hr' hk)
  · rw [hr.written] at hwritten
    rw [readTunnelConfig, hm.config d tunnelId hd ht]
    exact h.cleaned.ingress tunnelId hmethod ht hwritten

lemma stable_gone : Stable (contract i d.access.id) ()
    fun s => Attempt b d created original s ∧ Gone d k s := by
  rintro s t hi hi' hr ⟨h, hgone⟩
  refine ⟨stable_attempt hd s t hi hi' hr h, fun r hr' => ?_⟩
  rw [(hr.world b h.before).marks] at hr'
  exact hgone r hr'

end

/-! ### Deleting a record -/

lemma mem_dropped {zone : String} {records : List RemoteRecord} {r : RemoteRecord} :
    r ∈ dropped zone k records ↔ r ∈ records ∧ ¬(r.zone = zone ∧ r.id = k) := by
  simp only [dropped, List.mem_filter, Bool.not_eq_true', ← Bool.not_eq_true, Bool.and_eq_true,
    decide_eq_true_eq]

/-- **Inversion.** A deletion takes place, or its answer is lost. -/
lemma delete_cases {zone : String} {answer : Except Failure Unit}
    (h : Exec i s (.deleteRecord zone k) answer t) :
    t.before = s.before ∧ t.written = s.written ∧ t.world.db = s.world.db ∧
      (t.world.cloud = { s.world.cloud with records := dropped zone k s.world.cloud.records } ∨
        t.world.cloud = s.world.cloud ∧ ∃ e, answer = .error e ∧ e.isExplicitNotFound = false) := by
  refine ⟨h.before, h.written, ?_⟩
  obtain ⟨ch, ⟨-, heq⟩ | ⟨e, he, hlost, heq | heq⟩⟩ := h.cases
  · rw [heq]
    exact ⟨rfl, Or.inl (deleteDnsRecord_cloud ..)⟩
  · rw [heq]
    exact ⟨rfl, Or.inr ⟨rfl, e, he, hlost⟩⟩
  · rw [heq]
    exact ⟨rfl, Or.inl (deleteDnsRecord_cloud ..)⟩

/-- **Step lemma.** Deleting a record that is not a wanted one of before. -/
lemma Attempt.drop (h : Attempt b d created original s) {zone : String}
    (hk : ∀ r ∈ marked b.cloud.records d.access.id, Made d.access r → r.id ≠ k)
    (hbefore : t.before = s.before) (hwritten : t.written = s.written)
    (hdb : t.world.db = s.world.db)
    (hcloud : t.world.cloud = { s.world.cloud with
      records := dropped zone k s.world.cloud.records }) :
    Attempt b d created original t := by
  refine ⟨hbefore.trans h.before, fun r hr hmade => ?_, h.given, h.fresh, fun r hr hnew => ?_,
    restorable_of_same hwritten (fun _ _ => by rw [hcloud]) h.restorable⟩
  · rw [hcloud]
    exact mem_dropped.mpr ⟨h.kept r hr hmade, fun heq => hk r hr hmade heq.2⟩
  · rw [hcloud] at hr
    obtain ⟨hr, hmark⟩ := mem_marked.mp hr
    rw [hdb]
    exact h.left r (mem_marked.mpr ⟨(mem_dropped.mp hr).1, hmark⟩) hnew

lemma gone_of_drop (h : Attempt b d created original s) (hnew : b.cloud.nextRecord ≤ k)
    (hcloud : t.world.cloud = { s.world.cloud with
      records := dropped d.access.deployedZoneIdentifier k s.world.cloud.records }) :
    Gone d k t := by
  intro r hr hid
  rw [hcloud] at hr
  obtain ⟨hr, hmark⟩ := mem_marked.mp hr
  obtain ⟨hold, hnot⟩ := mem_dropped.mp hr
  exact hnot ⟨(h.left r (mem_marked.mpr ⟨hold, hmark⟩) (hid ▸ hnew)).1, hid⟩

lemma Attempt.tail (h : Attempt b d (k :: rest) original s) (hgone : Gone d k s) :
    Attempt b d rest original s :=
  h.of_rows rfl rfl rfl (fun k' hk' => h.fresh k' (List.mem_cons_of_mem _ hk'))
    fun r hr hnew => (h.left r hr hnew).2.imp_left fun hmem =>
      (List.mem_cons.mp hmem).resolve_left (hgone r hr)

/-- A number the attempt made is not that of a record of before. -/
lemma Attempt.ne_of_new (h : Attempt b d created original s) (hnew : b.cloud.nextRecord ≤ k) :
    ∀ r ∈ marked b.cloud.records d.access.id, Made d.access r → r.id ≠ k := by
  intro r hr _ hid
  have hlt := h.given r hr
  omega

section

variable (hd : getCloudflareDomainAccessDeployment b.db d.access.id = some d)
include hd

lemma removal_call (hnew : b.cloud.nextRecord ≤ k) :
    Triple (contract i d.access.id) () (Attempt b d (k :: rest) original)
      (call (.deleteRecord d.access.deployedZoneIdentifier k)).run
      (Exits (fun _ s => Attempt b d rest original s ∧ Gone d k s)
        fun e s => (e.isExplicitNotFound → Attempt b d rest original s ∧ Gone d k s) ∧
          Attempt b d (k :: rest) original s) := by
  refine exits_call rfl (stable_attempt hd) (fun _ => stable_gone hd)
    (fun _ => (stable_gone hd).imp.and (stable_attempt hd)) ?_
  intro s answer t hi h _ hexec
  obtain ⟨hbefore, hwritten, hdb, hcloud | ⟨hcloud, e, rfl, he⟩⟩ := delete_cases hexec
  · have hlisted := h.drop (h.ne_of_new hnew) hbefore hwritten hdb hcloud
    have hgone := gone_of_drop h hnew hcloud
    have hafter : Attempt b d rest original t ∧ Gone d k t := ⟨hlisted.tail hgone, hgone⟩
    cases answer with
    | ok _ => exact hafter
    | error e => exact ⟨fun _ => hafter, hlisted⟩
  · refine ⟨fun hfound => ?_, ?_⟩
    · rw [he] at hfound
      cases hfound
    · refine h.of_rows hbefore hwritten hcloud h.fresh fun r hr hk => ?_
      rw [hdb]
      exact (h.left r hr hk).2

end

/-! ### Marking a row -/

/-- **Inversion.** A change of status that is answered changes at most the row of that number,
and does so when it can. -/
lemma mark_cases {revision : ℕ} {status : DnsRowStatus} {lastError : Option String}
    {answer : Except Failure Bool} (hanswered : ∃ saved, answer = .ok saved)
    (h : Exec i s (.markRecord id revision k status lastError) answer t) :
    t.before = s.before ∧ t.written = s.written ∧ t.world.cloud = s.world.cloud ∧
      (ownedDnsRecords t.world.db id = ownedDnsRecords s.world.db id ∧
          ¬Recordable s.world.db id revision k ∨
        ownedDnsRecords t.world.db id =
          mapRow k (markRow status lastError) (ownedDnsRecords s.world.db id)) := by
  refine ⟨h.before, h.written, ?_⟩
  obtain ⟨ch, ⟨-, heq⟩ | ⟨e, he, -⟩⟩ := h.cases
  · obtain ⟨db', saved, hafter⟩ : ∃ db' saved,
        markDomainAccessDnsRecordStatus s.world.db id revision k status lastError = (db', saved) :=
      ⟨_, _, rfl⟩
    have hdb : t.world = { s.world with db := db' } := by
      rw [heq]
      change { s.world with
        db := (markDomainAccessDnsRecordStatus s.world.db id revision k status lastError).1 } = _
      rw [hafter]
    rw [hdb]
    refine ⟨rfl, ?_⟩
    rcases markDomainAccessDnsRecordStatus_cases hafter with ⟨rfl, rfl⟩ | ⟨-, hrows, -⟩
    · refine Or.inl ⟨rfl, ?_⟩
      rintro ⟨hrevision, row, hrow, hid⟩
      have hfound := any_recordId.mp (List.any_eq_true.mpr ⟨row, hrow, decide_eq_true hid⟩)
      unfold markDomainAccessDnsRecordStatus at hafter
      have hnot : ¬(atRevision s.world.db id revision).isNone := by
        simpa [Option.isNone_iff_eq_none, ← Option.isSome_iff_ne_none] using hrevision
      rw [if_neg hnot] at hafter
      rw [(Prod.mk.inj hafter).2] at hfound
      cases hfound
    · exact Or.inr hrows
  · obtain ⟨saved, hsaved⟩ := hanswered
    rw [hsaved] at he
    cases he

lemma pending_of_mapRow {db db' : PublishDb} {status : DnsRowStatus} {lastError : Option String}
    (hrows : ownedDnsRecords db' id = mapRow k (markRow status lastError) (ownedDnsRecords db id))
    {k' : ℕ} (hk : k' ≠ k) (h : Pending db id k') : Pending db' id k' := by
  obtain ⟨row, hrow, hid, hstatus⟩ := h
  refine ⟨row, ?_, hid, hstatus⟩
  rw [hrows]
  exact List.mem_map.mpr ⟨row, hrow, if_neg (hid ▸ hk)⟩

section

variable (hd : getCloudflareDomainAccessDeployment b.db d.access.id = some d)
include hd

/-- That a record is gone is noted without harm to the rest. -/
lemma removed_call (hnew : b.cloud.nextRecord ≤ k) {revision : ℕ} :
    Triple (contract i d.access.id) () (fun s => Attempt b d rest original s ∧ Gone d k s)
      (call (.markRecord d.access.id revision k .deleted none)).run
      (Exits (fun _ => Attempt b d rest original) fun _ _ => False) := by
  refine exits_call rfl (stable_gone hd) (fun _ => stable_attempt hd)
    (fun _ => stable_const False) ?_
  rintro s answer t hi ⟨h, hgone⟩ hcareful hexec
  obtain ⟨hanswered, -⟩ := hcareful b h.before hnew
  obtain ⟨hbefore, hwritten, hcloud, hrows⟩ := mark_cases hanswered hexec
  obtain ⟨saved, rfl⟩ := hanswered
  refine h.of_rows hbefore hwritten hcloud h.fresh fun r hr hk => ?_
  refine (h.left r hr hk).2.imp_right fun hpending => ?_
  rcases hrows with ⟨hrows, -⟩ | hrows
  · exact (pending_of_rows hrows).mpr hpending
  · exact pending_of_mapRow hrows (hgone r hr) hpending

/-- A record that could not be deleted is left for clean-up. -/
lemma leftover_call {revision : ℕ} {lastError : Option String} :
    Triple (contract i d.access.id) () (Attempt b d (k :: rest) original)
      (call (.markRecord d.access.id revision k .cleanupPending lastError)).run
      (Exits (fun _ => Attempt b d rest original) fun _ _ => False) := by
  refine exits_call rfl (stable_attempt hd) (fun _ => stable_attempt hd)
    (fun _ => stable_const False) ?_
  intro s answer t hi h hcareful hexec
  obtain ⟨hanswered, hrecordable⟩ := hcareful b h.before (h.fresh k List.mem_cons_self)
  obtain ⟨hbefore, hwritten, hcloud, hrows⟩ := mark_cases hanswered hexec
  obtain ⟨saved, rfl⟩ := hanswered
  refine h.of_rows hbefore hwritten hcloud
    (fun k' hk' => h.fresh k' (List.mem_cons_of_mem _ hk')) fun r hr hk => ?_
  by_cases hid : r.id = k
  · right
    have hcan := hrecordable rfl ⟨r, hr, hid⟩
    rcases hrows with ⟨-, hcannot⟩ | hrows
    · exact absurd hcan hcannot
    · obtain ⟨-, row, hrow, hrowid⟩ := hcan
      refine ⟨markRow .cleanupPending lastError row, ?_, hrowid.trans hid.symm, rfl⟩
      rw [hrows]
      exact List.mem_map.mpr ⟨row, hrow, if_pos hrowid⟩
  · refine (h.left r hr hk).2.imp (fun hmem => (List.mem_cons.mp hmem).resolve_left hid)
      fun hpending => ?_
    rcases hrows with ⟨hrows, -⟩ | hrows
    · exact (pending_of_rows hrows).mpr hpending
    · exact pending_of_mapRow hrows hid hpending

/-! ### The `catch` block -/

/-- What the attempt made is taken back, record by record. -/
lemma removeCreated_triple (created : List ℕ) :
    Triple (contract i d.access.id) () (Attempt b d created original)
      (removeCreated d created).run
      (Exits (fun _ => Attempt b d [] original) fun _ _ => False) := by
  induction created with
  | nil => exact exits_pure (stable_attempt hd) fun _ _ h => h
  | cons k rest ih =>
    intro s hi h
    have hnew := h.fresh k List.mem_cons_self
    revert s
    refine exits_bind lawful (fun _ => stable_const False) ?_ fun _ => ih
    refine exits_catch lawful (fun _ => stable_attempt hd) (X := fun e s =>
      (e.isExplicitNotFound → Attempt b d rest original s ∧ Gone d k s) ∧
        Attempt b d (k :: rest) original s) ?_ fun e => ?_
    · refine exits_bind lawful (fun _ => (stable_gone hd).imp.and (stable_attempt hd))
        (removal_call hd hnew) fun _ => ?_
      refine exits_conseq (K := fun _ => Attempt b d rest original) (X := fun _ _ => False) ?_
        (fun _ _ h => h) (fun _ _ _ h => h) fun _ _ _ h => h.elim
      exact exits_bind lawful (fun _ => stable_const False) (removed_call hd hnew)
        fun _ => exits_pure (stable_attempt hd) fun _ _ h => h
    · split
      · next hfound =>
        refine exits_bind lawful (fun _ => stable_const False)
          (exits_conseq (removed_call hd hnew) (fun _ _ h => h.1 hfound) (fun _ _ _ h => h)
            fun _ _ _ h => h) fun _ => exits_pure (stable_attempt hd) fun _ _ h => h
      · refine exits_bind lawful (fun _ => stable_const False)
          (exits_conseq (leftover_call hd) (fun _ _ h => h.2) (fun _ _ _ h => h)
            fun _ _ _ h => h) fun _ => exits_pure (stable_attempt hd) fun _ _ h => h

omit hd in
/-- **Inversion.** A write of the tunnel is answered and has taken place, or its answer is
lost. -/
lemma put_cases {account tunnelId : String} {rules : List Rule} {answer : Except Failure Unit}
    (h : Exec i s (.putTunnelConfig account tunnelId rules) answer t) :
    t.before = s.before ∧ t.world.db = s.world.db ∧
      t.world.cloud.records = s.world.cloud.records ∧
      t.world.cloud.nextRecord = s.world.cloud.nextRecord ∧
      (t.written = some false ∨
        t.world.cloud = writeTunnelConfig s.world.cloud account tunnelId rules) := by
  refine ⟨h.before, ?_⟩
  have hwritten : t.written = some answer.isOk := h.written
  obtain ⟨ch, ⟨-, heq⟩ | ⟨e, he, -, heq | heq⟩⟩ := h.cases
  · rw [heq]
    exact ⟨rfl, rfl, rfl, Or.inr rfl⟩
  · rw [he] at hwritten
    rw [heq]
    exact ⟨rfl, rfl, rfl, Or.inl hwritten⟩
  · rw [heq]
    exact ⟨rfl, rfl, rfl, Or.inr rfl⟩

omit hd in
lemma readTunnelConfig_write {cloud cloud' : Cloud} {account tunnelId : String}
    {rules : List Rule} (h : readTunnelConfig cloud account tunnelId = .ok rules) :
    readTunnelConfig (writeTunnelConfig cloud' account tunnelId rules) account tunnelId =
      .ok rules := by
  have hget : getTunnelConfig (cloud.configs (tunnelAddress account tunnelId)) = some rules := by
    unfold readTunnelConfig at h
    split at h
    · next rules' hget => rw [hget, Except.ok.inj h]
    · cases h
  unfold readTunnelConfig writeTunnelConfig
  dsimp only
  rw [Function.update_self, getTunnelConfig_put (getTunnelConfig_rules hget)]

/-- The rules that were read are written back; nobody asks whether that succeeds. -/
lemma restoreIngress_triple (henabled : d.access.enabled) :
    Triple (contract i d.access.id) () (Attempt b d [] original)
      (restoreIngress d original).run (Exits (fun _ => Done b d) fun _ _ => False) := by
  cases original with
  | none => exact exits_pure (stable_attempt hd) fun _ _ h => h.done
  | some rules =>
    intro s hi h
    obtain ⟨tunnelId, hmethod, htunnel, hread⟩ := h.restorable
    revert s
    have hdone (s : AttemptState) (h : Attempt b d [] (some rules) s)
        (hwritten : s.written = some false ∨ readTunnelConfig s.world.cloud
          d.access.deployedAccountIdentifier tunnelId = .ok rules) : Done b d s := by
      refine ⟨h.before, fun r hr hk => (h.left r hr hk).2.resolve_left List.not_mem_nil, h.kept,
        fun tunnelId' _ ht hanswered => ?_⟩
      obtain rfl := Option.some.inj (htunnel.symm.trans ht)
      rw [hread]
      exact hwritten.resolve_left hanswered
    unfold restoreIngress
    rw [htunnel]
    dsimp only
    rw [if_pos ⟨hmethod, henabled⟩]
    refine exits_catch lawful (fun _ => stable_done hd) (X := fun _ => Done b d) ?_
      fun _ => exits_pure (stable_done hd) fun _ _ h => h
    refine exits_call rfl (stable_attempt hd) (fun _ => stable_done hd) (fun _ => stable_done hd) ?_
    intro s answer t hi h _ hexec
    obtain ⟨hbefore, hdb, hrecords, -, hafter⟩ := put_cases hexec
    have hattempt : Attempt b d [] (some rules) t := by
      refine ⟨hbefore.trans h.before, ?_, h.given, h.fresh, ?_, h.restorable⟩
      · rw [hrecords]
        exact h.kept
      · rw [hrecords, hdb]
        exact h.left
    have hend : Done b d t := by
      refine hdone t hattempt (hafter.imp_right fun hcloud => ?_)
      rw [hcloud]
      exact readTunnelConfig_write hread
    cases answer with
    | ok _ => exact hend
    | error _ => exact hend

/-- **The compensation.** Whatever was made so far, the handler ends as it should. -/
lemma compensate_triple {α : Type} {K : α → AttemptState → Prop} (henabled : d.access.enabled)
    (error : Failure) :
    Triple (contract i d.access.id) () (Attempt b d created original)
      (compensate d ⟨created, original⟩ error : Handler α).run (Exits K fun _ => Done b d) := by
  refine exits_throws (K := fun _ _ => True) (compensate_throws d _ error) ?_
  have hnever (e : Failure) (s : AttemptState) (h : False) : Done b d s := h.elim
  refine exits_bind lawful (fun _ => stable_done hd)
    (exits_conseq (removeCreated_triple hd created) (fun _ _ h => h) (fun _ _ _ h => h)
      fun e s _ => hnever e s) fun _ => ?_
  refine exits_bind lawful (fun _ => stable_done hd)
    (exits_conseq (restoreIngress_triple hd henabled) (fun _ _ h => h) (fun _ _ _ h => h)
      fun e s _ => hnever e s) fun _ => ?_
  split
  · exact exits_throw (stable_done hd) fun _ _ h => h
  · exact exits_bind lawful (fun _ => stable_done hd) (keeping_look rfl (stable_done hd))
      fun _ => exits_throw (stable_done hd) fun _ _ h => h

/-- The rule for a part of the `try` block. -/
lemma guarded_triple {α : Type} {p : Handler α} {P : AttemptState → Prop}
    {K : α → AttemptState → Prop} (henabled : d.access.enabled)
    (hK : ∀ a, Stable (contract i d.access.id) () (K a))
    (hp : Triple (contract i d.access.id) () P p.run
      (Exits K fun _ => Attempt b d created original)) :
    Triple (contract i d.access.id) () P (guarded d ⟨created, original⟩ p).run
      (Exits K fun _ => Done b d) :=
  exits_catch lawful hK hp fun error => compensate_triple hd henabled error

end

end GatewayControl.FailedPublish
