import GatewayControl.AccessTopology
import GatewayControl.PublishedRecords

/-!
Which accesses are active. A reconciliation checks the topology of an access before it says
so, and the guards keep the topology from then on. The verification tick checks nothing.
-/

namespace GatewayControl.ActiveAccesses

open Database Store Publishing Ingress Cloudflare Calls Reconcile Verification Programs
open ControlPlane AccessHistory DnsOwnership DnsRuns TunnelUpdates TunnelRuns AccessTopology
open PublishedRecords

/-! ### The contract -/

structure Inv (s : State) : Prop where
  active : ∀ id h, s.world.db.accesses.find? id = some h → h.status = .active →
    h.enabled ∧ Topology s.world.db.base h
  reconciled : ∀ id revision, (id, revision) ∈ s.notes.reconciled →
    ∀ h, atRevision s.world.db id revision = some h → h.enabled ∧ Topology s.world.db.base h
  past : ∀ id revision, (id, revision) ∈ s.notes.reconciled →
    ∃ h, s.world.db.accesses.find? id = some h ∧ revision ≤ h.revision

/-- Accesses stay, and an enabled one keeps its topology as long as its revision stays. -/
def Grows (db db' : PublishDb) : Prop :=
  ∀ id h, db.accesses.find? id = some h → ∃ h', db'.accesses.find? id = some h' ∧ Later h h' ∧
    (h'.revision = h.revision → h.enabled → Topology db.base h → Topology db'.base h')

def allowed : Slot → State → Call → Prop
  | .reconcile id _, s, .outcome id' revision status _ =>
      id' = id ∧ (publishes status → ∀ h, atRevision s.world.db id revision = some h →
        h.enabled ∧ Topology s.world.db.base h)
  | _, _, .createAccess _ => False
  | _, _, _ => True

/-- A tick finds an access fine only at a revision at which a reconciliation has published
it. -/
def Vetted : Slot → State → Call → Prop
  | .tick _, s, .outcome id revision .active _ =>
      ∀ h, atRevision s.world.db id revision = some h → h.enabled →
        (id, revision) ∈ s.notes.reconciled
  | _, _, _ => True

def contract : Contract Plane State Slot where
  exec := fun i s c r t => Exec i s c r t ∧ Vetted i s c
  inv := Inv
  rely := fun _ s t => Grows s.world.db t.world.db
  allowed := allowed

lemma Grows.refl (db : PublishDb) : Grows db db :=
  fun _ h hh => ⟨h, hh, .refl h, fun _ _ ht => ht⟩

lemma Grows.trans {db db' db'' : PublishDb} (h : Grows db db') (h' : Grows db' db'') :
    Grows db db'' := by
  intro id a ha
  obtain ⟨b, hb, hab, htop⟩ := h id a ha
  obtain ⟨c, hc, hbc, htop'⟩ := h' id b hb
  refine ⟨c, hc, hab.trans hbc, fun heq hen ht => ?_⟩
  have hfirst : b.revision = a.revision :=
    Nat.le_antisymm (heq ▸ hbc.revision) hab.revision
  exact htop' (heq.trans hfirst.symm) ((hab.enabled hfirst).trans hen) (htop hfirst hen ht)

lemma lawful : contract.Lawful where
  refl := fun _ s => Grows.refl s.world.db
  trans := fun _ _ _ _ h h' => Grows.trans h h'

/-! ### Calls that record no outcome -/

def isFrame : Call → Bool
  | .outcome _ _ _ _ | .createAccess _ => false
  | _ => true

lemma frame_run {c : Call} (hc : isFrame c) (ch : Choice) (i : Slot) (w : PlaneWorld) :
    (c.run ch i w).2.db.accesses = w.db.accesses ∧ (c.run ch i w).2.db.base = w.db.base := by
  by_cases hstill : isStill c
  · obtain ⟨haccesses, hbase, -⟩ := still_run hstill ch i w
    exact ⟨haccesses, hbase⟩
  · cases c with
    | outcome _ _ _ _ | createAccess _ => simp [isFrame] at hc
    | acquire key =>
      rw [run_acquire]
      split
      · exact ⟨rfl, rfl⟩
      · exact ⟨rfl, rfl⟩
    | release key =>
      rw [run_release]
      split
      · exact ⟨rfl, rfl⟩
      · exact ⟨rfl, rfl⟩
    | deployment _ | putTunnelConfig _ _ _ => exact ⟨rfl, rfl⟩
    | _ => exact absurd rfl hstill

lemma frame_exec {i : Slot} {s t : State} {c : Call} {r : Except Failure c.Answer}
    (hc : isFrame c) (h : Exec i s c r t) :
    t.world.db.accesses = s.world.db.accesses ∧ t.world.db.base = s.world.db.base ∧
      t.notes.reconciled = s.notes.reconciled := by
  have hnotes : t.notes.reconciled = s.notes.reconciled := by
    rw [h.notes]
    cases i <;> cases c <;> first | rfl | simp [isFrame] at hc
  obtain ⟨ch, hcases⟩ := h.world
  obtain ⟨haccesses, hbase⟩ := frame_run hc ch i s.world
  rcases hcases with ⟨-, heq⟩ | ⟨e, -, -, heq | heq⟩
  · rw [heq]
    exact ⟨haccesses, hbase, hnotes⟩
  · rw [heq]
    exact ⟨rfl, rfl, hnotes⟩
  · rw [heq]
    exact ⟨haccesses, hbase, hnotes⟩

lemma inv_frame {s t : State} (hi : Inv s) (haccesses : t.world.db.accesses = s.world.db.accesses)
    (hbase : t.world.db.base = s.world.db.base)
    (hnotes : t.notes.reconciled = s.notes.reconciled) : Inv t where
  active := by
    rw [haccesses, hbase]
    exact hi.active
  reconciled := by
    intro id revision hmem h hh
    rw [hnotes] at hmem
    rw [atRevision, haccesses] at hh
    rw [hbase]
    exact hi.reconciled id revision hmem h hh
  past := by
    rw [hnotes, haccesses]
    exact hi.past

lemma grows_frame {db db' : PublishDb} (haccesses : db'.accesses = db.accesses)
    (hbase : db'.base = db.base) : Grows db db' :=
  fun _ h hh => ⟨h, haccesses ▸ hh, .refl h, fun _ _ ht => hbase ▸ ht⟩

/-! ### Recording an outcome -/

/-- **Inversion.** What recording an outcome does, whether it is answered or not. -/
lemma outcome_db {i : Slot} {s t : State} {id : String} {revision : Nat}
    {status : AccessStatus} {lastError : Option String}
    {r : Except Failure (Option AccessRow)}
    (h : Exec i s (.outcome id revision status lastError) r t) :
    (t.world.db = s.world.db ∧ ∀ saved, r ≠ .ok (some saved)) ∨
      ∃ row, atRevision s.world.db id revision = some row ∧ coherent row.enabled status ∧
        ∃ hf, t.world.db = updateAccess s.world.db id
          (endRow status lastError (activeCname s.world.db id)) hf := by
  obtain ⟨ch, hcases⟩ := h.world
  have hrun : (Call.outcome id revision status lastError).run ch i s.world =
    s.world.store (markDomainAccessOutcome s.world.db id revision status lastError) := rfl
  have hafter : t.world = ((Call.outcome id revision status lastError).run ch i s.world).2 →
      (t.world.db = s.world.db ∧
        ∀ saved, ((Call.outcome id revision status lastError).run ch i s.world).1 ≠
          .ok (some saved)) ∨
        ∃ row, atRevision s.world.db id revision = some row ∧ coherent row.enabled status ∧
          ∃ hf, t.world.db = updateAccess s.world.db id
            (endRow status lastError (activeCname s.world.db id)) hf := by
    intro heq
    rw [hrun] at heq ⊢
    cases hmark : markDomainAccessOutcome s.world.db id revision status lastError with
    | none =>
      rw [hmark] at heq
      exact Or.inl ⟨by rw [heq]; rfl, fun saved hsaved => by cases hsaved⟩
    | some answer =>
      obtain ⟨db, saved⟩ := answer
      rw [hmark] at heq
      cases saved with
      | none =>
        obtain ⟨rfl, -⟩ := markDomainAccessOutcome_none hmark
        exact Or.inl ⟨by rw [heq]; rfl, fun saved hsaved => by cases hsaved⟩
      | some saved =>
        obtain ⟨row, hrow, hcoherent, rfl, -⟩ := markDomainAccessOutcome_some hmark
        exact Or.inr ⟨row, hrow, hcoherent, _, by rw [heq]; rfl⟩
  rcases hcases with ⟨hr, heq⟩ | ⟨e, hr, -, heq | heq⟩
  · rw [hr]
    exact hafter heq
  · exact Or.inl ⟨by rw [heq], fun saved hsaved => by rw [hr] at hsaved; cases hsaved⟩
  · rcases hafter heq with ⟨hdb, -⟩ | hrow
    · exact Or.inl ⟨hdb, fun saved hsaved => by rw [hr] at hsaved; cases hsaved⟩
    · exact Or.inr hrow

lemma endRow_topology {base : Db} {status : AccessStatus} {lastError : Option String}
    {dnsRecordId : Option Nat} {h : AccessRow} (ht : Topology base h) :
    Topology base (endRow status lastError dnsRecordId h) :=
  Later.topology (later_endRow status lastError dnsRecordId h) ht

/-- **Step lemma.** An outcome that is recorded as active is that of an enabled access with a
topology, and so is one that is noted. -/
lemma outcome_step {i : Slot} {s t : State} {id : String} {revision : Nat}
    {status : AccessStatus} {lastError : Option String}
    {r : Except Failure (Option AccessRow)} (hi : Inv s)
    (hactive : status = .active → ∀ h, atRevision s.world.db id revision = some h → h.enabled →
      Topology s.world.db.base h)
    (hnotes : t.notes.reconciled = s.notes.reconciled ∨
      t.notes.reconciled = (id, revision) :: s.notes.reconciled ∧
        ∃ h, atRevision s.world.db id revision = some h ∧ h.enabled ∧
          Topology s.world.db.base h)
    (h : Exec i s (.outcome id revision status lastError) r t) :
    Inv t ∧ Grows s.world.db t.world.db := by
  have hrows : t.world.db.base = s.world.db.base ∧ ∀ id' a,
      t.world.db.accesses.find? id' = some a → ∃ b, s.world.db.accesses.find? id' = some b ∧
        (a = b ∨ id' = id ∧ b.revision = revision ∧ coherent b.enabled status ∧
          a = endRow status lastError (activeCname s.world.db id) b) := by
    rcases outcome_db h with ⟨hdb, -⟩ | ⟨row, hrow, hcoherent, hf, hdb⟩
    · rw [hdb]
      exact ⟨rfl, fun id' a ha => ⟨a, ha, Or.inl rfl⟩⟩
    · rw [hdb]
      refine ⟨rfl, fun id' a ha => ?_⟩
      rw [find?_updateAccess] at ha
      obtain ⟨b, hb, rfl⟩ := Option.map_eq_some_iff.mp ha
      refine ⟨b, hb, ?_⟩
      by_cases hid : b.id = id
      · have hsame : id' = id := (Table.key_find? hb).symm.trans hid
        obtain ⟨hfound, hrevision⟩ := atRevision_some.mp hrow
        rw [hsame] at hb
        obtain rfl := Option.some.inj (hb.symm.trans hfound)
        exact Or.inr ⟨hsame, hrevision, hcoherent, if_pos hid⟩
      · exact Or.inl (if_neg hid)
  obtain ⟨hbase, hrows⟩ := hrows
  obtain ⟨hevolves, -⟩ := outcome_frame h
  have hmem {id' : String} {revision' : Nat} (hin : (id', revision') ∈ t.notes.reconciled) :
      (id', revision') ∈ s.notes.reconciled ∨ id' = id ∧ revision' = revision ∧
        ∃ h, atRevision s.world.db id revision = some h ∧ h.enabled ∧
          Topology s.world.db.base h := by
    rcases hnotes with heq | ⟨heq, hgood⟩
    · rw [heq] at hin
      exact Or.inl hin
    · rw [heq] at hin
      rcases List.mem_cons.mp hin with heq | hin
      · obtain ⟨rfl, rfl⟩ := Prod.mk.inj heq
        exact Or.inr ⟨rfl, rfl, hgood⟩
      · exact Or.inl hin
  refine ⟨⟨?_, ?_, ?_⟩, ?_⟩
  · intro id' a ha hstatus
    obtain ⟨b, hb, rfl | ⟨rfl, hrevision, hcoherent, rfl⟩⟩ := hrows id' a ha
    · rw [hbase]
      exact hi.active id' a hb hstatus
    · obtain rfl : status = .active := hstatus
      have hen : b.enabled := hcoherent
      rw [hbase]
      exact ⟨hen, endRow_topology (hactive rfl b (atRevision_some.mpr ⟨hb, hrevision⟩) hen)⟩
  · intro id' revision' hin a ha
    obtain ⟨hfound, hrevision'⟩ := atRevision_some.mp ha
    obtain ⟨b, hb, hab⟩ := hevolves.back id' a hfound
    have hold : b.revision = revision' := by
      obtain ⟨b', hb', rfl | ⟨-, -, -, rfl⟩⟩ := hrows id' a hfound
      · obtain rfl := Option.some.inj (hb.symm.trans hb')
        exact hrevision'
      · obtain rfl := Option.some.inj (hb.symm.trans hb')
        exact hrevision'
    have hgood : b.enabled ∧ Topology s.world.db.base b := by
      rcases hmem hin with hin | ⟨rfl, rfl, c, hc, hgood⟩
      · exact hi.reconciled id' revision' hin b (atRevision_some.mpr ⟨hb, hold⟩)
      · obtain rfl := Option.some.inj (hb.symm.trans (atRevision_some.mp hc).1)
        exact hgood
    rw [hbase]
    exact ⟨(hab.enabled (hrevision'.trans hold.symm)).trans hgood.1,
      Later.topology hab hgood.2⟩
  · intro id' revision' hin
    have hbefore : ∃ b, s.world.db.accesses.find? id' = some b ∧ revision' ≤ b.revision := by
      rcases hmem hin with hin | ⟨rfl, rfl, c, hc, -⟩
      · exact hi.past id' revision' hin
      · obtain ⟨hfound, hrevision⟩ := atRevision_some.mp hc
        exact ⟨c, hfound, Nat.le_of_eq hrevision.symm⟩
    obtain ⟨b, hb, hle⟩ := hbefore
    obtain ⟨a, ha, hab⟩ := hevolves.forth id' b hb
    exact ⟨a, ha, Nat.le_trans hle hab.revision⟩
  · intro id' b hb
    obtain ⟨a, ha, hab⟩ := hevolves.forth id' b hb
    exact ⟨a, ha, hab, fun _ _ ht => hbase ▸ Later.topology hab ht⟩

/-! ### The calls of a run -/

variable {d : Deployment} {ok : AccessStatus → Prop}

/-- The outcomes of a run are its access's, at the revision it has read. -/
def Ends (d : Deployment) (ok : AccessStatus → Prop) : Call → Prop
  | .outcome id revision status _ =>
      id = d.access.id ∧ revision = d.access.revision ∧ ok status
  | .createAccess _ => False
  | _ => True

lemma ends_of_still {α : Type} {p : Handler α} (hp : p.run.Only (isStill ·)) :
    p.run.Only (Ends d ok) := by
  refine hp.mono fun c hc => ?_
  cases c with
  | outcome _ _ _ _ | createAccess _ => simp [isStill] at hc
  | _ => trivial

lemma outcome_ends {status : AccessStatus} {lastError : Option String} (h : ok status) :
    (outcome d status lastError).run.Only (Ends d ok) := by
  refine only_bind (only_call ⟨rfl, rfl, h⟩) fun saved => ?_
  split
  · trivial
  · trivial

lemma compensate_ends {α : Type} (h : ok .failed) (progress : Progress) (e : Failure) :
    (compensate d progress e : Handler α).run.Only (Ends d ok) := by
  refine only_bind (ends_of_still (still_of_records (removeCreated_records _))) fun _ => only_bind ?_ fun _ => ?_
  · unfold restoreIngress
    split
    · split
      · exact only_catch (only_call trivial) fun _ => trivial
      · trivial
    · trivial
  · split
    · trivial
    · exact only_bind (only_call ⟨rfl, rfl, h⟩) fun _ => trivial

lemma guarded_ends {α : Type} (h : ok .failed) {progress : Progress} {p : Handler α}
    (hp : p.run.Only (Ends d ok)) : (guarded d progress p).run.Only (Ends d ok) :=
  only_catch hp fun e => compensate_ends h progress e

lemma rewriteIngress_ends (tunnelId : String) (rules : List Rule) :
    (rewriteIngress d tunnelId rules).run.Only (Ends d ok) := by
  unfold rewriteIngress
  split
  · exact only_call trivial
  · trivial

lemma disable_ends (hfailed : ok .failed) (hoff : ok .disabled) :
    (disable d).run.Only (Ends d ok) := by
  refine guarded_ends hfailed ?_
  refine only_bind (ends_of_still (still_of_records (deleteOwned_records _))) fun _ => ?_
  refine only_bind (only_call trivial) fun remote => ?_
  refine only_bind (ends_of_still (still_of_records (deleteRecoverable_records _))) fun _ => ?_
  refine only_bind ?_ fun _ => outcome_ends hoff
  unfold withdraw
  split
  · exact only_bind (only_call trivial) fun rules => rewriteIngress_ends _ rules
  · trivial

lemma createMissing_ends (hfailed : ok .failed) (original : Option (List Rule))
    (owned : List DnsRow) (items : List Wanted) : ∀ remote created,
    (createMissing d original owned items remote created).run.Only (Ends d ok) := by
  induction items with
  | nil => exact fun _ _ => trivial
  | cons item items ih =>
    intro remote created
    unfold createMissing
    split
    · exact ih _ _
    · refine only_bind (guarded_ends hfailed (ends_of_still (still_of_records (create_records ..)))) fun made => ?_
      exact only_bind (guarded_ends hfailed (ends_of_still (still_of_records (confirm_records ..)))) fun _ => ih _ _

lemma enable_ends (hfailed : ok .failed) (hon : ∀ status, publishes status → ok status)
    (requireHttpsObservation : Bool) :
    (enable d requireHttpsObservation).run.Only (Ends d ok) := by
  refine only_bind (guarded_ends hfailed (ends_of_still (still_of_records settleOwned_records))) fun settled => ?_
  refine only_bind ?_ fun original => ?_
  · unfold publish
    split
    · refine only_bind (guarded_ends hfailed (only_call trivial)) fun rules => ?_
      exact only_bind (guarded_ends hfailed (rewriteIngress_ends _ rules)) fun _ => trivial
    · trivial
  · refine only_bind (createMissing_ends hfailed ..) fun created => ?_
    refine guarded_ends hfailed (outcome_ends (hon _ ?_))
    cases requireHttpsObservation
    · rfl
    · rfl

/-! ### A run -/

/-- What a run knows of its access after it has read the deployment. -/
def Checked (d : Deployment) (ok : AccessStatus → Prop) (s : State) : Prop :=
  ∃ h, s.world.db.accesses.find? d.access.id = some h ∧ Later d.access h ∧
    (h.revision = d.access.revision → ∀ status, ok status → publishes status →
      h.enabled ∧ Topology s.world.db.base h)

lemma stable_checked (i : Slot) : Stable contract i (Checked d ok) := by
  rintro s t _ _ hgrows ⟨h, hfound, hlater, hgood⟩
  obtain ⟨h', hfound', hlater', htop⟩ := hgrows d.access.id h hfound
  refine ⟨h', hfound', hlater.trans hlater', fun heq status hok hpub => ?_⟩
  have hfirst : h.revision = d.access.revision :=
    Nat.le_antisymm (heq ▸ hlater'.revision) hlater.revision
  obtain ⟨hen, ht⟩ := hgood hfirst status hok hpub
  have hsame : h'.revision = h.revision := heq.trans hfirst.symm
  exact ⟨(hlater'.enabled hsame).trans hen, htop hsame hen ht⟩

lemma ends_triple {id : String} {n : Nat} {α : Type} {p : Handler α} (hid : d.access.id = id)
    (hp : p.run.Only (Ends d ok)) :
    Triple contract (.reconcile id n) (Checked d ok) p.run fun _ _ => True := by
  subst hid
  have hallowed (s : State) (c : Call) (hc : Ends d ok c) (hs : Checked d ok s) :
      allowed (.reconcile d.access.id n) s c := by
    cases c with
    | outcome id revision status lastError =>
      obtain ⟨rfl, rfl, hok⟩ := hc
      refine ⟨rfl, fun hpub h hrow => ?_⟩
      obtain ⟨h', hfound, -, hgood⟩ := hs
      obtain ⟨hfound', hrevision⟩ := atRevision_some.mp hrow
      obtain rfl := Option.some.inj (hfound.symm.trans hfound')
      exact hgood hrevision status hok hpub
    | createAccess values => exact hc
    | _ => trivial
  refine triple_conseq (triple_only hp (stable_checked _) (fun s c hc _ hs => hallowed s c hc hs)
    ?_) (fun _ _ h => h) fun _ _ _ _ => trivial
  rintro s c r t hc hi hs ⟨hexec, -⟩
  suffices h : Inv t ∧ Grows s.world.db t.world.db from
    ⟨h.1, fun _ _ => h.2, stable_checked (.tick 0) s t hi h.1 h.2 hs⟩
  cases c with
  | outcome id revision status lastError =>
    obtain ⟨rfl, hgood⟩ := hallowed s _ hc hs
    have hactive : status = .active → ∀ h, atRevision s.world.db d.access.id revision = some h →
        h.enabled → Topology s.world.db.base h := by
      rintro rfl h hrow _
      exact (hgood rfl h hrow).2
    refine outcome_step hi hactive ?_ hexec
    rw [hexec.notes]
    cases r with
    | error e => exact Or.inl rfl
    | ok saved =>
      cases saved with
      | none => exact Or.inl rfl
      | some saved =>
        obtain ⟨row, hrow, -⟩ := outcome_saved hexec
        by_cases hpub : publishes status
        · refine Or.inr ⟨?_, row, hrow, hgood hpub row hrow⟩
          change (if publishes status then _ else _) = _
          rw [if_pos hpub]
        · left
          change (if publishes status then _ else _) = _
          rw [if_neg hpub]
  | createAccess values => exact hc.elim
  | _ =>
    obtain ⟨haccesses, hbase, hnotes⟩ := frame_exec rfl hexec
    exact ⟨inv_frame hi haccesses hbase hnotes, grows_frame haccesses hbase⟩

lemma Checked.mono {ok' : AccessStatus → Prop} {s : State} (h : Checked d ok s)
    (hok : ∀ status, publishes status → ok' status → ok status) : Checked d ok' s := by
  obtain ⟨a, ha, hlater, hgood⟩ := h
  exact ⟨a, ha, hlater, fun heq status h' hpub => hgood heq status (hok status hpub h') hpub⟩

lemma frame_triple {i : Slot} {α : Type} {p : Prog Plane α} (hp : p.Only (isFrame ·)) :
    Triple contract i (fun _ => True) p fun _ _ => True := by
  refine triple_only hp stable_true (fun s c hc _ _ => ?_) ?_
  · cases i <;> cases c <;> trivial
  · rintro s c r t hc hi - ⟨hexec, -⟩
    obtain ⟨haccesses, hbase, hnotes⟩ := frame_exec hc hexec
    exact ⟨inv_frame hi haccesses hbase hnotes, fun _ _ => grows_frame haccesses hbase, trivial⟩

/-- What a deployment that has been read says. -/
def Started (id : String) : Option Deployment → State → Prop
  | none => fun _ => True
  | some d => fun s => d.access.id = id ∧
      Checked d (fun _ => d.access.enabled ∧ topologyValid d) s

variable {id : String} {n : Nat}

lemma deployment_triple :
    Triple contract (.reconcile id n) (fun _ => True) (call (.deployment id)).run
      (Exits (Started id) fun _ _ => True) := by
  have hstable (deployment : Option Deployment) :
      Stable contract (.reconcile id n) (Started id deployment) := by
    cases deployment with
    | none => exact stable_true
    | some d => exact (stable_const _).and (stable_checked _)
  refine triple_perform stable_true (fun r => ?_) (fun _ _ _ => trivial) ?_
  · cases r
    · exact stable_true
    · exact hstable _
  · rintro s r t hi - ⟨hexec, -⟩
    obtain ⟨haccesses, hbase, hnotes⟩ := frame_exec rfl hexec
    refine ⟨inv_frame hi haccesses hbase hnotes, fun _ _ => grows_frame haccesses hbase, ?_⟩
    cases r with
    | error e => trivial
    | ok deployment =>
      cases deployment with
      | none => trivial
      | some d =>
        have hread : getCloudflareDomainAccessDeployment s.world.db id = some d := by
          obtain ⟨ch, ⟨h, -⟩ | ⟨e, h, -⟩⟩ := hexec.world
          · exact (Except.ok.inj h).symm
          · cases h
        obtain ⟨hfound, -⟩ := DnsSafety.deployment_some hread
        have hid : d.access.id = id := Table.key_find? hfound
        refine ⟨hid, d.access, ?_, .refl _, fun _ status hok _ => ⟨hok.1, ?_⟩⟩
        · rw [haccesses, hid]
          exact hfound
        · rw [hbase]
          exact topology_of_valid hread hok.2

lemma reconcileLocked_triple (requireHttpsObservation : Bool) :
    Triple contract (.reconcile id n) (fun _ => True)
      (reconcileLocked id requireHttpsObservation).run fun _ _ => True := by
  refine triple_conseq (Q := Exits (fun _ _ => True) fun _ _ => True)
    (exits_bind lawful (fun _ => stable_true) deployment_triple fun deployment => ?_)
    (fun _ _ h => h) fun _ _ _ _ => trivial
  cases deployment with
  | none => exact exits_throw stable_true fun _ _ h => h
  | some d =>
    refine triple_pre fun hid => ?_
    have hpart {p : Handler AccessRow} {ok' : AccessStatus → Prop} (hp : p.run.Only (Ends d ok'))
        (hok : ∀ status, publishes status → ok' status → d.access.enabled ∧ topologyValid d) :
        Triple contract (.reconcile id n)
          (Checked d fun _ => d.access.enabled ∧ topologyValid d) p.run
          (Exits (fun _ _ => True) fun _ _ => True) :=
      triple_conseq (ends_triple hid hp) (fun _ _ h => h.mono hok) fun r _ _ _ => by
        cases r
        · trivial
        · trivial
    have hfailed (message : String) (e : Failure) : (do
        let _ ← outcome d .failed message
        throw e : Handler AccessRow).run.Only (Ends d (· = .failed)) :=
      only_bind (outcome_ends rfl) fun _ => trivial
    have hnever : ∀ status, publishes status → status = .failed →
        d.access.enabled ∧ topologyValid d := by
      rintro _ hpub rfl
      cases hpub
    dsimp only
    split_ifs with htopology htoken henabled
    · exact hpart (hfailed _ _) hnever
    · exact hpart (hfailed _ _) hnever
    · have hends : (enable d requireHttpsObservation).run.Only (Ends d fun _ => True) :=
        enable_ends trivial (fun _ _ => trivial) requireHttpsObservation
      refine hpart hends fun _ _ _ => ⟨henabled, ?_⟩
      simpa [henabled] using htopology
    · have hends : (disable d).run.Only (Ends d fun status => ¬publishes status) :=
        disable_ends (by decide) (by decide)
      exact hpart hends fun status hpub hno => absurd hpub hno

lemma finallyRelease_triple {i : Slot} {α : Type} {p : Handler α} (locks : List LockKey)
    (hp : Triple contract i (fun _ => True) p.run fun _ _ => True) :
    Triple contract i (fun _ => True) (finallyRelease locks p).run fun _ _ => True := by
  refine triple_bind lawful hp fun answer => triple_bind lawful (frame_triple ?_)
    fun _ => triple_pure stable_true fun _ _ _ => trivial
  induction locks with
  | nil => trivial
  | cons key rest ih => exact ⟨rfl, fun _ => ih⟩

lemma then_triple {i : Slot} {α β : Type} {p : Handler α} {f : α → Handler β}
    (hp : Triple contract i (fun _ => True) p.run fun _ _ => True)
    (hf : ∀ a, Triple contract i (fun _ => True) (f a).run fun _ _ => True) :
    Triple contract i (fun _ => True) (p >>= f).run fun _ _ => True := by
  refine triple_bind lawful hp fun r => ?_
  cases r with
  | ok a => exact hf a
  | error e => exact triple_pure stable_true fun _ _ _ => trivial

lemma reconcileDomainAccess_triple (requireHttpsObservation : Bool) :
    Triple contract (.reconcile id n) (fun _ => True)
      (reconcileDomainAccess id requireHttpsObservation).run fun _ _ => True := by
  refine finallyRelease_triple _ (then_triple (frame_triple (only_call rfl)) fun _ => ?_)
  refine then_triple (frame_triple (only_call rfl)) fun row => ?_
  cases row.bind tunnelKey with
  | none => exact reconcileLocked_triple _
  | some key =>
    exact finallyRelease_triple _ (then_triple (frame_triple (only_call rfl))
      fun _ => reconcileLocked_triple _)

end GatewayControl.ActiveAccesses
