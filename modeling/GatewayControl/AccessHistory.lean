import GatewayControl.ControlPlane

/-!
What becomes of a domain access. Only its switch, its revision and what the last
reconciliation left change, and the switch not without the revision.
-/

namespace GatewayControl.AccessHistory

open Database Placement Publishing Calls Cloudflare Reconcile ControlPlane

/-- The same access at a later time. -/
structure Later (h h' : AccessRow) : Prop where
  same : { h' with
    enabled := h.enabled, revision := h.revision, status := h.status,
    dnsRecordId := h.dnsRecordId, lastError := h.lastError } = h
  revision : h.revision ≤ h'.revision
  enabled : h'.revision = h.revision → h'.enabled = h.enabled

lemma Later.refl (h : AccessRow) : Later h h := ⟨rfl, Nat.le_refl _, fun _ => rfl⟩

lemma Later.trans {h h' h'' : AccessRow} (l : Later h h') (l' : Later h' h'') : Later h h'' := by
  refine ⟨?_, Nat.le_trans l.revision l'.revision, fun heq => ?_⟩
  · have hsame := congrArg (fun k : AccessRow => { k with
      enabled := h.enabled, revision := h.revision, status := h.status,
      dnsRecordId := h.dnsRecordId, lastError := h.lastError }) l'.same
    exact hsame.trans l.same
  · have hfirst : h'.revision = h.revision :=
      Nat.le_antisymm (heq ▸ l'.revision) l.revision
    rw [l'.enabled (by rw [heq, hfirst]), l.enabled hfirst]

/-- What does not depend on the fields that change is the same later. -/
lemma Later.congr {α : Type} {h h' : AccessRow} (l : Later h h') (f : AccessRow → α)
    (hf : f { h' with
      enabled := h.enabled, revision := h.revision, status := h.status,
      dnsRecordId := h.dnsRecordId, lastError := h.lastError } = f h') : f h' = f h := by
  rw [← hf, l.same]

section Later

variable {h h' : AccessRow} (l : Later h h')
include l

lemma Later.id_eq : h'.id = h.id := l.congr AccessRow.id rfl

lemma Later.hostname_eq : h'.hostname = h.hostname := l.congr AccessRow.hostname rfl

lemma Later.method_eq : h'.accessMethod = h.accessMethod := l.congr AccessRow.accessMethod rfl

lemma Later.desired_eq : desired h' = desired h := l.congr desired rfl

lemma Later.expected_eq : expected h' = expected h := l.congr expected rfl

lemma Later.isOwn_eq : isOwn h' = isOwn h := l.congr isOwn rfl

lemma Later.tunnelKey_eq : tunnelKey h' = tunnelKey h := l.congr tunnelKey rfl

end Later

lemma later_endRow (status : AccessStatus) (lastError : Option String)
    (dnsRecordId : Option Nat) (h : AccessRow) :
    Later h (endRow status lastError dnsRecordId h) :=
  ⟨rfl, Nat.le_refl _, fun _ => rfl⟩

lemma later_pendingRow (enabled : Option Bool) (h : AccessRow) :
    Later h (pendingRow enabled h) :=
  ⟨rfl, Nat.le_succ _, fun heq => absurd heq (Nat.succ_ne_self _)⟩

/-! ### All accesses at once -/

/-- Every access is still there, and none is new. -/
structure Evolves (db db' : PublishDb) : Prop where
  forth : ∀ id h, db.accesses.find? id = some h →
    ∃ h', db'.accesses.find? id = some h' ∧ Later h h'
  back : ∀ id h', db'.accesses.find? id = some h' →
    ∃ h, db.accesses.find? id = some h ∧ Later h h'

lemma evolves_same {db db' : PublishDb} (h : db'.accesses = db.accesses) : Evolves db db' where
  forth := fun _ a ha => ⟨a, h ▸ ha, .refl a⟩
  back := fun _ a ha => ⟨a, h ▸ ha, .refl a⟩

lemma find?_updateAccess (db : PublishDb) (id : String) (f : AccessRow → AccessRow)
    (hf : ∀ r, (f r).id = r.id) (k : String) :
    (updateAccess db id f hf).accesses.find? k =
      (db.accesses.find? k).map fun r => if r.id = id then f r else r := by
  unfold updateAccess
  simpa using db.accesses.find?_update (fun r => r.id = id) f hf k

lemma evolves_update {db : PublishDb} {id : String} {f : AccessRow → AccessRow}
    {hf : ∀ r, (f r).id = r.id} (h : ∀ r, Later r (f r)) :
    Evolves db (updateAccess db id f hf) := by
  have hfind := find?_updateAccess db id f hf
  have hlater (r : AccessRow) : Later r (if r.id = id then f r else r) := by
    by_cases hr : r.id = id
    · simpa [hr] using h r
    · simpa [hr] using Later.refl r
  refine ⟨fun k r hr => ⟨_, by rw [hfind, hr, Option.map_some], hlater r⟩, fun k r' hr' => ?_⟩
  rw [hfind] at hr'
  obtain ⟨r, hr, rfl⟩ := Option.map_eq_some_iff.mp hr'
  exact ⟨r, hr, hlater r⟩

lemma markDomainAccessOutcome_none {db db' : PublishDb} {id : String} {revision : Nat}
    {status : AccessStatus} {lastError : Option String}
    (h : markDomainAccessOutcome db id revision status lastError = some (db', none)) :
    db' = db ∧ atRevision db id revision = none := by
  unfold markDomainAccessOutcome at h
  split at h
  · rename_i hrow
    cases h
    exact ⟨rfl, hrow⟩
  · split at h
    · cases h
    · cases h

lemma markDomainAccessOutcome_some {db db' : PublishDb} {id : String} {revision : Nat}
    {status : AccessStatus} {lastError : Option String} {saved : AccessRow}
    (h : markDomainAccessOutcome db id revision status lastError = some (db', some saved)) :
    ∃ row, atRevision db id revision = some row ∧ coherent row.enabled status ∧
      db' = updateAccess db id (endRow status lastError (activeCname db id)) (fun _ => rfl) ∧
      saved = endRow status lastError (activeCname db id) row := by
  unfold markDomainAccessOutcome at h
  split at h
  · cases h
  · rename_i row hrow
    split at h
    · cases h
    · rename_i hcoherent
      cases h
      exact ⟨row, hrow, by simpa using hcoherent, rfl, rfl⟩

/-- **Inversion.** What it means that a status has been recorded. -/
lemma outcome_saved {i : Slot} {s t : State} {id : String} {revision : Nat}
    {status : AccessStatus} {lastError : Option String} {saved : AccessRow}
    (h : Exec i s (.outcome id revision status lastError) (.ok (some saved)) t) :
    ∃ row, atRevision s.world.db id revision = some row ∧ coherent row.enabled status ∧
      saved = endRow status lastError (activeCname s.world.db id) row ∧
      (∃ hf, t.world.db = updateAccess s.world.db id
        (endRow status lastError (activeCname s.world.db id)) hf) ∧
      t.world.cloud = s.world.cloud ∧ t.world.holder = s.world.holder := by
  obtain ⟨ch, ⟨hr, hw⟩ | ⟨e, hr, -⟩⟩ := h.world
  · change Except.ok (some saved) =
      (s.world.store (markDomainAccessOutcome s.world.db id revision status lastError)).1 at hr
    change t.world =
      (s.world.store (markDomainAccessOutcome s.world.db id revision status lastError)).2 at hw
    cases hmark : markDomainAccessOutcome s.world.db id revision status lastError with
    | none =>
      rw [hmark] at hr
      cases hr
    | some answer =>
      obtain ⟨db', ans⟩ := answer
      rw [hmark] at hr hw
      obtain rfl : some saved = ans := Except.ok.inj hr
      obtain ⟨row, hrow, hcoherent, rfl, rfl⟩ := markDomainAccessOutcome_some hmark
      rw [hw]
      exact ⟨row, hrow, hcoherent, rfl, ⟨_, rfl⟩, rfl, rfl⟩
  · cases hr

lemma atRevision_some {db : PublishDb} {id : String} {revision : Nat} {h : AccessRow} :
    atRevision db id revision = some h ↔
      db.accesses.find? id = some h ∧ h.revision = revision := by
  simp [atRevision, Option.filter_eq_some_iff]

/-! ### A new access -/

/-- A row as it is created: it is of a route that has no access yet, nor has its host name. -/
structure New (db : PublishDb) (newId : String) (values : AccessValues) (row : AccessRow) :
    Prop where
  id : row.id = newId
  status : row.status = .pending
  route : ∃ r ∈ db.base.managedRoutes.rows, row.hostname = r.hostname
  free : ∀ h ∈ db.accesses.rows, lower h.hostname ≠ lower row.hostname
  ipv4 : row.publicIpv4 = values.publicIpv4
  ipv6 : row.publicIpv6 = values.publicIpv6
  tunnel : row.accessMethod = .tunnel → row.deployedTunnelId.isSome

lemma tunnelId_of_methodFits {method : AccessMethod} {a : AccountRow} {r : RouteRow}
    {c : Option ConnectorRow} (h : methodFits method a r c) (htunnel : method = .tunnel) :
    (c.bind (·.tunnelId)).isSome := by
  subst htunnel
  have hany : c.any (connectorFits · a r) := (Bool.and_eq_true_iff.mp h).2
  cases c with
  | none => cases hany
  | some c =>
    simp only [Option.any_some, connectorFits, Bool.and_eq_true] at hany
    exact hany.1.1.1.1.1.2

lemma createPendingDomainAccess_cases (db : PublishDb) (newId : String) (values : AccessValues) :
    (createPendingDomainAccess db newId values).1 = db ∨
      ∃ row accesses, db.accesses.insert? row = some accesses ∧ New db newId values row ∧
        (createPendingDomainAccess db newId values).1 = { db with accesses } := by
  unfold createPendingDomainAccess
  dsimp only
  split
  · rename_i db' row hcreated
    right
    obtain ⟨z, -, hcreated⟩ := Option.bind_eq_some_iff.mp hcreated
    obtain ⟨a, -, hcreated⟩ := Option.bind_eq_some_iff.mp hcreated
    obtain ⟨r, hr, hcreated⟩ := Option.bind_eq_some_iff.mp hcreated
    split at hcreated
    · rename_i hfits
      obtain ⟨accesses, hinsert, hcreated⟩ := Option.bind_eq_some_iff.mp hcreated
      obtain ⟨rfl, rfl⟩ := Prod.mk.inj (Option.some.inj hcreated)
      simp only [Bool.and_eq_true, Bool.not_eq_true', accessTaken, List.any_eq_false] at hfits
      obtain ⟨⟨⟨-, hmethod⟩, -⟩, hfree⟩ := hfits
      refine ⟨_, accesses, hinsert, ⟨rfl, rfl, ⟨r, Table.mem_of_find? hr, rfl⟩, fun h hh heq => ?_,
        rfl, rfl, tunnelId_of_methodFits hmethod⟩, rfl⟩
      exact hfree h hh (by simp [heq])
    · cases hcreated
  · exact Or.inl rfl

end GatewayControl.AccessHistory
