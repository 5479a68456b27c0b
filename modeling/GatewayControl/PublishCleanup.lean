import GatewayControl.DnsSafety
import GatewayControl.FailedPublish

/-!
The `try` block of an attempt to publish: what it may have made at each call, so that the
`catch` block can take it back.
-/

namespace GatewayControl.PublishCleanup

open Database Publishing Ingress Cloudflare Calls Reconcile Programs
open ControlPlane DnsOwnership DnsRuns FailedPublish

variable {i : Slot} {b : PlaneWorld} {d : Deployment}

/-! ### While records are made -/

def numbersOf (made : List (Wanted × ℕ)) : List ℕ := made.map (·.2)

/-- Each record of the access is one of before, or one of those made so far. -/
structure Creating (b : PlaneWorld) (d : Deployment) (made : List (Wanted × ℕ))
    (original : Option (List Rule)) (s : AttemptState) : Prop where
  before : s.before = some b
  next : b.cloud.nextRecord ≤ s.world.cloud.nextRecord
  kept : ∀ r ∈ marked b.cloud.records d.access.id, Made d.access r → r ∈ s.world.cloud.records
  given : ∀ r ∈ marked b.cloud.records d.access.id, r.id < b.cloud.nextRecord
  fresh : ∀ k ∈ numbersOf made, b.cloud.nextRecord ≤ k ∧ k < s.world.cloud.nextRecord
  old : ∀ r ∈ marked s.world.cloud.records d.access.id, r.id < b.cloud.nextRecord →
    r ∈ b.cloud.records
  new : ∀ r ∈ marked s.world.cloud.records d.access.id, b.cloud.nextRecord ≤ r.id →
    r.zone = d.access.deployedZoneIdentifier ∧
      ∃ item, (item, r.id) ∈ made ∧ sameTarget item r.type r.content
  tracked : ∀ row ∈ ownedDnsRecords s.world.db d.access.id, b.cloud.nextRecord ≤ row.recordId →
    row.recordId ∈ numbersOf made
  restorable : Restorable b d original s

variable {made : List (Wanted × ℕ)} {original : Option (List Rule)} {s t : AttemptState}

lemma mem_numbersOf {item : Wanted} {k : ℕ} (h : (item, k) ∈ made) : k ∈ numbersOf made :=
  List.mem_map.mpr ⟨(item, k), h, rfl⟩

lemma Creating.attempt (h : Creating b d made original s) :
    Attempt b d (numbersOf made) original s where
  before := h.before
  kept := h.kept
  given := h.given
  fresh := fun k hk => (h.fresh k hk).1
  left := fun r hr hnew => by
    obtain ⟨hzone, item, hitem, -⟩ := h.new r hr hnew
    exact ⟨hzone, Or.inl (mem_numbersOf hitem)⟩
  restorable := h.restorable

/-- An attempt that has made nothing yet has nothing to take back. -/
lemma Creating.done (h : Creating b d [] none s) : Done b d s := h.attempt.done

lemma creating_start (hs : Numbered b.cloud) (ho : Orderly b d) (hworld : s.world = b)
    (hbefore : s.before = some b) (hwritten : s.written = none) : Creating b d [] none s where
  before := hbefore
  next := by rw [hworld]
  kept := fun r hr _ => by
    rw [hworld]
    exact (mem_marked.mp hr).1
  given := fun r hr => hs.given r (mem_marked.mp hr).1
  fresh := fun k hk => absurd hk List.not_mem_nil
  old := fun r hr _ => by
    rw [hworld] at hr
    exact (mem_marked.mp hr).1
  new := fun r hr hnew => by
    rw [hworld] at hr
    exact absurd (hs.given r (mem_marked.mp hr).1) (Nat.not_lt.mpr hnew)
  tracked := fun row hrow hnew => by
    rw [hworld] at hrow
    exact absurd (ho.given row hrow) (Nat.not_lt.mpr hnew)
  restorable := ⟨hwritten, fun _ _ => by rw [hworld]⟩

/-- While only rows change, and none gets a number of its own. -/
lemma Creating.of_rows (h : Creating b d made original s) (hbefore : t.before = s.before)
    (hwritten : t.written = s.written) (hcloud : t.world.cloud = s.world.cloud)
    (htracked : ∀ row ∈ ownedDnsRecords t.world.db d.access.id,
      b.cloud.nextRecord ≤ row.recordId → row.recordId ∈ numbersOf made) :
    Creating b d made original t where
  before := hbefore.trans h.before
  next := by rw [hcloud]; exact h.next
  kept := by rw [hcloud]; exact h.kept
  given := h.given
  fresh := by rw [hcloud]; exact h.fresh
  old := by rw [hcloud]; exact h.old
  new := by rw [hcloud]; exact h.new
  tracked := htracked
  restorable := restorable_of_same hwritten (fun _ _ => by rw [hcloud]) h.restorable

/-- **Step lemma.** Deleting a record that is not a wanted one of before. -/
lemma Creating.drop (h : Creating b d made original s) {zone : String} {k : ℕ}
    (hk : ∀ r ∈ marked b.cloud.records d.access.id, Made d.access r → r.id ≠ k)
    (hbefore : t.before = s.before) (hwritten : t.written = s.written)
    (hdb : t.world.db = s.world.db)
    (hcloud : t.world.cloud = { s.world.cloud with
      records := dropped zone k s.world.cloud.records }) : Creating b d made original t := by
  have hsub {r : RemoteRecord} (hr : r ∈ marked t.world.cloud.records d.access.id) :
      r ∈ marked s.world.cloud.records d.access.id := by
    rw [hcloud] at hr
    obtain ⟨hr, hmark⟩ := mem_marked.mp hr
    exact mem_marked.mpr ⟨(mem_dropped.mp hr).1, hmark⟩
  refine ⟨hbefore.trans h.before, ?_, fun r hr hmade => ?_, h.given, ?_,
    fun r hr => h.old r (hsub hr), fun r hr => h.new r (hsub hr), ?_,
    restorable_of_same hwritten (fun _ _ => by rw [hcloud]) h.restorable⟩
  · rw [hcloud]
    exact h.next
  · rw [hcloud]
    exact mem_dropped.mpr ⟨h.kept r hr hmade, fun heq => hk r hr hmade heq.2⟩
  · rw [hcloud]
    exact h.fresh
  · rw [hdb]
    exact h.tracked

section Stability

variable (hd : getCloudflareDomainAccessDeployment b.db d.access.id = some d)
include hd

lemma stable_creating : Stable (contract i d.access.id) () (Creating b d made original) := by
  intro s t _ _ hr h
  have hm := hr.world b h.before
  refine ⟨hr.before.trans h.before, h.next.trans hm.next, kept_of_marks hm.marks h.kept, h.given,
    fun k hk => ⟨(h.fresh k hk).1, (h.fresh k hk).2.trans_le hm.next⟩, ?_, ?_, ?_,
    restorable_of_same hr.written (fun tunnelId ht => hm.config d tunnelId hd ht) h.restorable⟩
  · rw [hm.marks]
    exact h.old
  · rw [hm.marks]
    exact h.new
  · rw [hm.rows]
    exact h.tracked

end Stability

/-! ### Tracking and untracking -/

/-- **Inversion.** A change of status changes at most the row of that number. -/
lemma mark_rows {id : String} {revision k : ℕ} {status : DnsRowStatus}
    {lastError : Option String} {answer : Except Failure Bool}
    (h : Exec i s (.markRecord id revision k status lastError) answer t) :
    t.before = s.before ∧ t.written = s.written ∧ t.world.cloud = s.world.cloud ∧
      keys (ownedDnsRecords t.world.db id) = keys (ownedDnsRecords s.world.db id) := by
  obtain ⟨db', saved, hafter⟩ : ∃ db' saved,
      markDomainAccessDnsRecordStatus s.world.db id revision k status lastError = (db', saved) :=
    ⟨_, _, rfl⟩
  have hkeys : keys (ownedDnsRecords db' id) = keys (ownedDnsRecords s.world.db id) := by
    rcases markDomainAccessDnsRecordStatus_cases hafter with ⟨-, rfl⟩ | ⟨-, hrows, -⟩
    · rfl
    · rw [hrows, keys_mapRow (f := markRow status lastError) fun _ => rfl]
  have hrun : keys (ownedDnsRecords (markDomainAccessDnsRecordStatus s.world.db id revision k
      status lastError).1 id) = keys (ownedDnsRecords s.world.db id) := by
    rw [hafter]
    exact hkeys
  refine ⟨h.before, h.written, ?_⟩
  obtain ⟨ch, ⟨-, heq⟩ | ⟨e, -, -, heq | heq⟩⟩ := h.cases
  · rw [heq]
    exact ⟨rfl, hrun⟩
  · rw [heq]
    exact ⟨rfl, rfl⟩
  · rw [heq]
    exact ⟨rfl, hrun⟩

lemma tracked_of_keys {db : PublishDb} (h : Creating b d made original s)
    (hkeys : ∀ k ∈ keys (ownedDnsRecords db d.access.id),
      k ∈ keys (ownedDnsRecords s.world.db d.access.id) ∨ k < b.cloud.nextRecord ∨
        k ∈ numbersOf made) :
    ∀ row ∈ ownedDnsRecords db d.access.id, b.cloud.nextRecord ≤ row.recordId →
      row.recordId ∈ numbersOf made := by
  intro row hrow hnew
  rcases hkeys row.recordId (List.mem_map_of_mem hrow) with hold | hlt | hmade
  · obtain ⟨old, hmem, hid⟩ := List.mem_map.mp hold
    rw [← hid] at hnew ⊢
    exact h.tracked old hmem hnew
  · omega
  · exact hmade

/-- **Inversion.** Tracking a record adds at most its number to those of the rows. -/
lemma save_rows {id : String} {revision : ℕ} {record : TrackedRecord}
    {answer : Except Failure Bool} (h : Exec i s (.saveRecord id revision record) answer t) :
    t.before = s.before ∧ t.written = s.written ∧ t.world.cloud = s.world.cloud ∧
      ∀ k ∈ keys (ownedDnsRecords t.world.db id),
        k ∈ keys (ownedDnsRecords s.world.db id) ∨ k = record.recordId := by
  have hrun : (s.world.store (saveDomainAccessDnsRecord s.world.db id revision record)).2.cloud =
      s.world.cloud ∧ ∀ k ∈ keys (ownedDnsRecords
        (s.world.store (saveDomainAccessDnsRecord s.world.db id revision record)).2.db id),
        k ∈ keys (ownedDnsRecords s.world.db id) ∨ k = record.recordId := by
    refine ⟨store_cloud _ _, fun k hk => ?_⟩
    cases hsave : saveDomainAccessDnsRecord s.world.db id revision record with
    | none =>
      rw [hsave] at hk
      exact Or.inl hk
    | some answer =>
      obtain ⟨db', saved⟩ := answer
      rw [hsave] at hk
      change k ∈ keys (ownedDnsRecords db' id) at hk
      rcases saveDomainAccessDnsRecord_some hsave with ⟨-, rfl⟩ | ⟨-, -, hrows, -⟩
      · exact Or.inl hk
      · rw [hrows] at hk
        exact DnsReconcile.keys_trackedRows.mp hk
  refine ⟨h.before, h.written, ?_⟩
  obtain ⟨ch, ⟨-, heq⟩ | ⟨e, -, -, heq | heq⟩⟩ := h.cases
  · rw [heq]
    exact hrun
  · rw [heq]
    exact ⟨rfl, fun k hk => Or.inl hk⟩
  · rw [heq]
    exact hrun

section

variable (hd : getCloudflareDomainAccessDeployment b.db d.access.id = some d)
include hd

lemma keeping_mark {revision k : ℕ} {status : DnsRowStatus} {lastError : Option String} :
    Keeping (contract i d.access.id) () (Creating b d made original)
      (call (.markRecord d.access.id revision k status lastError)) := by
  refine exits_call rfl (stable_creating hd) (fun _ => stable_creating hd)
    (fun _ => stable_creating hd) fun s answer t _ h _ hexec => ?_
  obtain ⟨hbefore, hwritten, hcloud, hkeys⟩ := mark_rows hexec
  have hafter : Creating b d made original t :=
    h.of_rows hbefore hwritten hcloud (tracked_of_keys h fun k' hk' => Or.inl (hkeys ▸ hk'))
  cases answer with
  | ok _ => exact hafter
  | error _ => exact hafter

/-- A record may be tracked when it is one of before, or one of those made. -/
lemma keeping_save {revision : ℕ} {record : TrackedRecord}
    (hk : record.recordId < b.cloud.nextRecord ∨ record.recordId ∈ numbersOf made) :
    Keeping (contract i d.access.id) () (Creating b d made original)
      (call (.saveRecord d.access.id revision record)) := by
  refine exits_call rfl (stable_creating hd) (fun _ => stable_creating hd)
    (fun _ => stable_creating hd) fun s answer t _ h _ hexec => ?_
  obtain ⟨hbefore, hwritten, hcloud, hkeys⟩ := save_rows hexec
  have hafter : Creating b d made original t := by
    refine h.of_rows hbefore hwritten hcloud (tracked_of_keys h fun k' hk' => ?_)
    rcases hkeys k' hk' with hold | rfl
    · exact Or.inl hold
    · exact Or.inr hk
  cases answer with
  | ok _ => exact hafter
  | error _ => exact hafter

lemma keeping_delete {k : ℕ}
    (hk : ∀ r ∈ marked b.cloud.records d.access.id, Made d.access r → r.id ≠ k) :
    Keeping (contract i d.access.id) () (Creating b d made original)
      (call (.deleteRecord d.access.deployedZoneIdentifier k)) := by
  refine exits_call rfl (stable_creating hd) (fun _ => stable_creating hd)
    (fun _ => stable_creating hd) fun s answer t _ h _ hexec => ?_
  have hafter : Creating b d made original t := by
    obtain ⟨hbefore, hwritten, hdb, hcloud | ⟨hcloud, -⟩⟩ := delete_cases hexec
    · exact h.drop hk hbefore hwritten hdb hcloud
    · refine h.of_rows hbefore hwritten hcloud ?_
      rw [hdb]
      exact h.tracked
  cases answer with
  | ok _ => exact hafter
  | error _ => exact hafter

lemma keeping_orSuperseded {c : Handler Bool}
    (hc : Keeping (contract i d.access.id) () (Creating b d made original) c) :
    Keeping (contract i d.access.id) () (Creating b d made original) (orSuperseded c) := by
  refine keeping_bind lawful (stable_creating hd) hc fun saved => ?_
  split
  · exact keeping_pure (stable_creating hd)
  · exact keeping_throw (stable_creating hd)

lemma keeping_track {item : Wanted} {k : ℕ}
    (hk : k < b.cloud.nextRecord ∨ k ∈ numbersOf made) :
    Keeping (contract i d.access.id) () (Creating b d made original) (track d item k) :=
  keeping_orSuperseded hd (keeping_save hd hk)

lemma keeping_deleteOwnedRecord {k : ℕ}
    (hk : ∀ r ∈ marked b.cloud.records d.access.id, Made d.access r → r.id ≠ k) :
    Keeping (contract i d.access.id) () (Creating b d made original) (deleteOwnedRecord d k) := by
  have hs : Stable (contract i d.access.id) () (Creating b d made original) :=
    stable_creating hd
  have hmark : Keeping (contract i d.access.id) () (Creating b d made original)
      (markDeleted d k) := keeping_orSuperseded hd (keeping_mark hd)
  refine exits_catch lawful (fun _ => hs) (X := fun _ => Creating b d made original)
    (keeping_bind lawful hs (keeping_delete hd hk) fun _ => hmark) fun error => ?_
  split
  · exact hmark
  · exact keeping_bind lawful hs (keeping_mark hd) fun _ => keeping_throw hs

end

/-! ### The records that stay -/

/-- What a listing of the host name tells before anything is made. -/
structure Listing (b : PlaneWorld) (d : Deployment) (remote : List RemoteRecord) : Prop where
  kept : ∀ r ∈ marked b.cloud.records d.access.id, Made d.access r → r ∈ remote
  distinct : (remote.map (·.id)).Nodup
  own : ∀ r ∈ remote, r.comment = some (ownershipMarker d.access.id) →
    r.id < b.cloud.nextRecord

/-- The tracked rows say what the wanted records are. -/
def Agrees (b : PlaneWorld) (d : Deployment) (rows : List DnsRow) : Prop :=
  ∀ record ∈ rows, ∀ r ∈ marked b.cloud.records d.access.id, Made d.access r →
    r.id = record.recordId → record.type = r.type ∧ lower record.content = lower r.content

/-- Every wanted record of before is listed and tracked. -/
def Covered (b : PlaneWorld) (d : Deployment) (remote : List RemoteRecord)
    (kept : List DnsRow) : Prop :=
  ∀ r ∈ marked b.cloud.records d.access.id, Made d.access r → r ∈ remote ∧
    ∃ record ∈ kept, record.recordId = r.id ∧ record.type = r.type ∧
      lower record.content = lower r.content

lemma own_of_made {r : RemoteRecord} (hr : r ∈ marked b.cloud.records d.access.id)
    (hmade : Made d.access r) : isOwn d.access r :=
  isOwn_iff.mpr ⟨hmade.proxied, (mem_marked.mp hr).2⟩

lemma mem_listing {cloud : Cloud} {r : RemoteRecord} :
    r ∈ listDnsRecordsExact cloud d.access.deployedZoneIdentifier d.access.hostname ↔
      r ∈ cloud.records ∧ r.zone = d.access.deployedZoneIdentifier ∧
        lower r.name = lower d.access.hostname :=
  mem_placeOf

lemma listing_of_creating (hi : Numbered s.world.cloud) (h : Creating b d [] original s) :
    Listing b d (listDnsRecordsExact s.world.cloud d.access.deployedZoneIdentifier
      d.access.hostname) where
  kept := fun r hr hmade => mem_listing.mpr ⟨h.kept r hr hmade, hmade.zone, hmade.name⟩
  distinct := hi.distinct.sublist (List.filter_sublist.map _)
  own := fun r hr hmark => by
    by_contra hnew
    obtain ⟨-, item, hitem, -⟩ :=
      h.new r (mem_marked.mpr ⟨(mem_listing.mp hr).1, hmark⟩) (Nat.not_lt.mp hnew)
    cases hitem

variable {remote : List RemoteRecord}

/-- A tracked row of a wanted record stays. -/
lemma Listing.row_stays (hl : Listing b d remote) {rows : List DnsRow} (ha : Agrees b d rows)
    {record : DnsRow} (hrecord : record ∈ rows) {r : RemoteRecord}
    (hr : r ∈ marked b.cloud.records d.access.id) (hmade : Made d.access r)
    (hid : r.id = record.recordId) : stays d remote record := by
  obtain ⟨htype, hcontent⟩ := ha record hrecord r hr hmade hid
  obtain ⟨item, hitem, hsame⟩ := expected_isSome.mp hmade.wanted
  obtain ⟨hitemType, hitemContent⟩ := sameTarget_iff.mp hsame
  have hexpected : (expected d.access record.type record.content).isSome :=
    expected_isSome.mpr ⟨item, hitem, sameTarget_iff.mpr
      ⟨hitemType.trans htype.symm, hitemContent.trans hcontent.symm⟩⟩
  have hlisted := hl.kept r hr hmade
  have hfound : (remote.find? (·.id = record.recordId)).isSome :=
    List.find?_isSome.mpr ⟨r, hlisted, decide_eq_true hid⟩
  obtain ⟨actual, hactual⟩ := Option.isSome_iff_exists.mp hfound
  have hactualId : actual.id = record.recordId := by simpa using List.find?_some hactual
  obtain rfl := List.inj_on_of_nodup_map hl.distinct (List.mem_of_find?_eq_some hactual) hlisted
    (hactualId.trans hid.symm)
  unfold stays
  rw [hactual, Option.any_some, hexpected, own_of_made hr hmade, hcontent]
  simp

/-- **Adoption.** The list gets a row for each record of the access it lacks. -/
lemma adopt_ends (hl : Listing b d remote) (rest : List RemoteRecord) : ∀ owned : List DnsRow,
    (∀ r ∈ rest, r ∈ remote) → Agrees b d owned →
      (adopt d rest owned).run.Ends fun result => ∀ owned', result = .ok owned' →
        Agrees b d owned' ∧ (∀ k ∈ keys owned, k ∈ keys owned') ∧
          ∀ r ∈ rest, (expected d.access r.type r.content).isSome → isOwn d.access r →
            r.id ∈ keys owned' := by
  induction rest with
  | nil =>
    intro owned _ ha owned' heq
    obtain rfl := Except.ok.inj heq
    exact ⟨ha, fun k hk => hk, fun r hr => absurd hr List.not_mem_nil⟩
  | cons record rest ih =>
    intro owned hsub ha
    have hrest : ∀ r ∈ rest, r ∈ remote := fun r hr => hsub r (List.mem_cons_of_mem _ hr)
    unfold adopt
    split
    · next item hitem =>
      split
      · refine ends_after (fun e owned' heq => by cases heq) fun _ => ?_
        have hagrees : Agrees b d (owned ++
            [{ accessId := d.access.id, type := item.1, content := item.2,
               recordId := record.id, ownershipMarker := ownershipMarker d.access.id }]) := by
          intro row hrow r hr hmade hid
          rcases List.mem_append.mp hrow with hrow | hrow
          · exact ha row hrow r hr hmade hid
          · obtain rfl := List.mem_singleton.mp hrow
            obtain rfl := List.inj_on_of_nodup_map hl.distinct (hl.kept r hr hmade)
              (hsub record List.mem_cons_self) hid
            have hsame : sameTarget item r.type r.content := by
              simpa using List.find?_some hitem
            exact sameTarget_iff.mp hsame
        refine (ih _ hrest hagrees).mono fun result h owned' heq => ?_
        obtain ⟨hagree, hkeys, hall⟩ := h owned' heq
        refine ⟨hagree, fun k hk => hkeys k ?_, fun r hr hexpected hown => ?_⟩
        · rw [keys, List.map_append]
          exact List.mem_append_left _ hk
        · rcases List.mem_cons.mp hr with rfl | hr
          · refine hkeys _ ?_
            rw [keys, List.map_append]
            exact List.mem_append_right _ (List.mem_singleton.mpr rfl)
          · exact hall r hr hexpected hown
      · next hskip =>
        refine (ih _ hrest ha).mono fun result h owned' heq => ?_
        obtain ⟨hagree, hkeys, hall⟩ := h owned' heq
        refine ⟨hagree, hkeys, fun r hr hexpected hown => ?_⟩
        rcases List.mem_cons.mp hr with rfl | hr
        · have htracked : owned.any (·.recordId = r.id) := by
            by_contra hnot
            exact hskip (by simp [hnot, hown])
          obtain ⟨row, hrow, hid⟩ := List.any_eq_true.mp htracked
          exact hkeys _ (List.mem_map.mpr ⟨row, hrow, of_decide_eq_true hid⟩)
        · exact hall r hr hexpected hown
    · next hnone =>
      refine (ih _ hrest ha).mono fun result h owned' heq => ?_
      obtain ⟨hagree, hkeys, hall⟩ := h owned' heq
      refine ⟨hagree, hkeys, fun r hr hexpected hown => ?_⟩
      rcases List.mem_cons.mp hr with rfl | hr
      · rw [hnone] at hexpected
        cases hexpected
      · exact hall r hr hexpected hown

lemma prune_ends (rows : List DnsRow) : (prune d remote rows).run.Ends fun result =>
    ∀ kept, result = .ok kept → kept = rows.filter (stays d remote) := by
  induction rows with
  | nil =>
    intro kept heq
    exact (Except.ok.inj heq).symm
  | cons record rest ih =>
    unfold prune
    split
    · next hstays =>
      refine Prog.Ends.bind ih fun result hresult => ?_
      cases result with
      | error e =>
        intro kept heq
        cases heq
      | ok kept' =>
        intro kept heq
        rw [← Except.ok.inj heq, hresult kept' rfl, List.filter_cons_of_pos hstays]
    · next hstays =>
      refine ends_after (fun e kept heq => by cases heq) fun _ =>
        ih.mono fun result h kept heq => ?_
      rw [h kept heq, List.filter_cons_of_neg hstays]

/-- After adoption and pruning every wanted record of before is tracked. -/
lemma Listing.covered (hl : Listing b d remote) {owned : List DnsRow} (ha : Agrees b d owned)
    (hall : ∀ r ∈ remote, (expected d.access r.type r.content).isSome → isOwn d.access r →
      r.id ∈ keys owned) : Covered b d remote (owned.filter (stays d remote)) := by
  intro r hr hmade
  have hlisted := hl.kept r hr hmade
  obtain ⟨record, hrecord, hid⟩ :=
    List.mem_map.mp (hall r hlisted hmade.wanted (own_of_made hr hmade))
  have hstays := hl.row_stays ha hrecord hr hmade hid.symm
  obtain ⟨htype, hcontent⟩ := ha record hrecord r hr hmade hid.symm
  exact ⟨hlisted, record, List.mem_filter.mpr ⟨hrecord, hstays⟩, hid, htype, hcontent⟩

/-- A wanted record of before makes its item present. -/
lemma Covered.present {kept : List DnsRow} (hc : Covered b d remote kept) {r : RemoteRecord}
    (hr : r ∈ marked b.cloud.records d.access.id) (hmade : Made d.access r) {item : Wanted}
    (hsame : sameTarget item r.type r.content) : isPresent d remote kept item := by
  obtain ⟨hlisted, record, hrecord, hid, htype, hcontent⟩ := hc r hr hmade
  obtain ⟨hitemType, hitemContent⟩ := sameTarget_iff.mp hsame
  refine List.any_eq_true.mpr ⟨record, hrecord, Bool.and_eq_true_iff.mpr ⟨?_, ?_⟩⟩
  · exact sameTarget_iff.mpr ⟨hitemType.trans htype.symm, hitemContent.trans hcontent.symm⟩
  · exact List.any_eq_true.mpr ⟨r, hlisted, by simp [hid, own_of_made hr hmade]⟩

section

variable (hd : getCloudflareDomainAccessDeployment b.db d.access.id = some d)
include hd

lemma adopt_triple (hl : Listing b d remote) (rest : List RemoteRecord) :
    ∀ owned : List DnsRow, (∀ r ∈ rest, r ∈ remote) →
      Keeping (contract i d.access.id) () (Creating b d [] original) (adopt d rest owned) := by
  have hs : Stable (contract i d.access.id) () (Creating b d [] original) := stable_creating hd
  induction rest with
  | nil => exact fun _ _ => keeping_pure hs
  | cons record rest ih =>
    intro owned hsub
    have hrest : ∀ r ∈ rest, r ∈ remote := fun r hr => hsub r (List.mem_cons_of_mem _ hr)
    unfold adopt
    split
    · split
      · next hadopt =>
        have hown := (Bool.and_eq_true_iff.mp hadopt).2
        have hlt := hl.own record (hsub record List.mem_cons_self) (isOwn_iff.mp hown).2
        exact keeping_bind lawful hs (keeping_track hd (Or.inl hlt)) fun _ => ih _ hrest
      · exact ih _ hrest
    · exact ih _ hrest

lemma prune_triple (hl : Listing b d remote) (rows : List DnsRow) :
    Agrees b d rows →
      Keeping (contract i d.access.id) () (Creating b d [] original) (prune d remote rows) := by
  have hs : Stable (contract i d.access.id) () (Creating b d [] original) := stable_creating hd
  induction rows with
  | nil => exact fun _ => keeping_pure hs
  | cons record rest ih =>
    intro ha
    have hrest : Agrees b d rest := fun row hrow => ha row (List.mem_cons_of_mem _ hrow)
    unfold prune
    split
    · exact keeping_bind lawful hs (ih hrest) fun _ => keeping_pure hs
    · next hgoes =>
      refine keeping_bind lawful hs (keeping_deleteOwnedRecord hd fun r hr hmade hid => ?_)
        fun _ => ih hrest
      exact hgoes (hl.row_stays ha List.mem_cons_self hr hmade hid)

/-- The first half of the `try` block: every wanted record of before is kept and tracked. -/
lemma settleOwned_triple (ho : Orderly b d) :
    Triple (contract i d.access.id) () (Creating b d [] original) (settleOwned d).run
      (Exits (fun settled s => Covered b d settled.1 settled.2 ∧ Creating b d [] original s)
        fun _ => Creating b d [] original) := by
  have hs : Stable (contract i d.access.id) () (Creating b d [] original) := stable_creating hd
  have howned : d.owned = ownedDnsRecords b.db d.access.id :=
    (DnsSafety.deployment_some hd).2
  have hstart : Agrees b d (d.owned.filter (·.status ≠ .deleted)) := by
    intro row hrow r hr hmade hid
    obtain ⟨hrow, hlive⟩ := List.mem_filter.mp hrow
    rw [howned] at hrow
    exact ho.agree row hrow (of_decide_eq_true hlive) r hr hmade hid
  refine exits_bind lawful (fun _ => hs) (exits_look (φ := Listing b d) rfl hs ?_)
    fun remote => triple_pre fun hl => ?_
  · intro s ch listed hi h hanswer
    obtain rfl := Except.ok.inj hanswer
    exact listing_of_creating hi h
  refine exits_bind lawful (fun _ => hs) (K := fun owned s => (Agrees b d owned ∧
      ∀ r ∈ remote, (expected d.access r.type r.content).isSome → isOwn d.access r →
        r.id ∈ keys owned) ∧ Creating b d [] original s) ?_
    fun owned => triple_pre fun ⟨hagrees, hall⟩ => ?_
  · refine triple_conseq (triple_ends (adopt_triple hd hl remote _ fun r hr => hr)
      (adopt_ends hl remote _ (fun r hr => hr) hstart)) (fun _ _ h => h) ?_
    rintro (e | owned) s - ⟨hends, h⟩
    · exact h
    · obtain ⟨hagrees, -, hall⟩ := hends owned rfl
      exact ⟨⟨hagrees, hall⟩, h⟩
  split
  · exact exits_throw hs fun _ _ h => h
  · refine exits_bind lawful (fun _ => hs) (K := fun kept s =>
      kept = owned.filter (stays d remote) ∧ Creating b d [] original s) ?_
      fun kept => triple_pre fun hkept => exits_pure hs fun _ _ h => ?_
    · refine triple_conseq (triple_ends (prune_triple hd hl owned hagrees) (prune_ends owned))
        (fun _ _ h => h) ?_
      rintro (e | kept) s - ⟨hends, h⟩
      · exact h
      · exact ⟨hends kept rfl, h⟩
    · rw [hkept]
      exact ⟨hl.covered hagrees hall, h⟩

/-! ### The tunnel -/

omit hd in
/-- Once the rules are read, the write of the tunnel can be taken back. -/
lemma Creating.restorable_of_read (h : Creating b d made none s) {rules : List Rule}
    {tunnelId : String} (hmethod : d.access.accessMethod = .tunnel)
    (ht : d.access.deployedTunnelId = some tunnelId)
    (hread : readTunnelConfig b.cloud d.access.deployedAccountIdentifier tunnelId = .ok rules) :
    Creating b d made (some rules) s :=
  { h with restorable := ⟨tunnelId, hmethod, ht, hread⟩ }

lemma keeping_rewriteIngress {rules : List Rule} {tunnelId : String} :
    Keeping (contract i d.access.id) () (Creating b d [] (some rules))
      (rewriteIngress d tunnelId rules) := by
  have hs : Stable (contract i d.access.id) () (Creating b d [] (some rules)) :=
    stable_creating hd
  unfold rewriteIngress
  split
  · refine exits_call rfl hs (fun _ => hs) (fun _ => hs) fun s answer t _ h _ hexec => ?_
    obtain ⟨hbefore, hdb, hrecords, hnext, -⟩ := put_cases hexec
    have hafter : Creating b d [] (some rules) t := by
      refine ⟨hbefore.trans h.before, ?_, ?_, h.given, ?_, ?_, ?_, ?_, h.restorable⟩
      · rw [hnext]
        exact h.next
      · rw [hrecords]
        exact h.kept
      · rw [hnext]
        exact h.fresh
      · rw [hrecords]
        exact h.old
      · rw [hrecords]
        exact h.new
      · rw [hdb]
        exact h.tracked
    cases answer with
    | ok _ => exact hafter
    | error _ => exact hafter
  · exact keeping_throw hs

lemma publish_triple (henabled : d.access.enabled) :
    Triple (contract i d.access.id) () (Creating b d [] none) (publish d).run
      (Exits (fun original => Creating b d [] original) fun _ => Done b d) := by
  have hs : Stable (contract i d.access.id) () (Creating b d [] none) := stable_creating hd
  unfold publish
  split
  · next tunnelId hmethod ht =>
    refine exits_bind lawful (fun _ => stable_done hd) (guarded_triple hd henabled
      (fun _ => (stable_const _).and hs) (exits_conseq (exits_look (φ := fun rules =>
        readTunnelConfig b.cloud d.access.deployedAccountIdentifier tunnelId = .ok rules) rfl hs ?_)
        (fun _ _ h => h) (fun _ _ _ h => h) fun _ _ _ h => h.attempt))
      fun rules => triple_pre fun hread => ?_
    · intro s ch rules _ h hanswer
      rw [← hanswer]
      change _ = readTunnelConfig s.world.cloud d.access.deployedAccountIdentifier tunnelId
      rw [readTunnelConfig, readTunnelConfig, h.restorable.2 tunnelId ht]
    · have hs' : Stable (contract i d.access.id) () (Creating b d [] (some rules)) :=
        stable_creating hd
      refine exits_bind lawful (fun _ => stable_done hd) (guarded_triple hd henabled
        (fun _ => hs') (exits_conseq (keeping_rewriteIngress hd)
          (fun _ _ h => Creating.restorable_of_read h hmethod ht hread) (fun _ _ _ h => h)
          fun _ _ _ h => h.attempt)) fun _ => exits_pure hs' fun _ _ h => h
  · exact exits_pure hs fun _ _ h => h

/-! ### Making a record -/

omit hd in
/-- **Inversion.** A creation is answered with the record it made, or its answer is lost. -/
lemma create_cases {zone : String} {item : Wanted} {hostname : String} {proxied : Bool}
    {comment : String} {answer : Except Failure RemoteRecord}
    (h : Exec i s (.createRecord zone item.1 hostname item.2 proxied comment) answer t) :
    t.before = s.before ∧ t.written = s.written ∧ t.world.db = s.world.db ∧
      ∃ r, r = newRecord s.world.cloud zone item.1 hostname item.2 proxied comment ∧
        (t.world.cloud = addRecord s.world.cloud r ∧ (∀ a, answer = .ok a → a = r) ∨
          t.world.cloud = s.world.cloud ∧ ∃ e, answer = .error e) := by
  refine ⟨h.before, h.written, ?_⟩
  obtain ⟨ch, ⟨hanswer, heq⟩ | ⟨e, hanswer, -, heq | heq⟩⟩ := h.cases
  · rw [heq]
    refine ⟨rfl, _, rfl, Or.inl ⟨rfl, fun a ha => ?_⟩⟩
    rw [hanswer] at ha
    exact (Except.ok.inj ha).symm
  · rw [heq]
    exact ⟨rfl, _, rfl, Or.inr ⟨rfl, e, hanswer⟩⟩
  · rw [heq]
    refine ⟨rfl, _, rfl, Or.inl ⟨rfl, fun a ha => ?_⟩⟩
    rw [hanswer] at ha
    cases ha

/-- A record was made, and neither the attempt nor a tracked row knows its number. -/
structure Unknown (b : PlaneWorld) (d : Deployment) (made : List (Wanted × ℕ))
    (original : Option (List Rule)) (item : Wanted) (k : ℕ) (s : AttemptState) : Prop where
  creating : Creating b d (made ++ [(item, k)]) original s
  made : ∃ r ∈ marked s.world.cloud.records d.access.id, r.id = k ∧
    r.zone = d.access.deployedZoneIdentifier ∧ lower r.name = lower d.access.hostname ∧
    isWanted d.access item r
  untracked : ∀ row ∈ ownedDnsRecords s.world.db d.access.id, row.recordId ≠ k

lemma stable_unknown {item : Wanted} {k : ℕ} :
    Stable (contract i d.access.id) () (Unknown b d made original item k) := by
  intro s t hi hi' hr h
  have hm := hr.world b h.creating.before
  refine ⟨stable_creating hd s t hi hi' hr h.creating, ?_, ?_⟩
  · rw [hm.marks]
    exact h.made
  · rw [hm.rows]
    exact h.untracked

omit hd in
/-- **Step lemma.** The record a creation adds is one more of those made. -/
lemma Creating.add (h : Creating b d made original s) {item : Wanted} {r : RemoteRecord}
    (hr : r = newRecord s.world.cloud d.access.deployedZoneIdentifier item.1 d.access.hostname
      item.2 d.access.proxied (ownershipMarker d.access.id))
    (hbefore : t.before = s.before) (hwritten : t.written = s.written)
    (hdb : t.world.db = s.world.db) (hcloud : t.world.cloud = addRecord s.world.cloud r) :
    Unknown b d made original item r.id t := by
  have hid : r.id = s.world.cloud.nextRecord := by rw [hr]; rfl
  have hmark : r.comment = some (ownershipMarker d.access.id) := by rw [hr]; rfl
  have hnumbers : numbersOf (made ++ [(item, r.id)]) = numbersOf made ++ [r.id] := by
    simp [numbersOf]
  have hsplit {r' : RemoteRecord} (hr' : r' ∈ marked t.world.cloud.records d.access.id) :
      r' ∈ marked s.world.cloud.records d.access.id ∨ r' = r := by
    rw [hcloud] at hr'
    obtain ⟨hmem, hmark'⟩ := mem_marked.mp hr'
    exact (List.mem_append.mp hmem).imp (fun hmem => mem_marked.mpr ⟨hmem, hmark'⟩)
      List.mem_singleton.mp
  refine ⟨⟨hbefore.trans h.before, ?_, fun r' hr' hmade => ?_, h.given, fun k hk => ?_,
    fun r' hr' hlt => ?_, fun r' hr' hnew => ?_, fun row hrow hnew => ?_, ?_⟩, ?_, ?_⟩
  · rw [hcloud]
    exact Nat.le_succ_of_le h.next
  · rw [hcloud]
    exact List.mem_append_left _ (h.kept r' hr' hmade)
  · rw [hnumbers] at hk
    rw [hcloud]
    rcases List.mem_append.mp hk with hk | hk
    · exact ⟨(h.fresh k hk).1, Nat.lt_succ_of_lt (h.fresh k hk).2⟩
    · rw [List.mem_singleton.mp hk, hid]
      exact ⟨h.next, Nat.lt_succ_self _⟩
  · rcases hsplit hr' with hold | rfl
    · exact h.old r' hold hlt
    · rw [hid] at hlt
      exact absurd h.next (Nat.not_le.mpr hlt)
  · rcases hsplit hr' with hold | rfl
    · obtain ⟨hzone, item', hitem', hsame⟩ := h.new r' hold hnew
      exact ⟨hzone, item', List.mem_append_left _ hitem', hsame⟩
    · refine ⟨by rw [hr]; rfl, item, List.mem_append_right _ List.mem_cons_self, ?_⟩
      rw [hr]
      exact sameTarget_self item
  · rw [hdb] at hrow
    rw [hnumbers]
    exact List.mem_append_left _ (h.tracked row hrow hnew)
  · refine restorable_of_same hwritten (fun _ _ => ?_) h.restorable
    rw [hcloud]
    rfl
  · refine ⟨r, mem_marked.mpr ⟨?_, hmark⟩, rfl, by rw [hr]; rfl, by rw [hr]; rfl, ?_⟩
    · rw [hcloud]
      exact List.mem_append_right _ List.mem_cons_self
    · rw [hr]
      exact isWanted_iff.mpr ⟨⟨rfl, rfl⟩, isOwn_iff.mpr ⟨rfl, rfl⟩⟩
  · intro row hrow heq
    rw [hdb] at hrow
    have hlt := (h.fresh _ (h.tracked row hrow (by rw [heq, hid]; exact h.next))).2
    omega

omit hd in
/-- A record at the host name that a missing item describes is one the attempt made. -/
lemma Creating.origin (h : Creating b d made original s) {kept : List DnsRow}
    (hc : Covered b d remote kept) {item : Wanted} (hitem : item ∈ desired d.access)
    (hmissing : ¬isPresent d remote kept item) {r : RemoteRecord}
    (hr : r ∈ listDnsRecordsExact s.world.cloud d.access.deployedZoneIdentifier d.access.hostname)
    (hw : isWanted d.access item r) :
    ∃ p ∈ made, p.2 = r.id ∧ sameTarget p.1 item.1 item.2 := by
  obtain ⟨⟨htype, hcontent⟩, hown⟩ := isWanted_iff.mp hw
  obtain ⟨hmem, hzone, hname⟩ := mem_listing.mp hr
  obtain ⟨hproxied, hmark⟩ := isOwn_iff.mp hown
  have hmarked := mem_marked.mpr ⟨hmem, hmark⟩
  by_cases hnew : b.cloud.nextRecord ≤ r.id
  · obtain ⟨-, item', hitem', hsame⟩ := h.new r hmarked hnew
    obtain ⟨htype', hcontent'⟩ := sameTarget_iff.mp hsame
    exact ⟨_, hitem', rfl, sameTarget_iff.mpr
      ⟨htype'.trans htype.symm, hcontent'.trans hcontent.symm⟩⟩
  · have hold := h.old r hmarked (Nat.not_le.mp hnew)
    have hsame : sameTarget item r.type r.content := sameTarget_iff.mpr ⟨htype, hcontent⟩
    have hmade : Made d.access r :=
      ⟨hzone, hname, hproxied, expected_isSome.mpr ⟨item, hitem, hsame⟩⟩
    exact absurd (hc.present (mem_marked.mpr ⟨hold, hmark⟩) hmade hsame) hmissing

/-- What the `catch` block of a creation makes of a listing. -/
def Recovered (b : PlaneWorld) (d : Deployment) (made : List (Wanted × ℕ))
    (original : Option (List Rule)) (item : Wanted) (listed : List RemoteRecord)
    (s : AttemptState) : Prop :=
  match listed.find? (isWanted d.access item) with
  | some r => Creating b d (made ++ [(item, r.id)]) original s
  | none => Creating b d made original s

lemma stable_recovered {item : Wanted} {listed : List RemoteRecord} :
    Stable (contract i d.access.id) () (Recovered b d made original item listed) := by
  unfold Recovered
  split
  · exact stable_creating hd
  · exact stable_creating hd

omit hd in
/-- **Key lemma.** A listing that is answered finds the record that was made, and no other. -/
lemma recovered_of_listing {kept : List DnsRow} (hc : Covered b d remote kept) {item : Wanted}
    (hitem : item ∈ desired d.access) (hmissing : ¬isPresent d remote kept item)
    (hother : ∀ p ∈ made, ¬sameTarget p.1 item.1 item.2)
    (hs : Creating b d made original s ∨ ∃ k, Unknown b d made original item k s)
    (ht : ∀ made', Creating b d made' original s → Creating b d made' original t) :
    Recovered b d made original item (listDnsRecordsExact s.world.cloud
      d.access.deployedZoneIdentifier d.access.hostname) t := by
  unfold Recovered
  rcases hs with h | ⟨k, h⟩
  · cases hfound : (listDnsRecordsExact s.world.cloud d.access.deployedZoneIdentifier
      d.access.hostname).find? (isWanted d.access item) with
    | none => exact ht _ h
    | some r =>
      obtain ⟨p, hp, -, hsame⟩ := h.origin hc hitem hmissing (List.mem_of_find?_eq_some hfound)
        (List.find?_some hfound)
      exact absurd hsame (hother p hp)
  · cases hfound : (listDnsRecordsExact s.world.cloud d.access.deployedZoneIdentifier
      d.access.hostname).find? (isWanted d.access item) with
    | none =>
      obtain ⟨r, hr, -, hzone, hname, hw⟩ := h.made
      have hlisted := mem_listing.mpr ⟨(mem_marked.mp hr).1, hzone, hname⟩
      exact absurd hw (by simpa using List.find?_eq_none.mp hfound r hlisted)
    | some r =>
      obtain ⟨p, hp, hid, hsame⟩ := h.creating.origin hc hitem hmissing
        (List.mem_of_find?_eq_some hfound) (List.find?_some hfound)
      rcases List.mem_append.mp hp with hp | hp
      · exact absurd hsame (hother p hp)
      · obtain rfl := List.mem_singleton.mp hp
        obtain rfl : k = r.id := hid
        exact ht _ h.creating

omit hd in
/-- A later listing still has every wanted record of before. -/
lemma Covered.relist {kept : List DnsRow} (hc : Covered b d remote kept)
    (hkept : ∀ r ∈ marked b.cloud.records d.access.id, Made d.access r →
      r ∈ s.world.cloud.records) :
    Covered b d (listDnsRecordsExact s.world.cloud d.access.deployedZoneIdentifier
      d.access.hostname) kept := by
  intro r hr hmade
  exact ⟨mem_listing.mpr ⟨hkept r hr hmade, hmade.zone, hmade.name⟩, (hc r hr hmade).2⟩

lemma create_triple {kept : List DnsRow} (hc : Covered b d remote kept) {item : Wanted}
    (hitem : item ∈ desired d.access) (hmissing : ¬isPresent d remote kept item)
    (hother : ∀ p ∈ made, ¬sameTarget p.1 item.1 item.2) :
    Triple (contract i d.access.id) () (Creating b d made original) (create d item remote).run
      (Exits (fun answer s => Covered b d answer.2 kept ∧
        Creating b d (made ++ [(item, answer.1.id)]) original s)
        fun _ => Creating b d made original) := by
  have hs (made : List (Wanted × ℕ)) :
      Stable (contract i d.access.id) () (Creating b d made original) := stable_creating hd
  have hlost : Stable (contract i d.access.id) () fun s =>
      Creating b d made original s ∨ ∃ k, Unknown b d made original item k s :=
    (hs made).or (stable_exists fun _ => stable_unknown hd)
  refine exits_catch lawful (fun _ => (stable_const _).and (hs _)) (X := fun _ s =>
    Creating b d made original s ∨ ∃ k, Unknown b d made original item k s) ?_ fun e => ?_
  · refine exits_bind lawful (fun _ => hlost) (K := fun r s =>
      Creating b d (made ++ [(item, r.id)]) original s) ?_
      fun r => exits_pure (hs _) fun _ _ h => ⟨hc, h⟩
    refine exits_call rfl (hs made) (fun _ => hs _) (fun _ => hlost)
      fun s answer t _ h _ hexec => ?_
    obtain ⟨hbefore, hwritten, hdb, r, hr, ⟨hcloud, hanswer⟩ | ⟨hcloud, e, rfl⟩⟩ :=
      create_cases hexec
    · have hafter := h.add hr hbefore hwritten hdb hcloud
      cases answer with
      | ok a =>
        rw [hanswer a rfl]
        exact hafter.creating
      | error e => exact Or.inr ⟨_, hafter⟩
    · refine Or.inl (h.of_rows hbefore hwritten hcloud ?_)
      rw [hdb]
      exact h.tracked
  · refine exits_bind lawful (fun _ => hs made) (K := fun listed s =>
      Covered b d listed kept ∧ Recovered b d made original item listed s) ?_
      fun listed => triple_pre fun hcovered => ?_
    · refine exits_call rfl hlost (fun _ => (stable_const _).and (stable_recovered hd))
        (fun _ => hs made) fun s answer t hi h hcareful hexec => ?_
      have hi' := numbered_exec rfl hexec hi
      have hothers : Others d.access.id s t := look_others rfl hexec
      have hkeep (made' : List (Wanted × ℕ)) (h : Creating b d made' original s) :
          Creating b d made' original t := hs made' s t hi hi' hothers h
      cases answer with
      | error e =>
        rcases h with h | ⟨k, h⟩
        · exact hkeep made h
        · obtain ⟨r, hr, rfl, -⟩ := h.made
          have hnew := (h.creating.fresh r.id (by simp [numbersOf])).1
          obtain ⟨listed, hlisted⟩ := hcareful b h.creating.before ⟨r, hr, hnew, h.untracked⟩
          cases hlisted
      | ok listed =>
        obtain ⟨ch, ⟨hanswer, -⟩ | ⟨e, hanswer, -⟩⟩ := hexec.cases
        · obtain rfl := Except.ok.inj hanswer
          refine ⟨hc.relist ?_, recovered_of_listing hc hitem hmissing hother h hkeep⟩
          rcases h with h | ⟨k, h⟩
          · exact h.kept
          · exact h.creating.kept
        · cases hanswer
    · unfold Recovered
      cases listed.find? (isWanted d.access item) with
      | some r => exact exits_pure (hs _) fun _ _ h => ⟨hcovered, h⟩
      | none => exact exits_throw (hs made) fun _ _ h => h

lemma keeping_confirm {item : Wanted} {k : ℕ} (hk : k ∈ numbersOf made) :
    Keeping (contract i d.access.id) () (Creating b d made original) (confirm d item k) := by
  have hs : Stable (contract i d.access.id) () (Creating b d made original) := stable_creating hd
  refine keeping_bind lawful hs (keeping_track hd (Or.inr hk)) fun _ => ?_
  refine keeping_bind lawful hs (keeping_look rfl hs) fun readBack => ?_
  split
  · exact keeping_pure hs
  · exact keeping_throw hs

/-- **Run lemma.** By the items that are left: what was made so far is known to the handler of
every part. -/
lemma createMissing_triple (henabled : d.access.enabled) (hdistinct : DistinctWanted d.access)
    {kept : List DnsRow} (items : List Wanted) :
    ∀ (done : List Wanted) (made : List (Wanted × ℕ)) (remote : List RemoteRecord),
    done ++ items = desired d.access → (∀ p ∈ made, p.1 ∈ done) → Covered b d remote kept →
    Triple (contract i d.access.id) () (Creating b d made original)
      (createMissing d original kept items remote (numbersOf made)).run
      (Exits (fun created s => ∃ made, created = numbersOf made ∧ Creating b d made original s)
        fun _ => Done b d) := by
  have hs (made : List (Wanted × ℕ)) :
      Stable (contract i d.access.id) () (Creating b d made original) := stable_creating hd
  induction items with
  | nil => exact fun _ made _ _ _ _ => exits_pure (hs made) fun _ _ h => ⟨made, rfl, h⟩
  | cons item items ih =>
    intro done made remote hdone hmade hcovered
    have hitem : item ∈ desired d.access := by
      rw [← hdone]
      exact List.mem_append_right _ List.mem_cons_self
    have hdone' : (done ++ [item]) ++ items = desired d.access := by
      rw [← hdone, List.append_assoc]
      rfl
    unfold createMissing
    split
    · exact ih _ made remote hdone' (fun p hp => List.mem_append_left _ (hmade p hp)) hcovered
    · next hmissing =>
      have hother : ∀ p ∈ made, ¬sameTarget p.1 item.1 item.2 := by
        intro p hp
        rw [DistinctWanted, ← hdone] at hdistinct
        exact (List.pairwise_append.mp hdistinct).2.2 p.1 (hmade p hp) item List.mem_cons_self
      refine exits_bind lawful (fun _ => stable_done hd) (guarded_triple hd henabled
        (fun _ => (stable_const _).and (hs _))
        (exits_conseq (create_triple hd hcovered hitem hmissing hother) (fun _ _ h => h)
          (fun _ _ _ h => h) fun _ _ _ h => h.attempt)) ?_
      rintro ⟨r, remote'⟩
      refine triple_pre fun hcovered' => ?_
      have hnumbers : numbersOf made ++ [r.id] = numbersOf (made ++ [(item, r.id)]) := by
        simp [numbersOf]
      dsimp only
      rw [hnumbers]
      have hconfirm : Keeping (contract i d.access.id) ()
          (Creating b d (made ++ [(item, r.id)]) original) (confirm d item r.id) :=
        keeping_confirm hd (by simp [numbersOf])
      refine exits_bind lawful (fun _ => stable_done hd) (guarded_triple hd henabled
        (fun _ => hs _) (exits_conseq hconfirm (fun _ _ h => h) (fun _ _ _ h => h)
          fun _ _ _ h => h.attempt)) fun _ => ?_
      refine ih _ _ remote' hdone' (fun p hp => ?_) hcovered'
      rcases List.mem_append.mp hp with hp | hp
      · exact List.mem_append_left _ (hmade p hp)
      · rw [List.mem_singleton.mp hp]
        exact List.mem_append_right _ List.mem_cons_self

/-- **The enable path.** Where it fails, what it made has been taken back. -/
lemma enable_triple (henabled : d.access.enabled) (ho : Orderly b d)
    (requireHttpsObservation : Bool) :
    Triple (contract i d.access.id) () (Creating b d [] none)
      (enable d requireHttpsObservation).run (Exits (fun _ _ => True) fun _ => Done b d) := by
  have hs (made : List (Wanted × ℕ)) (original : Option (List Rule)) :
      Stable (contract i d.access.id) () (Creating b d made original) := stable_creating hd
  refine exits_bind lawful (fun _ => stable_done hd) (guarded_triple hd henabled
    (fun _ => (stable_const _).and (hs _ _))
    (exits_conseq (settleOwned_triple hd ho) (fun _ _ h => h) (fun _ _ _ h => h)
      fun _ _ _ h => h.attempt)) ?_
  rintro ⟨remote, kept⟩
  refine triple_pre fun hcovered => exits_bind lawful (fun _ => stable_done hd)
    (publish_triple hd henabled) fun original => ?_
  refine exits_bind lawful (fun _ => stable_done hd)
    (createMissing_triple hd henabled ho.distinct (desired d.access) [] [] remote rfl
      (by simp) hcovered) fun created => ?_
  refine triple_exists fun made => triple_pre fun hcreated => ?_
  subst hcreated
  have hend : Keeping (contract i d.access.id) () (Creating b d made original)
      (outcome d (if requireHttpsObservation then .pending else .active) none) := by
    refine keeping_bind lawful (hs made original) (keeping_look rfl (hs made original))
      fun saved => ?_
    split
    · exact keeping_pure (hs made original)
    · exact keeping_throw (hs made original)
  exact guarded_triple hd henabled (fun _ => stable_true) (exits_conseq hend (fun _ _ h => h)
    (fun _ _ _ _ => trivial) fun _ _ _ h => h.attempt)

end

end GatewayControl.PublishCleanup
