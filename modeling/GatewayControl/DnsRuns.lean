import GatewayControl.DnsOwnership

/-!
The reconciliation of one access, call by call, against its tracked rows, the records with
its marker and the records at its host name.
-/

namespace GatewayControl.DnsRuns

open Database Store Placement Publishing Ingress Cloudflare Calls Reconcile Programs
open ControlPlane AccessHistory DnsOwnership

variable {S : Scope} {n : Nat}

/-! ### What a run knows -/

/-- The run has its access's lock, and this is what there is of the access. -/
structure View (S : Scope) (n : Nat) (h : AccessRow) (rows : List DnsRow)
    (marks place : List RemoteRecord) (w : PlaneWorld) : Prop where
  holder : w.holder (.domainAccess h.id) = some (.reconcile h.id n)
  later : ∃ h', w.db.accesses.find? h.id = some h' ∧ Later h h'
  rows : ownedDnsRecords w.db h.id = rows
  marks : marked w.cloud.records h.id = marks
  place : S.strict → placeOf h w.cloud.records = place

/-- The run has its access's lock. -/
def Held (S : Scope) (n : Nat) (h : AccessRow) (w : PlaneWorld) : Prop :=
  ∃ rows marks place, View S n h rows marks place w

lemma stable_view (h : AccessRow) (rows : List DnsRow) (marks place : List RemoteRecord) :
    Stable (contract S) (.reconcile h.id n) (View S n h rows marks place) := by
  intro w w' _ _ hr hv
  obtain ⟨a, ha, hla⟩ := hv.later
  refine ⟨hr.holder hv.holder, ?_, ?_, ?_, fun hs => ?_⟩
  · obtain ⟨b, hb, hab⟩ := hr.accesses a ha
    exact ⟨b, hb, hla.trans hab⟩
  · rw [hr.rows hv.holder, hv.rows]
  · rw [hr.marks hv.holder, hv.marks]
  · have hsame := hr.place hs hv.holder a ha
    rw [Later.placeOf_eq hla] at hsame
    rw [hsame, hv.place hs]

lemma stable_held (h : AccessRow) :
    Stable (contract S) (.reconcile h.id n) (Held S n h) :=
  stable_exists fun _ => stable_exists fun _ => stable_exists fun _ => stable_view h _ _ _

/-! ### One call -/

lemma lost_not_found {e : Failure} (h : Failure.lost e) : e.isExplicitNotFound = false := by
  cases e with
  | api status message code => exact absurd h (by simp [Failure.lost])
  | client message status code => exact h
  | other message => exact h

/-- The rule for a call: what its effect keeps, what its answer says, and what is left when
the answer is lost. -/
lemma exits_call {i : Slot} {c : Call} {P : PlaneWorld → Prop} {K : c.Answer → PlaneWorld → Prop}
    {X : Failure → PlaneWorld → Prop} (hP : Stable (contract S) i P)
    (hK : ∀ a, Stable (contract S) i (K a)) (hX : ∀ e, Stable (contract S) i (X e))
    (hok : ∀ w, Inv S w → P w → allowed S i w c)
    (hrun : ∀ w ch, Inv S w → P w →
      Inv S (c.run ch i w).2 ∧ ∀ j, j ≠ i → Rely S j w (c.run ch i w).2)
    (hans : ∀ w ch, Inv S w → P w → S.step w c → Exits K X (c.run ch i w).1 (c.run ch i w).2)
    (hlost : ∀ w ch e, Inv S w → P w → S.step w c → Failure.lost e →
      X e w ∧ X e (c.run ch i w).2) :
    Triple (contract S) i P (call c).run (Exits K X) := by
  refine triple_perform hP ?_ hok ?_
  · rintro (e | a)
    · exact hX e
    · exact hK a
  · rintro w r w' hi hp ⟨⟨ch, hcases⟩, hstep⟩
    have hrely : ∀ j, j ≠ i → Rely S j w w := fun j _ => (lawful S).refl j w
    rcases hcases with ⟨rfl, rfl⟩ | ⟨e, rfl, he, rfl | rfl⟩
    · obtain ⟨hinv, hj⟩ := hrun w ch hi hp
      exact ⟨hinv, hj, hans w ch hi hp hstep⟩
    · exact ⟨hi, hrely, (hlost w' ch e hi hp hstep he).1⟩
    · obtain ⟨hinv, hj⟩ := hrun w ch hi hp
      exact ⟨hinv, hj, (hlost w ch e hi hp hstep he).2⟩

/-! ### Calls that leave DNS alone -/

def isQuiet : Call → Bool
  | .acquire _ | .release _ | .saveRecord _ _ _ | .markRecord _ _ _ _ _ => false
  | .createRecord _ _ _ _ _ _ | .deleteRecord _ _ | .createAccess _ => false
  | _ => true

lemma quiet_run {c : Call} (hc : isQuiet c) (ch : Choice) (i : Slot) (w : PlaneWorld) :
    Quiet w (c.run ch i w).2 ∧ (c.run ch i w).2.holder = w.holder := by
  cases c with
  | acquire _ | release _ | saveRecord _ _ _ | markRecord _ _ _ _ _ => simp [isQuiet] at hc
  | createRecord _ _ _ _ _ _ | deleteRecord _ _ | createAccess _ => simp [isQuiet] at hc
  | outcome id revision status lastError =>
    change Quiet w (w.store (markDomainAccessOutcome w.db id revision status lastError)).2 ∧
      (w.store (markDomainAccessOutcome w.db id revision status lastError)).2.holder = w.holder
    cases hrun : markDomainAccessOutcome w.db id revision status lastError with
    | none => exact ⟨Quiet.rfl, rfl⟩
    | some answer =>
      obtain ⟨db, saved⟩ := answer
      refine ⟨?_, rfl⟩
      change Quiet w { w with db }
      cases saved with
      | none =>
        obtain ⟨rfl, -⟩ := markDomainAccessOutcome_none hrun
        exact Quiet.rfl
      | some saved =>
        obtain ⟨row, -, -, rfl, -⟩ := markDomainAccessOutcome_some hrun
        exact ⟨evolves_update fun r => later_endRow .., rfl, rfl, rfl, fun h => h⟩
  | putTunnelConfig _ _ _ | updateGuided _ _ =>
    exact ⟨⟨evolves_same rfl, rfl, rfl, rfl, fun h => h⟩, rfl⟩
  | _ => exact ⟨Quiet.rfl, rfl⟩

lemma quiet_step {i : Slot} {c : Call} (hc : isQuiet c) (ch : Choice) {w : PlaneWorld}
    (h : Inv S w) : Inv S (c.run ch i w).2 ∧ ∀ j, j ≠ i → Rely S j w (c.run ch i w).2 := by
  obtain ⟨hq, hholder⟩ := quiet_run hc ch i w
  exact ⟨hq.inv h, fun j _ => hq.rely fun key hkey => by rw [hholder]; exact hkey⟩

/-- What a quiet call leaves as it is. -/
def Unmoved (P : PlaneWorld → Prop) : Prop :=
  ∀ w w', Quiet w w' → w'.holder = w.holder → P w → P w'

lemma unmoved_view (h : AccessRow) (rows : List DnsRow) (marks place : List RemoteRecord) :
    Unmoved (View S n h rows marks place) := by
  intro w w' hq hholder hv
  obtain ⟨a, ha, hla⟩ := hv.later
  obtain ⟨b, hb, hab⟩ := hq.accesses.forth _ a ha
  exact ⟨by rw [hholder]; exact hv.holder, ⟨b, hb, hla.trans hab⟩,
    by rw [hq.owned_eq, hv.rows], by rw [hq.records, hv.marks],
    fun hs => by rw [hq.records, hv.place hs]⟩

/-- The rule for a quiet call: what held holds, and its answer is one the call can give. -/
lemma exits_quiet {i : Slot} {c : Call} (hc : isQuiet c) {P : PlaneWorld → Prop}
    {φ : c.Answer → Prop} (hP : Stable (contract S) i P) (hq : Unmoved P)
    (hok : ∀ w, Inv S w → P w → allowed S i w c)
    (hφ : ∀ w ch, Inv S w → P w → S.step w c → ∀ a, (c.run ch i w).1 = .ok a → φ a) :
    Triple (contract S) i P (call c).run (Exits (fun a w => φ a ∧ P w) fun _ => P) := by
  have hkeep (w : PlaneWorld) (ch : Choice) (hp : P w) : P (c.run ch i w).2 := by
    obtain ⟨hquiet, hholder⟩ := quiet_run hc ch i w
    exact hq w _ hquiet hholder hp
  refine exits_call hP (fun a => (stable_const _).and hP) (fun _ => hP) hok
    (fun w ch hi _ => quiet_step hc ch hi) (fun w ch hi hp hstep => ?_)
    (fun w ch e _ hp _ _ => ⟨hp, hkeep w ch hp⟩)
  cases hans : (c.run ch i w).1 with
  | error e => exact hkeep w ch hp
  | ok a => exact ⟨hφ w ch hi hp hstep a hans, hkeep w ch hp⟩

/-- The same, with nothing said of the answer. -/
lemma exits_silent {i : Slot} {c : Call} (hc : isQuiet c) {P : PlaneWorld → Prop}
    (hP : Stable (contract S) i P) (hq : Unmoved P)
    (hok : ∀ w, Inv S w → P w → allowed S i w c) :
    Triple (contract S) i P (call c).run (Exits (fun _ => P) fun _ => P) :=
  exits_conseq (exits_quiet (φ := fun _ => True) hc hP hq hok fun _ _ _ _ _ _ _ => trivial)
    (fun _ _ h => h) (fun _ _ _ h => h.2) fun _ _ _ h => h

/-! ### Calls on the records of the access -/

def keys (rows : List DnsRow) : List Nat := rows.map (·.recordId)

lemma keys_mapRow {k : Nat} {f : DnsRow → DnsRow} (hf : ∀ r, (f r).recordId = r.recordId)
    (rows : List DnsRow) : keys (mapRow k f rows) = keys rows := by
  unfold keys mapRow
  rw [List.map_map]
  refine List.map_congr_left fun r _ => ?_
  by_cases hr : r.recordId = k <;> simp [hr, hf]

lemma mem_keys {db : PublishDb} {id : String} {k : Nat} {rows : List DnsRow}
    (h : ownedDnsRecords db id = rows) (hk : k ∈ keys rows) :
    ∃ row ∈ ownedDnsRecords db id, row.recordId = k := by
  rw [h]
  exact List.mem_map.mp hk

lemma view_dropped {h : AccessRow} {rows : List DnsRow} {marks place : List RemoteRecord}
    {w : PlaneWorld} (hv : View S n h rows marks place w) (zone : String) (k : Nat) :
    View S n h rows (dropped zone k marks) (dropped zone k place)
      { w with cloud := (deleteDnsRecord w.cloud zone k).2 } := by
  rw [deleteDnsRecord_cloud]
  refine ⟨hv.holder, hv.later, hv.rows, ?_, fun hs => ?_⟩
  · rw [← hv.marks]
    exact List.filter_comm ..
  · rw [← hv.place hs]
    exact List.filter_comm ..

/-- A deletion that fails is known to have been of nothing, or may have taken effect. -/
lemma delete_call {h : AccessRow} {rows : List DnsRow} {marks place : List RemoteRecord}
    {k : Nat} (hk : k ∈ keys rows ∨ ∃ r ∈ marks, r.id = k) :
    Triple (contract S) (.reconcile h.id n) (View S n h rows marks place)
      (call (.deleteRecord h.deployedZoneIdentifier k)).run
      (Exits
        (fun _ => View S n h rows (dropped h.deployedZoneIdentifier k marks)
          (dropped h.deployedZoneIdentifier k place))
        fun e w =>
          (e.isExplicitNotFound → View S n h rows (dropped h.deployedZoneIdentifier k marks)
            (dropped h.deployedZoneIdentifier k place) w) ∧
          (View S n h rows marks place w ∨
            View S n h rows (dropped h.deployedZoneIdentifier k marks)
              (dropped h.deployedZoneIdentifier k place) w)) := by
  have hv := stable_view (S := S) (n := n) h rows marks place
  have hv' := stable_view (S := S) (n := n) h rows
    (dropped h.deployedZoneIdentifier k marks) (dropped h.deployedZoneIdentifier k place)
  have hdeletable {w : PlaneWorld} (hp : View S n h rows marks place w) :
      Deletable w h.id k := by
    rcases hk with hk | ⟨r, hr, hrk⟩
    · exact Or.inl (mem_keys hp.rows hk)
    · exact Or.inr ⟨r, by rw [hp.marks]; exact hr, hrk⟩
  refine exits_call hv (fun _ => hv') (fun _ => hv'.imp.and (hv.or hv'))
    (fun w _ hp => hdeletable hp)
    (fun w ch hi hp => ⟨inv_delete hi .., fun j hj => ?_⟩) (fun w ch hi hp _ => ?_)
    (fun w ch e hi hp _ he => ⟨⟨fun h => ?_, Or.inl hp⟩, ⟨fun h => ?_, Or.inr ?_⟩⟩)
  · exact (own_delete hi (hdeletable hp) _).rely hp.holder hj
  · have hafter := view_dropped hp h.deployedZoneIdentifier k
    change Exits _ _ (deleteDnsRecord w.cloud h.deployedZoneIdentifier k).1 _
    cases (deleteDnsRecord w.cloud h.deployedZoneIdentifier k).1 with
    | ok _ => exact hafter
    | error e => exact ⟨fun _ => hafter, Or.inr hafter⟩
  · exact absurd h (by rw [lost_not_found he]; simp)
  · exact absurd h (by rw [lost_not_found he]; simp)
  · exact view_dropped hp _ k

lemma view_rows {h : AccessRow} {rows rows' : List DnsRow} {marks place : List RemoteRecord}
    {w : PlaneWorld} {db : PublishDb} (hv : View S n h rows marks place w)
    (hstep : RowStep h.id w.db db) (hrows : ownedDnsRecords db h.id = rows') :
    View S n h rows' marks place { w with db } :=
  ⟨hv.holder, by rw [hstep.accesses]; exact hv.later, hrows, hv.marks, hv.place⟩

/-- **Step lemma.** What tracking a marked record leaves, by the answer. -/
lemma save_step {h : AccessRow} {rows : List DnsRow} {marks place : List RemoteRecord}
    {revision : Nat} {record : TrackedRecord} {w : PlaneWorld} (hi : Inv S w)
    (hp : View S n h rows marks place w)
    (hr : ∃ r ∈ marks, r.id = record.recordId ∧ r.type = record.type)
    {after : Except Failure Bool × PlaneWorld}
    (hafter : w.store (saveDomainAccessDnsRecord w.db h.id revision record) = after) :
    Inv S after.2 ∧ (∀ j, j ≠ .reconcile h.id n → Rely S j w after.2) ∧
      ((after.1 = .ok false ∨ after.1 = .error refused) ∧
          View S n h rows marks place after.2 ∨
        after.1 = .ok true ∧
          View S n h (trackedRows h.id record rows) marks place after.2) := by
  rw [← hafter]
  cases hsave : saveDomainAccessDnsRecord w.db h.id revision record with
  | none => exact ⟨hi, fun j _ => (lawful S).refl j w, Or.inl ⟨Or.inr rfl, hp⟩⟩
  | some answer =>
    obtain ⟨db, b⟩ := answer
    rcases saveDomainAccessDnsRecord_some hsave with ⟨rfl, rfl⟩ | ⟨rfl, hstep, hrows, hmem⟩
    · exact ⟨hi, fun j _ => (lawful S).refl j w, Or.inl ⟨Or.inl rfl, hp⟩⟩
    · refine ⟨inv_rows hi hstep fun row hrow => ?_,
        fun j hj => (own_rows hstep).rely hp.holder hj,
        Or.inr ⟨rfl, view_rows hp hstep (by rw [hrows, hp.rows])⟩⟩
      rcases hmem row hrow with hrow | ⟨hid, hk, htype⟩
      · exact hi.rows row hrow
      · obtain ⟨r, hr, hrk, hrt⟩ := hr
        rw [← hp.marks] at hr
        obtain ⟨hr, hmark⟩ := List.mem_filter.mp hr
        rw [hid, hk, htype, ← hrk, ← hrt]
        refine ⟨hi.given r hr, fun r' hr' heq => ?_⟩
        rw [List.inj_on_of_nodup_map hi.numbers hr' hr heq]
        exact ⟨of_decide_eq_true hmark, rfl⟩

lemma save_call {h : AccessRow} {rows : List DnsRow} {marks place : List RemoteRecord}
    {revision : Nat} {record : TrackedRecord}
    (hr : ∃ r ∈ marks, r.id = record.recordId ∧ r.type = record.type) :
    Triple (contract S) (.reconcile h.id n) (View S n h rows marks place)
      (call (.saveRecord h.id revision record)).run
      (Exits
        (fun b w => b = false ∧ View S n h rows marks place w ∨
          b = true ∧ View S n h (trackedRows h.id record rows) marks place w)
        fun e w => e.isExplicitNotFound = false ∧ (View S n h rows marks place w ∨
          View S n h (trackedRows h.id record rows) marks place w)) := by
  have hv := stable_view (S := S) (n := n) h rows marks place
  have hv' := stable_view (S := S) (n := n) h (trackedRows h.id record rows) marks place
  refine exits_call hv (fun _ => ((stable_const _).and hv).or ((stable_const _).and hv'))
    (fun _ => (stable_const _).and (hv.or hv')) (fun _ _ _ => trivial)
    (fun w ch hi hp => ⟨(save_step hi hp hr rfl).1, (save_step hi hp hr rfl).2.1⟩)
    (fun w ch hi hp _ => ?_)
    (fun w ch e hi hp _ he => ⟨⟨lost_not_found he, Or.inl hp⟩, lost_not_found he, ?_⟩)
  · change Exits _ _ (w.store (saveDomainAccessDnsRecord w.db h.id revision record)).1
      (w.store (saveDomainAccessDnsRecord w.db h.id revision record)).2
    rcases (save_step hi hp hr rfl).2.2 with ⟨hans | hans, hafter⟩ | ⟨hans, hafter⟩ <;> rw [hans]
    · exact Or.inl ⟨rfl, hafter⟩
    · exact ⟨rfl, Or.inl hafter⟩
    · exact Or.inr ⟨rfl, hafter⟩
  · exact (save_step hi hp hr rfl).2.2.imp (·.2) (·.2)

lemma mark_call {h : AccessRow} {rows : List DnsRow} {marks place : List RemoteRecord}
    {revision k : Nat} {status : DnsRowStatus} {lastError : Option String} :
    Triple (contract S) (.reconcile h.id n) (View S n h rows marks place)
      (call (.markRecord h.id revision k status lastError)).run
      (Exits
        (fun b w => b = false ∧ View S n h rows marks place w ∨
          View S n h (mapRow k (markRow status lastError) rows) marks place w)
        fun e w => e.isExplicitNotFound = false ∧ (View S n h rows marks place w ∨
          View S n h (mapRow k (markRow status lastError) rows) marks place w)) := by
  have hv := stable_view (S := S) (n := n) h rows marks place
  have hv' := stable_view (S := S) (n := n) h (mapRow k (markRow status lastError) rows)
    marks place
  have hrun (w : PlaneWorld) (hi : Inv S w) (hp : View S n h rows marks place w) :
      let after := markDomainAccessDnsRecordStatus w.db h.id revision k status lastError
      Inv S { w with db := after.1 } ∧
        (∀ j, j ≠ .reconcile h.id n → Rely S j w { w with db := after.1 }) ∧
        (after.2 = false ∧ View S n h rows marks place { w with db := after.1 } ∨
          View S n h (mapRow k (markRow status lastError) rows) marks place
            { w with db := after.1 }) := by
    intro after
    have hafter : after = (after.1, after.2) := rfl
    rcases markDomainAccessDnsRecordStatus_cases hafter with
      ⟨hb, hdb⟩ | ⟨hstep, hrows, hmem⟩
    · rw [hdb]
      exact ⟨hi, fun j _ => (lawful S).refl j w, Or.inl ⟨hb, hp⟩⟩
    · refine ⟨inv_rows hi hstep fun row hrow => ?_,
        fun j hj => (own_rows hstep).rely hp.holder hj,
        Or.inr (view_rows hp hstep (by rw [hrows, hp.rows]))⟩
      obtain ⟨old, hold, hid, hk, htype⟩ := hmem row hrow
      rw [hid, hk, htype]
      exact hi.rows old hold
  exact exits_call hv (fun _ => ((stable_const _).and hv).or hv')
    (fun _ => (stable_const _).and (hv.or hv')) (fun _ _ _ => trivial)
    (fun w ch hi hp => ⟨(hrun w hi hp).1, (hrun w hi hp).2.1⟩)
    (fun w ch hi hp _ => (hrun w hi hp).2.2)
    (fun w ch e hi hp _ he => ⟨⟨lost_not_found he, Or.inl hp⟩, lost_not_found he,
      (hrun w hi hp).2.2.imp (·.2) id⟩)

/-! ### Listing and creating -/

/-- What a listing of the host name tells. -/
structure Listed (S : Scope) (h : AccessRow) (rows : List DnsRow)
    (marks place l : List RemoteRecord) : Prop where
  zone : ∀ r ∈ l, r.zone = h.deployedZoneIdentifier
  own : ∀ r ∈ l, r.comment = some (ownershipMarker h.id) → r ∈ marks
  complete : S.honest → ∀ r ∈ marks, r ∈ l ∧ isOwn h r ∧ (expected h r.type r.content).isSome
  nodup : (l.map (·.id)).Nodup
  place : S.strict → l = place
  typed : ∀ row ∈ rows, ∀ r ∈ l, r.id = row.recordId → r.type = row.type

lemma mem_placeOf {h : AccessRow} {records : List RemoteRecord} {r : RemoteRecord} :
    r ∈ placeOf h records ↔ r ∈ records ∧ r.zone = h.deployedZoneIdentifier ∧
      lower r.name = lower h.hostname := by
  simp [placeOf]

lemma isOwn_iff {h : AccessRow} {r : RemoteRecord} :
    isOwn h r ↔ r.proxied = h.proxied ∧ r.comment = some (ownershipMarker h.id) := by
  simp [isOwn]

lemma listed_placeOf {h : AccessRow} {rows : List DnsRow} {marks place : List RemoteRecord}
    {w : PlaneWorld} (hi : Inv S w) (hv : View S n h rows marks place w) :
    Listed S h rows marks place (placeOf h w.cloud.records) where
  zone := fun r hr => (mem_placeOf.mp hr).2.1
  own := fun r hr hmark => by
    rw [← hv.marks]
    exact List.mem_filter.mpr ⟨(mem_placeOf.mp hr).1, decide_eq_true hmark⟩
  complete := fun hs r hr => by
    rw [← hv.marks] at hr
    obtain ⟨hr, hmark⟩ := List.mem_filter.mp hr
    obtain ⟨a, ha, hm⟩ := hi.honest hs r hr _ (of_decide_eq_true hmark)
    obtain ⟨b, hb, hl⟩ := hv.later
    obtain rfl := Option.some.inj (ha.symm.trans hb)
    refine ⟨mem_placeOf.mpr ⟨hr, ?_, ?_⟩, isOwn_iff.mpr ⟨?_, of_decide_eq_true hmark⟩, ?_⟩
    · rw [hm.zone, hl.congr AccessRow.deployedZoneIdentifier rfl]
    · rw [hm.name, hl.hostname_eq]
    · rw [hm.proxied, hl.congr AccessRow.proxied rfl]
    · rw [← hl.expected_eq]
      exact hm.wanted
  nodup := hi.numbers.sublist (List.filter_sublist.map _)
  place := hv.place
  typed := fun row hrow r hr hid => by
    rw [← hv.rows] at hrow
    exact ((hi.rows row (List.mem_filter.mp hrow).1).own r (mem_placeOf.mp hr).1 hid).2

lemma list_call {d : Deployment} {rows : List DnsRow} {marks place : List RemoteRecord} :
    Triple (contract S) (.reconcile d.access.id n) (View S n d.access rows marks place)
      (listRemote d).run
      (Exits (fun l w => Listed S d.access rows marks place l ∧
        View S n d.access rows marks place w) fun _ => View S n d.access rows marks place) := by
  refine exits_conseq (exits_quiet rfl
    (φ := fun l => ∃ w : PlaneWorld, Inv S w ∧ View S n d.access rows marks place w ∧
      l = placeOf d.access w.cloud.records)
    (stable_view _ _ _ _) (unmoved_view _ _ _ _) (fun _ _ _ => trivial) ?_)
    (fun _ _ h => h) ?_ fun _ _ _ h => h
  · intro w ch hi hv _ l hl
    exact ⟨w, hi, hv, (Except.ok.inj hl).symm⟩
  · rintro l w - ⟨⟨w', hi, hv, rfl⟩, hw⟩
    exact ⟨listed_placeOf hi hv, hw⟩

lemma sameTarget_self (item : Wanted) : sameTarget item item.1 item.2 := by
  simp [sameTarget]

lemma sameTarget_iff {item : Wanted} {type : DnsType} {content : String} :
    sameTarget item type content ↔ item.1 = type ∧ lower item.2 = lower content := by
  simp [sameTarget]

lemma isWanted_iff {h : AccessRow} {item : Wanted} {r : RemoteRecord} :
    isWanted h item r ↔ (item.1 = r.type ∧ lower item.2 = lower r.content) ∧ isOwn h r := by
  simp [isWanted, sameTarget]

lemma expected_isSome {h : AccessRow} {type : DnsType} {content : String} :
    (expected h type content).isSome ↔ ∃ item ∈ desired h, sameTarget item type content := by
  simp [expected]

lemma expected_type {h : AccessRow} {type : DnsType} {content : String} {item : Wanted}
    (he : expected h type content = some item) : item.1 = type := by
  have hsame : sameTarget item type content := by simpa using List.find?_some he
  exact (sameTarget_iff.mp hsame).1

/-- A record that was just created for a wanted item. -/
structure Created (S : Scope) (h : AccessRow) (item : Wanted) (rows : List DnsRow)
    (place : List RemoteRecord) (r : RemoteRecord) : Prop where
  wanted : isWanted h item r
  untracked : ∀ k ∈ keys rows, k ≠ r.id
  fresh : S.strict → ∀ r' ∈ place, r'.id ≠ r.id

/-- The record a creation adds is its access's own, the first for its item. -/
lemma created_fits {h : AccessRow} {rows : List DnsRow} {marks place : List RemoteRecord}
    {item : Wanted} (hitem : item ∈ desired h)
    (hnew : S.strict → ∀ r ∈ place, ¬isWanted h item r) {w : PlaneWorld} (hi : Inv S w)
    (hv : View S n h rows marks place w) {r : RemoteRecord}
    (hr : r = newRecord w.cloud h.deployedZoneIdentifier item.1 h.hostname item.2 h.proxied
      (ownershipMarker h.id)) :
    Fits S w h.id r ∧ Created S h item rows place r ∧
      View S n h rows (marks ++ [r]) (place ++ [r]) { w with cloud := addRecord w.cloud r } := by
  obtain ⟨a, ha, hl⟩ := hv.later
  have hlisted := listed_placeOf hi hv
  subst hr
  refine ⟨⟨rfl, rfl, ⟨a, ha, Later.made hl ⟨rfl, rfl, rfl, ?_⟩⟩, ?_⟩, ⟨?_, ?_, ?_⟩,
    ⟨hv.holder, hv.later, hv.rows, ?_, ?_⟩⟩
  · exact expected_isSome.mpr ⟨item, hitem, sameTarget_self item⟩
  · intro hs r' hr' htype hcontent
    rw [hv.marks] at hr'
    obtain ⟨hmem, hown, -⟩ := hlisted.complete (S.fair hs) r' hr'
    exact hnew hs r' (hlisted.place hs ▸ hmem)
      (isWanted_iff.mpr ⟨⟨htype.symm, hcontent.symm⟩, hown⟩)
  · exact isWanted_iff.mpr ⟨⟨rfl, rfl⟩, isOwn_iff.mpr ⟨rfl, rfl⟩⟩
  · intro k hk heq
    obtain ⟨row, hrow, hrk⟩ := mem_keys hv.rows hk
    have hlt := (hi.rows row (List.mem_filter.mp hrow).1).given
    rw [hrk, heq] at hlt
    exact Nat.lt_irrefl _ hlt
  · intro hs r' hr' heq
    rw [← hlisted.place hs] at hr'
    have hlt := hi.given r' (mem_placeOf.mp hr').1
    rw [heq] at hlt
    exact Nat.lt_irrefl _ hlt
  · rw [← hv.marks]
    simp [marked, addRecord, newRecord]
  · intro hs
    rw [← hv.place hs]
    simp [placeOf, addRecord, newRecord]

lemma create_call {h : AccessRow} {rows : List DnsRow} {marks place : List RemoteRecord}
    {item : Wanted} (hitem : item ∈ desired h)
    (hnew : S.strict → ∀ r ∈ place, ¬isWanted h item r) :
    Triple (contract S) (.reconcile h.id n) (View S n h rows marks place)
      (call (.createRecord h.deployedZoneIdentifier item.1 h.hostname item.2 h.proxied
        (ownershipMarker h.id))).run
      (Exits
        (fun r w => Created S h item rows place r ∧
          View S n h rows (marks ++ [r]) (place ++ [r]) w)
        fun _ w => View S n h rows marks place w ∨ ∃ r, Created S h item rows place r ∧
          View S n h rows (marks ++ [r]) (place ++ [r]) w) := by
  have hv := stable_view (S := S) (n := n) h rows marks place
  have hv' (r : RemoteRecord) :=
    (stable_const (C := contract S) (i := .reconcile h.id n)
      (Created S h item rows place r)).and (stable_view (n := n) h rows (marks ++ [r]) (place ++ [r]))
  exact exits_call hv hv' (fun _ => hv.or (stable_exists hv')) (fun _ _ _ => trivial)
    (fun w ch hi hp => ⟨inv_create hi (created_fits hitem hnew hi hp rfl).1,
      fun j hj => (own_create hi (created_fits hitem hnew hi hp rfl).1).rely hp.holder hj⟩)
    (fun w ch hi hp _ => (created_fits hitem hnew hi hp rfl).2)
    (fun w ch e hi hp _ _ => ⟨Or.inl hp, Or.inr ⟨_, (created_fits hitem hnew hi hp rfl).2⟩⟩)

end GatewayControl.DnsRuns
