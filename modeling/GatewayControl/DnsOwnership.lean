import GatewayControl.AccessHistory

/-!
What the reconciliations of many domain accesses may rely on about DNS: who owns which
record at Cloudflare, and that nobody else touches an access's records while its lock is
held.

A run is for one access. Its own calls are described by what they do to the tracked rows of
the access, to the records with its marker, and to the records at its host name.
-/

namespace GatewayControl.DnsOwnership

open Database Store Placement Publishing Ingress Cloudflare Calls Reconcile Programs
open ControlPlane AccessHistory

/-! ### Records and their owners -/

/-- A number that has been given out, to a record of this access and type if there is one. -/
structure Owned (cloud : Cloud) (id : String) (recordId : Nat) (type : DnsType) : Prop where
  given : recordId < cloud.nextRecord
  own : ∀ r ∈ cloud.records, r.id = recordId →
    r.comment = some (ownershipMarker id) ∧ r.type = type

/-- A record as the access would have made it, at its place. -/
structure Made (h : AccessRow) (r : RemoteRecord) : Prop where
  zone : r.zone = h.deployedZoneIdentifier
  name : lower r.name = lower h.hostname
  proxied : r.proxied = h.proxied
  wanted : (expected h r.type r.content).isSome

/-- The records at the host name of an access. -/
def placeOf (h : AccessRow) (records : List RemoteRecord) : List RemoteRecord :=
  records.filter fun r =>
    r.zone = h.deployedZoneIdentifier && lower r.name == lower h.hostname

/-- The wanted records of an access are told apart by type and content. -/
def DistinctWanted (h : AccessRow) : Prop :=
  (desired h).Pairwise fun item item' => ¬sameTarget item item'.1 item'.2

structure Plain (h : AccessRow) : Prop where
  hostname : lower h.hostname = h.hostname
  distinct : DistinctWanted h
  tunnel : h.accessMethod = .tunnel → h.deployedTunnelId.isSome

/-! ### The shared invariant -/

/-- What a claim may assume of the world around the runs. -/
structure Scope where
  /-- Only runs mark records. -/
  honest : Prop
  /-- No enabled run starts over a record left for clean-up that still fits, and nobody else
  changes the records at a host name during a run. -/
  strict : Prop
  fair : strict → honest

structure Inv (S : Scope) (w : PlaneWorld) : Prop where
  numbers : (w.cloud.records.map (·.id)).Nodup
  given : ∀ r ∈ w.cloud.records, r.id < w.cloud.nextRecord
  rows : ∀ row ∈ w.db.dnsRows.rows, Owned w.cloud row.accessId row.recordId row.type
  hosts : ∀ id h, w.db.accesses.find? id = some h → ∀ id' h',
    w.db.accesses.find? id' = some h' → lower h.hostname = lower h'.hostname → id = id'
  plain : ∀ id h, w.db.accesses.find? id = some h → Plain h
  routes : PlainHosts w.db.base
  honest : S.honest → ∀ r ∈ w.cloud.records, ∀ id, r.comment = some (ownershipMarker id) →
    ∃ h, w.db.accesses.find? id = some h ∧ Made h r
  single : S.strict → ∀ r ∈ w.cloud.records, ∀ r' ∈ w.cloud.records, ∀ id,
    r.comment = some (ownershipMarker id) → r'.comment = some (ownershipMarker id) →
    r.type = r'.type → lower r.content = lower r'.content → r = r'

/-- What everyone else's steps leave to a run of access `id`. -/
structure RelyOn (S : Scope) (id : String) (i : Slot) (w w' : PlaneWorld) : Prop where
  accesses : ∀ h, w.db.accesses.find? id = some h →
    ∃ h', w'.db.accesses.find? id = some h' ∧ Later h h'
  holder : w.holder (.domainAccess id) = some i → w'.holder (.domainAccess id) = some i
  rows : w.holder (.domainAccess id) = some i →
    ownedDnsRecords w'.db id = ownedDnsRecords w.db id
  marks : w.holder (.domainAccess id) = some i →
    marked w'.cloud.records id = marked w.cloud.records id
  place : S.strict → w.holder (.domainAccess id) = some i →
    ∀ h, w.db.accesses.find? id = some h →
      placeOf h w'.cloud.records = placeOf h w.cloud.records

def Rely (S : Scope) : Slot → PlaneWorld → PlaneWorld → Prop
  | .reconcile id n => RelyOn S id (.reconcile id n)
  | .tick _ => fun _ _ => True

/-! ### What the runs must keep -/

/-- A number the access may have deleted: a tracked one, or one of a record with its marker. -/
def Deletable (w : PlaneWorld) (id : String) (recordId : Nat) : Prop :=
  (∃ row ∈ ownedDnsRecords w.db id, row.recordId = recordId) ∨
    ∃ r ∈ marked w.cloud.records id, r.id = recordId

/-- Nothing of the access is left. -/
structure Withdrawn (S : Scope) (w : PlaneWorld) (id : String) : Prop where
  rows : ∀ row ∈ ownedDnsRecords w.db id, row.status = .deleted
  records : S.honest → marked w.cloud.records id = []

def isWantedType (h : AccessRow) (type : DnsType) : Bool := (desired h).any (·.1 == type)

/-- The records of the wanted types are the wanted ones, and the tracked ones. -/
structure Settled (h : AccessRow) (rows : List DnsRow) (place : List RemoteRecord) : Prop where
  wanted : ∀ r ∈ place, isWantedType h r.type → isOwn h r ∧
    (expected h r.type r.content).isSome ∧
      ∃ row ∈ rows, row.recordId = r.id ∧ row.type = r.type ∧ row.status = .active
  present : ∀ item ∈ desired h, ∃ r ∈ place, isWanted h item r
  tracked : ∀ row ∈ rows, row.status ≠ .deleted → row.status = .active ∧
    ∃ r ∈ place, r.id = row.recordId ∧ r.type = row.type ∧ isWantedType h r.type
  single : ∀ r ∈ place, ∀ r' ∈ place, isWantedType h r.type → r.type = r'.type →
    lower r.content = lower r'.content → r = r'

/-- No row left for clean-up tracks a record that is still as it should be. -/
def NoLeftover (w : PlaneWorld) (id : String) : Prop :=
  ∀ h, w.db.accesses.find? id = some h → h.enabled →
    ∀ row ∈ ownedDnsRecords w.db id, row.status = .cleanupPending →
      ∀ r ∈ placeOf h w.cloud.records, r.id = row.recordId →
        ¬((expected h row.type row.content).isSome ∧ lower r.content = lower row.content ∧
          isOwn h r)

def allowed (S : Scope) : Slot → PlaneWorld → Call → Prop
  | .reconcile id _, w, .deleteRecord _ recordId => Deletable w id recordId
  | .reconcile id _, w, .outcome id' revision status _ =>
      id' = id ∧ ∀ h, atRevision w.db id revision = some h →
        match status with
        | .disabled => Withdrawn S w id
        | .active | .pending => S.strict →
            Settled h (ownedDnsRecords w.db id) (placeOf h w.cloud.records)
        | .failed => True
  | .tick _, _, .deleteRecord _ _ => False
  | _, _, _ => True

/-- The calls a scope leaves out. -/
def Scope.step (S : Scope) (w : PlaneWorld) : Call → Prop
  | .deployment id => S.strict → NoLeftover w id
  | _ => True

/-- The acts a scope leaves out. -/
def Scope.foreign (S : Scope) (w : PlaneWorld) : Act → Prop
  | .records edited _ => S.strict → ∀ id h i, w.db.accesses.find? id = some h →
      w.holder (.domainAccess id) = some i → placeOf h edited = placeOf h w.cloud.records
  | _ => True

def contract (S : Scope) : Contract Plane PlaneWorld Slot where
  exec := fun i w c r w' => Call.exec i w c r w' ∧ S.step w c
  inv := Inv S
  rely := Rely S
  allowed := allowed S

/-! ### The relies compose -/

lemma Later.placeOf_eq {h h' : AccessRow} (l : Later h h') : placeOf h' = placeOf h :=
  l.congr placeOf rfl

lemma Later.made {h h' : AccessRow} (l : Later h h') {r : RemoteRecord} (hm : Made h r) :
    Made h' r := by
  refine ⟨?_, ?_, ?_, ?_⟩
  · rw [hm.zone, l.congr AccessRow.deployedZoneIdentifier rfl]
  · rw [l.hostname_eq, hm.name]
  · rw [hm.proxied, l.congr AccessRow.proxied rfl]
  · rw [l.expected_eq]
    exact hm.wanted

lemma Later.plain {h h' : AccessRow} (l : Later h h') (hp : Plain h) : Plain h' := by
  refine ⟨?_, ?_, ?_⟩
  · rw [l.hostname_eq]
    exact hp.hostname
  · rw [DistinctWanted, l.desired_eq]
    exact hp.distinct
  · rw [l.method_eq, l.congr AccessRow.deployedTunnelId rfl]
    exact hp.tunnel

lemma RelyOn.refl {S : Scope} (id : String) (i : Slot) (w : PlaneWorld) :
    RelyOn S id i w w where
  accesses := fun h hh => ⟨h, hh, .refl h⟩
  holder := fun h => h
  rows := fun _ => rfl
  marks := fun _ => rfl
  place := fun _ _ _ _ => rfl

lemma RelyOn.trans {S : Scope} {id : String} {i : Slot} {u v w : PlaneWorld}
    (h : RelyOn S id i u v) (h' : RelyOn S id i v w) : RelyOn S id i u w where
  accesses := by
    intro a ha
    obtain ⟨b, hb, hab⟩ := h.accesses a ha
    obtain ⟨c, hc, hbc⟩ := h'.accesses b hb
    exact ⟨c, hc, hab.trans hbc⟩
  holder := fun hold => h'.holder (h.holder hold)
  rows := fun hold => (h'.rows (h.holder hold)).trans (h.rows hold)
  marks := fun hold => (h'.marks (h.holder hold)).trans (h.marks hold)
  place := by
    intro hs hold a ha
    obtain ⟨b, hb, hab⟩ := h.accesses a ha
    have hlater := h'.place hs (h.holder hold) b hb
    rw [Later.placeOf_eq hab] at hlater
    exact hlater.trans (h.place hs hold a ha)

lemma lawful (S : Scope) : (contract S).Lawful where
  refl := by
    rintro (⟨id, n⟩ | n) w
    · exact RelyOn.refl id _ w
    · trivial
  trans := by
    rintro (⟨id, n⟩ | n) u v w h h'
    · exact RelyOn.trans h h'
    · trivial

/-! ### Steps that leave DNS alone -/

/-- Nothing of the tracked rows or the remote records changes, and no access but in what it
may. -/
structure Quiet (w w' : PlaneWorld) : Prop where
  accesses : Evolves w.db w'.db
  dnsRows : w'.db.dnsRows = w.db.dnsRows
  records : w'.cloud.records = w.cloud.records
  next : w'.cloud.nextRecord = w.cloud.nextRecord
  routes : PlainHosts w.db.base → PlainHosts w'.db.base

lemma Quiet.rfl {w : PlaneWorld} : Quiet w w :=
  ⟨evolves_same (Eq.refl _), Eq.refl _, Eq.refl _, Eq.refl _, fun h => h⟩

lemma Quiet.inv {S : Scope} {w w' : PlaneWorld} (q : Quiet w w') (h : Inv S w) :
    Inv S w' where
  numbers := by rw [q.records]; exact h.numbers
  given := by rw [q.records, q.next]; exact h.given
  rows := by
    intro row hrow
    rw [q.dnsRows] at hrow
    obtain ⟨hgiven, hown⟩ := h.rows row hrow
    exact ⟨by rw [q.next]; exact hgiven, by rw [q.records]; exact hown⟩
  hosts := by
    intro id a ha id' a' ha' heq
    obtain ⟨b, hb, hab⟩ := q.accesses.back id a ha
    obtain ⟨b', hb', hab'⟩ := q.accesses.back id' a' ha'
    rw [hab.hostname_eq, hab'.hostname_eq] at heq
    exact h.hosts id b hb id' b' hb' heq
  plain := by
    intro id a ha
    obtain ⟨b, hb, hab⟩ := q.accesses.back id a ha
    exact Later.plain hab (h.plain id b hb)
  routes := q.routes h.routes
  honest := by
    intro hs r hr id hid
    rw [q.records] at hr
    obtain ⟨a, ha, hm⟩ := h.honest hs r hr id hid
    obtain ⟨b, hb, hab⟩ := q.accesses.forth id a ha
    exact ⟨b, hb, Later.made hab hm⟩
  single := by rw [q.records]; exact h.single

lemma Quiet.owned_eq {w w' : PlaneWorld} (q : Quiet w w') (id : String) :
    ownedDnsRecords w'.db id = ownedDnsRecords w.db id := by
  rw [ownedDnsRecords, ownedDnsRecords, q.dnsRows]

lemma Quiet.rely {S : Scope} {w w' : PlaneWorld} (q : Quiet w w') {j : Slot}
    (hj : ∀ key, w.holder key = some j → w'.holder key = some j) : Rely S j w w' := by
  cases j with
  | tick n => trivial
  | reconcile id n =>
    exact {
      accesses := fun h hh => q.accesses.forth id h hh
      holder := hj _
      rows := fun _ => q.owned_eq id
      marks := fun _ => by rw [q.records]
      place := fun _ _ _ _ => by rw [q.records] }

/-! ### Steps of a run of one access -/

/-- What a step of a run of access `id` leaves to the others. -/
structure Own (S : Scope) (id : String) (w w' : PlaneWorld) : Prop where
  accesses : w'.db.accesses = w.db.accesses
  holder : w'.holder = w.holder
  rows : ∀ id', id' ≠ id → ownedDnsRecords w'.db id' = ownedDnsRecords w.db id'
  marks : ∀ id', id' ≠ id → marked w'.cloud.records id' = marked w.cloud.records id'
  place : S.strict → ∀ id', id' ≠ id → ∀ h, w.db.accesses.find? id' = some h →
    placeOf h w'.cloud.records = placeOf h w.cloud.records

lemma Own.rely {S : Scope} {id : String} {w w' : PlaneWorld} {i j : Slot}
    (o : Own S id w w') (hi : w.holder (.domainAccess id) = some i) (hj : j ≠ i) :
    Rely S j w w' := by
  cases j with
  | tick n => trivial
  | reconcile id' n =>
    have hne : w.holder (.domainAccess id') = some (.reconcile id' n) → id' ≠ id := by
      rintro hold rfl
      exact hj (Option.some.inj (hold.symm.trans hi))
    exact {
      accesses := fun h hh => ⟨h, by rw [o.accesses]; exact hh, .refl h⟩
      holder := fun hold => by rw [o.holder]; exact hold
      rows := fun hold => o.rows id' (hne hold)
      marks := fun hold => o.marks id' (hne hold)
      place := fun hs hold => o.place hs id' (hne hold) }

lemma marker_injective {id id' : String} (h : ownershipMarker id = ownershipMarker id') :
    id = id' := by
  unfold ownershipMarker at h
  exact (String.append_right_inj _).mp h

/-- A marked record is at its access's host name, and at no other's. -/
lemma Inv.at_host {S : Scope} {w : PlaneWorld} (h : Inv S w) (hs : S.honest)
    {r : RemoteRecord} (hr : r ∈ w.cloud.records) {id id' : String}
    (hid : r.comment = some (ownershipMarker id)) {h' : AccessRow}
    (hh' : w.db.accesses.find? id' = some h') (hp : r ∈ placeOf h' w.cloud.records) :
    id = id' := by
  obtain ⟨a, ha, hm⟩ := h.honest hs r hr id hid
  have hname : lower r.name = lower h'.hostname := by
    have := (List.mem_filter.mp hp).2
    simp only [Bool.and_eq_true, beq_iff_eq] at this
    exact this.2
  exact h.hosts id a ha id' h' hh' (hm.name.symm.trans hname)

/-- Fewer records, and the same database. -/
lemma inv_fewer {S : Scope} {w : PlaneWorld} {records : List RemoteRecord} (h : Inv S w)
    (hsub : records.Sublist w.cloud.records) :
    Inv S { w with cloud := { w.cloud with records } } where
  numbers := h.numbers.sublist (hsub.map _)
  given := fun r hr => h.given r (hsub.subset hr)
  rows := fun row hrow =>
    ⟨(h.rows row hrow).given, fun r hr => (h.rows row hrow).own r (hsub.subset hr)⟩
  hosts := h.hosts
  plain := h.plain
  routes := h.routes
  honest := fun hs r hr => h.honest hs r (hsub.subset hr)
  single := fun hs r hr r' hr' => h.single hs r (hsub.subset hr) r' (hsub.subset hr')

/-! ### Deleting a record -/

def dropped (zone : String) (n : Nat) (records : List RemoteRecord) : List RemoteRecord :=
  records.filter fun r => !(r.zone = zone && r.id = n)

lemma deleteDnsRecord_cloud (cloud : Cloud) (zone : String) (n : Nat) :
    (deleteDnsRecord cloud zone n).2 =
      { cloud with records := dropped zone n cloud.records } := by
  unfold deleteDnsRecord
  split_ifs with hany
  · rfl
  · have hself : dropped zone n cloud.records = cloud.records := by
      refine List.filter_eq_self.mpr fun r hr => ?_
      simp only [Bool.not_eq_true', Bool.not_eq_true, List.any_eq_false] at hany ⊢
      simpa using hany r hr
    rw [hself]

lemma filter_dropped {zone : String} {n : Nat} {records : List RemoteRecord}
    {p : RemoteRecord → Bool} (hp : ∀ r ∈ records, p r → r.id ≠ n) :
    (dropped zone n records).filter p = records.filter p := by
  unfold dropped
  rw [List.filter_filter]
  refine List.filter_congr fun r hr => ?_
  by_cases h : p r
  · simp [h, hp r hr h]
  · simp [h]

lemma Deletable.own {S : Scope} {w : PlaneWorld} {id : String} {n : Nat}
    (hd : Deletable w id n) (h : Inv S w) :
    ∀ r ∈ w.cloud.records, r.id = n → r.comment = some (ownershipMarker id) := by
  intro r hr hn
  rcases hd with ⟨row, hrow, hrown⟩ | ⟨r', hr', hrn'⟩
  · obtain ⟨hmem, hid⟩ := List.mem_filter.mp hrow
    have hown := (h.rows row hmem).own r hr (hn.trans hrown.symm)
    rw [hown.1, of_decide_eq_true hid]
  · obtain ⟨hmem, hmark⟩ := List.mem_filter.mp hr'
    have heq : r = r' :=
      List.inj_on_of_nodup_map h.numbers hr hmem (hn.trans hrn'.symm)
    rw [heq]
    exact of_decide_eq_true hmark

/-- **Step lemma.** Deleting what an access may have deleted. -/
lemma own_delete {S : Scope} {w : PlaneWorld} {id : String} {n : Nat} (h : Inv S w)
    (hd : Deletable w id n) (zone : String) :
    Own S id w { w with cloud := (deleteDnsRecord w.cloud zone n).2 } := by
  have hown := hd.own h
  rw [deleteDnsRecord_cloud]
  refine ⟨rfl, rfl, fun _ _ => rfl, fun id' hne => ?_, fun hs id' hne h' hh' => ?_⟩
  · refine filter_dropped fun r hr hmark hn => hne ?_
    have hcomment := of_decide_eq_true hmark
    rw [hown r hr hn] at hcomment
    exact (marker_injective (Option.some.inj hcomment)).symm
  · refine filter_dropped fun r hr hplace hn => hne ?_
    exact (h.at_host (S.fair hs) hr (hown r hr hn) hh' (List.mem_filter.mpr ⟨hr, hplace⟩)).symm

lemma inv_delete {S : Scope} {w : PlaneWorld} (h : Inv S w) (zone : String) (n : Nat) :
    Inv S { w with cloud := (deleteDnsRecord w.cloud zone n).2 } := by
  rw [deleteDnsRecord_cloud]
  exact inv_fewer h List.filter_sublist

/-! ### Creating a record -/

/-- A new record that its access wants and does not have yet. -/
structure Fits (S : Scope) (w : PlaneWorld) (id : String) (r : RemoteRecord) : Prop where
  number : r.id = w.cloud.nextRecord
  comment : r.comment = some (ownershipMarker id)
  made : ∃ h, w.db.accesses.find? id = some h ∧ Made h r
  single : S.strict → ∀ r' ∈ marked w.cloud.records id, r'.type = r.type →
    lower r'.content ≠ lower r.content

lemma own_create {S : Scope} {w : PlaneWorld} {id : String} {r : RemoteRecord}
    (h : Inv S w) (hf : Fits S w id r) :
    Own S id w { w with cloud := addRecord w.cloud r } := by
  refine ⟨rfl, rfl, fun _ _ => rfl, fun id' hne => ?_, fun _ id' hne h' hh' => ?_⟩
  · have hmark : r.comment ≠ some (ownershipMarker id') := by
      rw [hf.comment]
      intro heq
      exact hne (marker_injective (Option.some.inj heq)).symm
    simp [marked, addRecord, hmark]
  · obtain ⟨a, ha, hm⟩ := hf.made
    have hname : lower r.name ≠ lower h'.hostname := by
      rw [hm.name]
      intro heq
      exact hne (h.hosts id a ha id' h' hh' heq).symm
    simp [placeOf, addRecord, hname]

lemma inv_create {S : Scope} {w : PlaneWorld} {id : String} {r : RemoteRecord}
    (h : Inv S w) (hf : Fits S w id r) :
    Inv S { w with cloud := addRecord w.cloud r } where
  numbers := by
    simp only [addRecord, List.map_append, List.map_singleton]
    refine List.nodup_append.mpr ⟨h.numbers, List.nodup_singleton _, ?_⟩
    intro n hn n' hn' heq
    obtain ⟨r', hr', rfl⟩ := List.mem_map.mp hn
    have hlt := h.given r' hr'
    rw [heq, List.mem_singleton.mp hn', hf.number] at hlt
    exact Nat.lt_irrefl _ hlt
  given := by
    intro r' hr'
    rcases List.mem_append.mp hr' with hr' | hr'
    · exact Nat.lt_succ_of_lt (h.given r' hr')
    · rw [List.mem_singleton.mp hr', hf.number]
      exact Nat.lt_succ_self _
  rows := by
    intro row hrow
    obtain ⟨hgiven, hown⟩ := h.rows row hrow
    refine ⟨Nat.lt_succ_of_lt hgiven, fun r' hr' hid => ?_⟩
    rcases List.mem_append.mp hr' with hr' | hr'
    · exact hown r' hr' hid
    · rw [List.mem_singleton.mp hr', hf.number] at hid
      exact absurd hid.symm (Nat.ne_of_lt hgiven)
  hosts := h.hosts
  plain := h.plain
  routes := h.routes
  honest := by
    intro hs r' hr' id' hid'
    rcases List.mem_append.mp hr' with hr' | hr'
    · exact h.honest hs r' hr' id' hid'
    · rw [List.mem_singleton.mp hr'] at hid' ⊢
      rw [hf.comment] at hid'
      rw [← marker_injective (Option.some.inj hid')]
      exact hf.made
  single := by
    intro hs r₁ hr₁ r₂ hr₂ id' hid₁ hid₂ htype hcontent
    have hmarked {r' : RemoteRecord} (hr' : r' ∈ w.cloud.records)
        (hid' : r'.comment = some (ownershipMarker id'))
        (hid : r.comment = some (ownershipMarker id')) :
        r' ∈ marked w.cloud.records id := by
      rw [hf.comment] at hid
      rw [← hid] at hid'
      exact List.mem_filter.mpr ⟨hr', decide_eq_true hid'⟩
    rcases List.mem_append.mp hr₁ with hold₁ | hnew₁ <;>
      rcases List.mem_append.mp hr₂ with hold₂ | hnew₂
    · exact h.single hs r₁ hold₁ r₂ hold₂ id' hid₁ hid₂ htype hcontent
    · obtain rfl := List.mem_singleton.mp hnew₂
      exact absurd hcontent (hf.single hs r₁ (hmarked hold₁ hid₁ hid₂) htype)
    · obtain rfl := List.mem_singleton.mp hnew₁
      exact absurd hcontent.symm (hf.single hs r₂ (hmarked hold₂ hid₂ hid₁) htype.symm)
    · rw [List.mem_singleton.mp hnew₁, List.mem_singleton.mp hnew₂]

/-! ### Tracking and marking records -/

/-- The rows after a change of the one with number `n`. -/
def mapRow (n : Nat) (f : DnsRow → DnsRow) (rows : List DnsRow) : List DnsRow :=
  rows.map fun row => if row.recordId = n then f row else row

/-- The rows after a record has been tracked. -/
def trackedRows (id : String) (record : TrackedRecord) (rows : List DnsRow) : List DnsRow :=
  if rows.any (·.recordId = record.recordId) then
    mapRow record.recordId (trackRow record) rows
  else rows ++
    [{ accessId := id, type := record.type, content := record.content,
       recordId := record.recordId, ownershipMarker := record.ownershipMarker }]

lemma owned_updateDnsRow (db : PublishDb) (id : String) (n : Nat) (f : DnsRow → DnsRow)
    (hf : ∀ r, (f r).key = r.key) (id' : String) :
    ownedDnsRecords (updateDnsRow db (id, n) f hf) id' =
      if id' = id then mapRow n f (ownedDnsRecords db id') else ownedDnsRecords db id' := by
  have haccess (r : DnsRow) : (f r).accessId = r.accessId := congrArg Prod.fst (hf r)
  have hfilter : ownedDnsRecords (updateDnsRow db (id, n) f hf) id' =
      (ownedDnsRecords db id').map fun r => if r.key = (id, n) then f r else r := by
    unfold ownedDnsRecords updateDnsRow Table.update
    dsimp only
    rw [List.filter_map]
    have hcomp : ((fun r : DnsRow => decide (r.accessId = id')) ∘
        fun r => if decide (r.key = (id, n)) then f r else r) =
        fun r => decide (r.accessId = id') := by
      funext r
      by_cases hr : r.key = (id, n) <;> simp [hr, haccess]
    rw [hcomp]
    simp
  rw [hfilter]
  by_cases hid : id' = id
  · rw [if_pos hid]
    refine List.map_congr_left fun r hr => ?_
    have hr' : r.accessId = id := (of_decide_eq_true (List.mem_filter.mp hr).2).trans hid
    simp [DnsRow.key, hr']
  · rw [if_neg hid]
    refine (List.map_congr_left fun r hr => ?_).trans (List.map_id _)
    have hr' : r.accessId ≠ id := fun heq =>
      hid ((of_decide_eq_true (List.mem_filter.mp hr).2).symm.trans heq)
    simp [DnsRow.key, hr']

/-- What a change of the tracked rows of one access keeps. -/
structure RowStep (id : String) (db db' : PublishDb) : Prop where
  accesses : db'.accesses = db.accesses
  base : db'.base = db.base
  others : ∀ id', id' ≠ id → ownedDnsRecords db' id' = ownedDnsRecords db id'

lemma rowStep_update (db : PublishDb) (id : String) (n : Nat) (f : DnsRow → DnsRow)
    (hf : ∀ r, (f r).key = r.key) : RowStep id db (updateDnsRow db (id, n) f hf) :=
  ⟨rfl, rfl, fun id' hne => by rw [owned_updateDnsRow, if_neg hne]⟩

lemma any_recordId {db : PublishDb} {id : String} {n : Nat} :
    (ownedDnsRecords db id).any (·.recordId = n) ↔ (db.dnsRows.find? (id, n)).isSome := by
  rw [List.any_eq_true, Option.isSome_iff_exists]
  constructor
  · rintro ⟨row, hrow, hn⟩
    obtain ⟨hmem, hid⟩ := List.mem_filter.mp hrow
    have hkey : row.key = (id, n) :=
      Prod.ext (of_decide_eq_true hid) (of_decide_eq_true hn)
    exact ⟨row, hkey ▸ Table.find?_of_mem hmem⟩
  · rintro ⟨row, hrow⟩
    have hkey : row.key = (id, n) := Table.key_find? hrow
    obtain ⟨hid, hn⟩ := Prod.mk.inj hkey
    exact ⟨row, List.mem_filter.mpr ⟨Table.mem_of_find? hrow, by simpa using hid⟩,
      by simpa using hn⟩

/-- **Inversion.** What tracking a record can do. -/
lemma saveDomainAccessDnsRecord_some {db db' : PublishDb} {id : String} {revision : Nat}
    {record : TrackedRecord} {b : Bool}
    (h : saveDomainAccessDnsRecord db id revision record = some (db', b)) :
    b = false ∧ db' = db ∨
      b = true ∧ RowStep id db db' ∧
        ownedDnsRecords db' id = trackedRows id record (ownedDnsRecords db id) ∧
        ∀ row ∈ db'.dnsRows.rows, row ∈ db.dnsRows.rows ∨ row.accessId = id ∧
          row.recordId = record.recordId ∧ row.type = record.type := by
  unfold saveDomainAccessDnsRecord at h
  split at h
  · cases h
    exact Or.inl ⟨rfl, rfl⟩
  · split at h
    · rename_i hfound
      cases h
      refine Or.inr ⟨rfl, rowStep_update .., ?_, fun row hrow => ?_⟩
      · refine (owned_updateDnsRow db id _ (trackRow record) (fun _ => rfl) id).trans ?_
        rw [if_pos rfl, trackedRows, if_pos (any_recordId.mpr hfound)]
      · obtain ⟨old, hold, rfl⟩ := List.mem_map.mp hrow
        by_cases hkey : old.key = (id, record.recordId)
        · rw [if_pos (by simpa using hkey)]
          obtain ⟨hid, hn⟩ := Prod.mk.inj hkey
          exact Or.inr ⟨hid, hn, rfl⟩
        · rw [if_neg (by simpa using hkey)]
          exact Or.inl hold
    · rename_i hfound
      split at h
      · cases h
      · obtain ⟨dnsRows, hinsert, h⟩ := Option.bind_eq_some_iff.mp h
        cases h
        have hrows : dnsRows.rows = db.dnsRows.rows ++
            [{ accessId := id, type := record.type, content := record.content,
               recordId := record.recordId, ownershipMarker := record.ownershipMarker }] := by
          unfold Table.insert? at hinsert
          split at hinsert
          · cases hinsert
          · obtain rfl := Option.some.inj hinsert
            rfl
        refine Or.inr ⟨rfl, ⟨rfl, rfl, fun id' hne => ?_⟩, ?_, fun row hrow => ?_⟩
        · simp [ownedDnsRecords, hrows, Ne.symm hne]
        · have hany := mt any_recordId.mp hfound
          rw [trackedRows, if_neg hany]
          simp [ownedDnsRecords, hrows]
        · simp only [hrows] at hrow
          rcases List.mem_append.mp hrow with hrow | hrow
          · exact Or.inl hrow
          · rw [List.mem_singleton.mp hrow]
            exact Or.inr ⟨rfl, rfl, rfl⟩

/-- **Inversion.** What marking a tracked record can do. -/
lemma markDomainAccessDnsRecordStatus_cases {db db' : PublishDb} {id : String}
    {revision n : Nat} {status : DnsRowStatus} {lastError : Option String} {b : Bool}
    (h : markDomainAccessDnsRecordStatus db id revision n status lastError = (db', b)) :
    b = false ∧ db' = db ∨
      RowStep id db db' ∧
        ownedDnsRecords db' id = mapRow n (markRow status lastError) (ownedDnsRecords db id) ∧
        ∀ row ∈ db'.dnsRows.rows, ∃ old ∈ db.dnsRows.rows,
          row.accessId = old.accessId ∧ row.recordId = old.recordId ∧ row.type = old.type := by
  unfold markDomainAccessDnsRecordStatus at h
  split at h
  · cases h
    exact Or.inl ⟨rfl, rfl⟩
  · cases h
    refine Or.inr ⟨rowStep_update .., ?_, fun row hrow => ?_⟩
    · refine (owned_updateDnsRow db id n (markRow status lastError) (fun _ => rfl) id).trans ?_
      rw [if_pos rfl]
    · obtain ⟨old, hold, rfl⟩ := List.mem_map.mp hrow
      refine ⟨old, hold, ?_⟩
      by_cases hkey : old.key = (id, n) <;> simp [hkey, markRow]

lemma own_rows {S : Scope} {w : PlaneWorld} {id : String} {db : PublishDb}
    (hstep : RowStep id w.db db) : Own S id w { w with db } :=
  ⟨hstep.accesses, rfl, hstep.others, fun _ _ => rfl, fun _ _ _ _ _ => rfl⟩

lemma inv_rows {S : Scope} {w : PlaneWorld} {id : String} {db : PublishDb} (h : Inv S w)
    (hstep : RowStep id w.db db)
    (hrows : ∀ row ∈ db.dnsRows.rows, Owned w.cloud row.accessId row.recordId row.type) :
    Inv S { w with db } where
  numbers := h.numbers
  given := h.given
  rows := hrows
  hosts := by rw [hstep.accesses]; exact h.hosts
  plain := by rw [hstep.accesses]; exact h.plain
  routes := by rw [hstep.base]; exact h.routes
  honest := by rw [hstep.accesses]; exact h.honest
  single := h.single

end GatewayControl.DnsOwnership
