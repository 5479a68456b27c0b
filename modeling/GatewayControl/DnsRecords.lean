import GatewayControl.DnsReconcile

/-!
The tracked rows of an enabled access beside the records at its host name: what adoption,
pruning and creation each make of the two.
-/

namespace GatewayControl.DnsRecords

open Publishing Cloudflare Reconcile DnsOwnership DnsRuns DnsReconcile

/-! ### Live rows -/

/-- What an enabled run goes by in a tracked row. -/
def core (row : DnsRow) : Nat × DnsType × String × DnsRowStatus :=
  (row.recordId, row.type, row.content, row.status)

def Live (rows : List DnsRow) (c : Nat × DnsType × String × DnsRowStatus) : Prop :=
  ∃ row ∈ rows, row.status ≠ .deleted ∧ core row = c

/-- What tracking a record adds. -/
def newCore (record : TrackedRecord) : Nat × DnsType × String × DnsRowStatus :=
  (record.recordId, record.type, record.content, .active)

lemma live_tracked {id : String} {record : TrackedRecord} {rows : List DnsRow}
    (hdead : ∀ row ∈ rows, row.recordId = record.recordId → row.status = .deleted)
    (c : Nat × DnsType × String × DnsRowStatus) :
    Live (trackedRows id record rows) c ↔ Live rows c ∨ c = newCore record := by
  have hne {row : DnsRow} (hrow : row ∈ rows) (hs : row.status ≠ .deleted) :
      row.recordId ≠ record.recordId := fun heq => hs (hdead row hrow heq)
  unfold trackedRows
  split_ifs with hany
  · constructor
    · rintro ⟨row, hrow, hs, rfl⟩
      obtain ⟨old, hold, rfl⟩ := List.mem_map.mp hrow
      by_cases hk : old.recordId = record.recordId
      · right
        simp [hk, core, trackRow, newCore]
      · rw [if_neg hk] at hs ⊢
        exact Or.inl ⟨old, hold, hs, rfl⟩
    · rintro (⟨row, hrow, hs, rfl⟩ | rfl)
      · exact ⟨row, List.mem_map.mpr ⟨row, hrow, if_neg (hne hrow hs)⟩, hs, rfl⟩
      · obtain ⟨row, hrow, hk⟩ := List.any_eq_true.mp hany
        have hk := of_decide_eq_true hk
        refine ⟨trackRow record row, List.mem_map.mpr ⟨row, hrow, if_pos hk⟩, ?_, ?_⟩
        · simp [trackRow]
        · simp [core, trackRow, newCore, hk]
  · constructor
    · rintro ⟨row, hrow, hs, rfl⟩
      rcases List.mem_append.mp hrow with hrow | hrow
      · exact Or.inl ⟨row, hrow, hs, rfl⟩
      · rw [List.mem_singleton.mp hrow]
        exact Or.inr rfl
    · rintro (⟨row, hrow, hs, rfl⟩ | rfl)
      · exact ⟨row, List.mem_append_left _ hrow, hs, rfl⟩
      · exact ⟨_, List.mem_append_right _ List.mem_cons_self, by simp, rfl⟩

lemma live_deleted {k : Nat} {rows : List DnsRow}
    (c : Nat × DnsType × String × DnsRowStatus) :
    Live (deletedRows k rows) c ↔ Live rows c ∧ c.1 ≠ k := by
  constructor
  · rintro ⟨row, hrow, hs, rfl⟩
    obtain ⟨hold, hk⟩ := (mem_deletedRows hrow).resolve_left hs
    exact ⟨⟨row, hold, hs, rfl⟩, hk⟩
  · rintro ⟨⟨row, hrow, hs, rfl⟩, hk⟩
    exact ⟨row, List.mem_map.mpr ⟨row, hrow, if_neg hk⟩, hs, rfl⟩

lemma mem_keys_of_core {owned : List DnsRow} {row : DnsRow}
    (h : core row ∈ owned.map core) : row.recordId ∈ keys owned := by
  obtain ⟨record, hrecord, heq⟩ := List.mem_map.mp h
  exact List.mem_map.mpr ⟨record, hrecord, congrArg Prod.fst heq⟩

/-! ### Adoption -/

variable {d : Deployment} {remote : List RemoteRecord}

/-- The run's list of tracked records is that of the live rows, and none of those left for
clean-up stays. -/
structure Mirror (d : Deployment) (remote : List RemoteRecord) (owned rows : List DnsRow) :
    Prop where
  live : ∀ c, c ∈ owned.map core ↔ Live rows c
  nodup : (keys owned).Nodup
  fine : ∀ record ∈ owned, record.status = .active ∨ ¬stays d remote record
  typed : ∀ record ∈ owned, ∀ r ∈ remote, r.id = record.recordId → r.type = record.type

/-- The tracked record an adoption adds to the list. -/
def adopted (d : Deployment) (item : Wanted) (r : RemoteRecord) : DnsRow :=
  { accessId := d.access.id, type := item.1, content := item.2, recordId := r.id,
    ownershipMarker := ownershipMarker d.access.id }

lemma Mirror.adopt {owned rows : List DnsRow} (h : Mirror d remote owned rows)
    (hids : (remote.map (·.id)).Nodup) {r : RemoteRecord} (hr : r ∈ remote) {item : Wanted}
    (hitem : item.1 = r.type) (hnew : ¬owned.any (·.recordId = r.id)) :
    Mirror d remote (owned ++ [adopted d item r])
      (trackedRows d.access.id (tracked d item r.id) rows) := by
  have hfresh : r.id ∉ keys owned := by
    intro hmem
    obtain ⟨record, hrecord, hk⟩ := List.mem_map.mp hmem
    exact hnew (List.any_eq_true.mpr ⟨record, hrecord, decide_eq_true hk⟩)
  have hdead : ∀ row ∈ rows, row.recordId = (tracked d item r.id).recordId →
      row.status = .deleted := by
    intro row hrow hk
    by_contra hs
    refine hfresh ?_
    have hmem := mem_keys_of_core ((h.live _).mpr ⟨row, hrow, hs, rfl⟩)
    rwa [hk] at hmem
  refine ⟨fun c => ?_, ?_, fun record hrecord => ?_, fun record hrecord r' hr' hid => ?_⟩
  · rw [live_tracked hdead, List.map_append, List.mem_append, h.live]
    simp [core, adopted, newCore, tracked]
  · rw [keys, List.map_append]
    refine List.nodup_append.mpr ⟨h.nodup, by simp, ?_⟩
    intro k hk k' hk' heq
    rw [List.map_singleton, List.mem_singleton] at hk'
    rw [heq, hk'] at hk
    exact hfresh hk
  · rcases List.mem_append.mp hrecord with hrecord | hrecord
    · exact h.fine record hrecord
    · rw [List.mem_singleton.mp hrecord]
      exact Or.inl rfl
  · rcases List.mem_append.mp hrecord with hrecord | hrecord
    · exact h.typed record hrecord r' hr' hid
    · rw [List.mem_singleton.mp hrecord] at hid ⊢
      rw [List.inj_on_of_nodup_map hids hr' hr hid]
      exact hitem.symm

/-! ### Pruning -/

/-- While pruning: the records at the place are the listed ones but those pruned, and the
ones of wanted types are tracked. -/
structure Pruning (d : Deployment) (remote : List RemoteRecord) (owned rows : List DnsRow)
    (place : List RemoteRecord) : Prop where
  mirror : Mirror d remote owned rows
  listed : ∀ r ∈ place, r ∈ remote
  kept : ∀ r ∈ remote, r.id ∈ keys owned → r ∈ place
  covered : ∀ r ∈ place, isWantedType d.access r.type → r.id ∈ keys owned
  zone : ∀ r ∈ remote, r.zone = d.access.deployedZoneIdentifier
  remoteIds : (remote.map (·.id)).Nodup
  ids : (place.map (·.id)).Nodup

lemma Pruning.drop {front rest rows : List DnsRow} {record : DnsRow}
    {place : List RemoteRecord} (h : Pruning d remote (front ++ record :: rest) rows place) :
    Pruning d remote (front ++ rest) (deletedRows record.recordId rows)
      (dropped d.access.deployedZoneIdentifier record.recordId place) := by
  have hmem {k : Nat} : k ∈ keys (front ++ record :: rest) ↔
      k = record.recordId ∨ k ∈ keys (front ++ rest) := by
    simp only [keys, List.map_append, List.map_cons, List.mem_append, List.mem_cons]
    tauto
  have hnodup : (record.recordId :: keys (front ++ rest)).Nodup := by
    have := h.mirror.nodup
    simp only [keys, List.map_append, List.map_cons] at this ⊢
    exact List.nodup_middle.mp this
  obtain ⟨hnew, hnodup⟩ := List.nodup_cons.mp hnodup
  have hsub {other : DnsRow} (hother : other ∈ front ++ rest) :
      other ∈ front ++ record :: rest := by
    rcases List.mem_append.mp hother with hother | hother
    · exact List.mem_append_left _ hother
    · exact List.mem_append_right _ (List.mem_cons_of_mem _ hother)
  have hplace {r : RemoteRecord} (hr : r ∈ place) :
      r ∈ dropped d.access.deployedZoneIdentifier record.recordId place ↔
        r.id ≠ record.recordId := by
    rw [dropped, List.mem_filter]
    simp [hr, h.zone r (h.listed r hr)]
  refine ⟨⟨fun c => ?_, hnodup, fun other ho => h.mirror.fine other (hsub ho),
    fun other ho => h.mirror.typed other (hsub ho)⟩, fun r hr => ?_, fun r hr hk => ?_,
    fun r hr htype => ?_, h.zone, h.remoteIds, h.ids.sublist (List.filter_sublist.map _)⟩
  · rw [live_deleted, ← h.mirror.live]
    constructor
    · intro hc
      obtain ⟨other, hother, rfl⟩ := List.mem_map.mp hc
      refine ⟨List.mem_map_of_mem (hsub hother), fun heq => hnew ?_⟩
      exact List.mem_map.mpr ⟨other, hother, heq⟩
    · rintro ⟨hc, hk⟩
      obtain ⟨other, hother, rfl⟩ := List.mem_map.mp hc
      refine List.mem_map_of_mem ?_
      rcases List.mem_append.mp hother with hother | hother
      · exact List.mem_append_left _ hother
      · rcases List.mem_cons.mp hother with rfl | hother
        · exact absurd rfl hk
        · exact List.mem_append_right _ hother
  · exact h.listed r (List.mem_filter.mp hr).1
  · have hr' := h.kept r hr (hmem.mpr (Or.inr hk))
    exact (hplace hr').mpr fun heq => hnew (heq ▸ hk)
  · have hr' := (List.mem_filter.mp hr).1
    exact (hmem.mp (h.covered r hr' htype)).resolve_left ((hplace hr').mp hr)

/-! ### Creation -/

/-- Once pruned: every kept record is in place, and the items done have theirs. -/
structure Progressing (d : Deployment) (remote : List RemoteRecord) (kept rows : List DnsRow)
    (place : List RemoteRecord) (done : List Wanted) : Prop where
  live : ∀ row ∈ rows, row.status ≠ .deleted → core row ∈ kept.map core ∨
    row.status = .active ∧ ∃ r ∈ place, r.id = row.recordId ∧ r.type = row.type ∧
      ∃ item ∈ done, isWanted d.access item r
  keeps : ∀ record ∈ kept, record.status = .active ∧ (∃ row ∈ rows, core row = core record) ∧
    (expected d.access record.type record.content).isSome ∧
    ∃ r ∈ place, r ∈ remote ∧ r.id = record.recordId ∧ r.type = record.type ∧
      isOwn d.access r ∧ lower r.content = lower record.content
  covers : ∀ r ∈ place, isWantedType d.access r.type →
    (∃ record ∈ kept, record.recordId = r.id) ∨
      ∃ item ∈ done, isWanted d.access item r ∧
        ∃ row ∈ rows, row.recordId = r.id ∧ row.type = r.type ∧ row.status = .active
  present : ∀ item ∈ done, ∃ r ∈ place, isWanted d.access item r
  ids : (place.map (·.id)).Nodup
  remoteIds : (remote.map (·.id)).Nodup

lemma Pruning.progressing {kept rows : List DnsRow} {place : List RemoteRecord}
    (h : Pruning d remote kept rows place) (hstays : ∀ record ∈ kept, stays d remote record) :
    Progressing d remote kept rows place [] where
  live := fun row hrow hs => Or.inl ((h.mirror.live _).mpr ⟨row, hrow, hs, rfl⟩)
  keeps := by
    intro record hrecord
    have hstay := hstays record hrecord
    obtain ⟨row, hrow, -, hcore⟩ := (h.mirror.live _).mp (List.mem_map_of_mem hrecord)
    obtain ⟨hsome, hany⟩ := Bool.and_eq_true_iff.mp hstay
    obtain ⟨r, hfound, hr⟩ := (Option.any_eq_true _ _).mp hany
    obtain ⟨hcontent, hown⟩ := Bool.and_eq_true_iff.mp hr
    have hmem := List.mem_of_find?_eq_some hfound
    have hid : r.id = record.recordId := by simpa using List.find?_some hfound
    refine ⟨(h.mirror.fine record hrecord).resolve_right (not_not.mpr hstay), ⟨row, hrow, hcore⟩,
      hsome, r, h.kept r hmem ?_, hmem, hid, h.mirror.typed record hrecord r hmem hid, hown,
      by simpa using hcontent⟩
    rw [hid]
    exact List.mem_map_of_mem hrecord
  covers := by
    intro r hr htype
    obtain ⟨record, hrecord, hk⟩ := List.mem_map.mp (h.covered r hr htype)
    exact Or.inl ⟨record, hrecord, hk⟩
  present := by simp
  ids := h.ids
  remoteIds := h.remoteIds

/-- An item that is present is done. -/
lemma Progressing.skip {kept rows : List DnsRow} {place : List RemoteRecord}
    {done : List Wanted} {item : Wanted} (h : Progressing d remote kept rows place done)
    (hpresent : isPresent d remote kept item) :
    Progressing d remote kept rows place (done ++ [item]) where
  live := by
    intro row hrow hs
    refine (h.live row hrow hs).imp_right fun ⟨hactive, r, hr, hid, htype, item', hitem', hw⟩ => ?_
    exact ⟨hactive, r, hr, hid, htype, item', List.mem_append_left _ hitem', hw⟩
  keeps := h.keeps
  covers := by
    intro r hr htype
    refine (h.covers r hr htype).imp_right fun ⟨item', hitem', hrest⟩ => ?_
    exact ⟨item', List.mem_append_left _ hitem', hrest⟩
  present := by
    intro item' hitem'
    rcases List.mem_append.mp hitem' with hitem' | hitem'
    · exact h.present item' hitem'
    · obtain rfl := List.mem_singleton.mp hitem'
      obtain ⟨record, hrecord, hfits⟩ := List.any_eq_true.mp hpresent
      obtain ⟨htarget, -⟩ := Bool.and_eq_true_iff.mp hfits
      obtain ⟨htype, hcontent⟩ := sameTarget_iff.mp htarget
      obtain ⟨-, -, -, r, hr, -, -, hrtype, hown, hrcontent⟩ := h.keeps record hrecord
      exact ⟨r, hr, isWanted_iff.mpr ⟨⟨htype.trans hrtype.symm, hcontent.trans hrcontent.symm⟩,
        hown⟩⟩
  ids := h.ids
  remoteIds := h.remoteIds

/-- An item that is not present has no record yet. -/
lemma Progressing.absent {kept rows : List DnsRow} {place : List RemoteRecord}
    {done : List Wanted} {item : Wanted} (h : Progressing d remote kept rows place done)
    (hitem : item ∈ desired d.access) (habsent : ¬isPresent d remote kept item)
    (hdone : ∀ item' ∈ done, ¬sameTarget item' item.1 item.2) :
    ∀ r ∈ place, ¬isWanted d.access item r := by
  intro r hr hw
  obtain ⟨⟨htype, hcontent⟩, hown⟩ := isWanted_iff.mp hw
  have hwanted : isWantedType d.access r.type :=
    List.any_eq_true.mpr ⟨item, hitem, beq_iff_eq.mpr htype⟩
  rcases h.covers r hr hwanted with ⟨record, hrecord, hk⟩ | ⟨item', hitem', hw', -⟩
  · obtain ⟨-, -, -, r', hr', hremote, hid, htype', -, hcontent'⟩ := h.keeps record hrecord
    obtain rfl := List.inj_on_of_nodup_map h.ids hr' hr (hid.trans hk)
    refine habsent (List.any_eq_true.mpr ⟨record, hrecord, Bool.and_eq_true_iff.mpr ⟨?_, ?_⟩⟩)
    · exact sameTarget_iff.mpr ⟨htype.trans htype', hcontent.trans hcontent'⟩
    · exact List.any_eq_true.mpr ⟨r', hremote, by simp [hk, hown]⟩
  · obtain ⟨⟨htype', hcontent'⟩, -⟩ := isWanted_iff.mp hw'
    exact hdone item' hitem'
      (sameTarget_iff.mpr ⟨htype'.trans htype.symm, hcontent'.trans hcontent.symm⟩)

/-- A record that was created and tracked makes its item done. -/
lemma Progressing.create {S : Scope} {kept rows : List DnsRow} {place : List RemoteRecord}
    {done : List Wanted} {item : Wanted} (h : Progressing d remote kept rows place done)
    (hs : S.strict) {r : RemoteRecord} (hr : Created S d.access item rows place r)
    {remote' : List RemoteRecord} (hremote : remote' = remote ∨ remote' = place ++ [r]) :
    Progressing d remote' kept (trackedRows d.access.id (tracked d item r.id) rows)
      (place ++ [r]) (done ++ [item]) := by
  obtain ⟨⟨htype, hcontent⟩, hown⟩ := isWanted_iff.mp hr.wanted
  have hrows : trackedRows d.access.id (tracked d item r.id) rows =
      rows ++ [adopted d item r] := by
    unfold trackedRows
    rw [if_neg]
    · rfl
    · intro hany
      obtain ⟨row, hrow, hk⟩ := List.any_eq_true.mp hany
      exact hr.untracked _ (List.mem_map_of_mem hrow) (of_decide_eq_true hk)
  have hids : ((place ++ [r]).map (·.id)).Nodup := by
    rw [List.map_append]
    refine List.nodup_append.mpr ⟨h.ids, by simp, ?_⟩
    intro k hk k' hk' heq
    obtain ⟨r', hr', rfl⟩ := List.mem_map.mp hk
    rw [List.map_singleton, List.mem_singleton] at hk'
    exact hr.fresh hs r' hr' (heq.trans hk')
  have hmem : r ∈ place ++ [r] := List.mem_append_right _ List.mem_cons_self
  have hlast : item ∈ done ++ [item] := List.mem_append_right _ List.mem_cons_self
  rw [hrows]
  refine ⟨fun row hrow hlive => ?_, fun record hrecord => ?_, fun r' hr' hwanted => ?_,
    fun item' hitem' => ?_, hids, ?_⟩
  · rcases List.mem_append.mp hrow with hrow | hrow
    · refine (h.live row hrow hlive).imp_right
        fun ⟨hactive, r', hr', hid, ht, item', hitem', hw⟩ => ?_
      exact ⟨hactive, r', List.mem_append_left _ hr', hid, ht, item',
        List.mem_append_left _ hitem', hw⟩
    · rw [List.mem_singleton.mp hrow]
      exact Or.inr ⟨rfl, r, hmem, rfl, htype.symm, item, hlast, hr.wanted⟩
  · obtain ⟨hactive, ⟨row, hrow, hcore⟩, hsome, r', hr', hlisted, hrest⟩ := h.keeps record hrecord
    refine ⟨hactive, ⟨row, List.mem_append_left _ hrow, hcore⟩, hsome, r',
      List.mem_append_left _ hr', ?_, hrest⟩
    rcases hremote with rfl | rfl
    · exact hlisted
    · exact List.mem_append_left _ hr'
  · rcases List.mem_append.mp hr' with hr' | hr'
    · refine (h.covers r' hr' hwanted).imp_right fun ⟨item', hitem', hw, row, hrow, hrest⟩ => ?_
      exact ⟨item', List.mem_append_left _ hitem', hw, row, List.mem_append_left _ hrow, hrest⟩
    · rw [List.mem_singleton.mp hr']
      exact Or.inr ⟨item, hlast, hr.wanted, _, List.mem_append_right _ List.mem_cons_self, rfl,
        htype, rfl⟩
  · rcases List.mem_append.mp hitem' with hitem' | hitem'
    · obtain ⟨r', hr', hw⟩ := h.present item' hitem'
      exact ⟨r', List.mem_append_left _ hr', hw⟩
    · rw [List.mem_singleton.mp hitem']
      exact ⟨r, hmem, hr.wanted⟩
  · rcases hremote with rfl | rfl
    · exact h.remoteIds
    · exact hids

end GatewayControl.DnsRecords
