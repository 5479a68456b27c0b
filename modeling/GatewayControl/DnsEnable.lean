import GatewayControl.DnsRecords

/-!
The enable path of a reconciliation, part by part, and the reconciliation as a whole.
-/

namespace GatewayControl.DnsEnable

open Database Store Placement Publishing Ingress Cloudflare Calls Reconcile Programs
open ControlPlane AccessHistory DnsOwnership DnsRuns DnsReconcile DnsRecords

variable {S : Scope} {n : Nat} {d : Deployment}

/-! ### Which tracked records stay -/

lemma adopt_triple {remote marks place : List RemoteRecord}
    (hown : ∀ r ∈ remote, r.comment = some (ownershipMarker d.access.id) → r ∈ marks)
    (hids : (remote.map (·.id)).Nodup) (l : List RemoteRecord) :
    ∀ owned rows : List DnsRow, (∀ r ∈ l, r ∈ remote) → (∀ k ∈ keys owned, k ∈ keys rows) →
    (S.strict → Mirror d remote owned rows) →
    Triple (contract S) (.reconcile d.access.id n) (View S n d.access rows marks place)
      (adopt d l owned).run
      (Exits (fun owned w => ∃ rows, ((∀ k ∈ keys owned, k ∈ keys rows) ∧
          (S.strict → Mirror d remote owned rows)) ∧ View S n d.access rows marks place w)
        fun _ => Held S n d.access) := by
  have hheld := stable_held (S := S) (n := n) d.access
  induction l with
  | nil =>
    intro owned rows _ hkeys hm
    exact exits_pure (stable_view _ _ _ _) fun w _ hv => ⟨rows, ⟨hkeys, hm⟩, hv⟩
  | cons r l ih =>
    intro owned rows hl hkeys hm
    have hr := hl r List.mem_cons_self
    have hrest : ∀ r' ∈ l, r' ∈ remote := fun r' hr' => hl r' (List.mem_cons_of_mem _ hr')
    unfold adopt
    cases hexpected : expected d.access r.type r.content with
    | none => exact ih owned rows hrest hkeys hm
    | some item =>
      dsimp only
      split_ifs with hadopt
      · simp only [Bool.and_eq_true, Bool.not_eq_true'] at hadopt
        obtain ⟨hnew, hisOwn⟩ := hadopt
        have htype : item.1 = r.type := expected_type hexpected
        refine exits_bind (lawful S) (fun _ => hheld)
          (K := fun _ => View S n d.access
            (trackedRows d.access.id (tracked d item r.id) rows) marks place) ?_ fun _ => ?_
        · refine exits_conseq
            (track_triple ⟨r, hown r hr (isOwn_iff.mp hisOwn).2, rfl, htype.symm⟩)
            (fun _ _ h => h) (fun _ _ _ h => h) ?_
          rintro e w - (h | h)
          · exact View.held h
          · exact View.held h
        · refine ih _ _ hrest (fun k hk => ?_)
            fun hs => (hm hs).adopt hids hr htype (by simpa using hnew)
          rw [keys_trackedRows]
          rw [keys, List.map_append, List.mem_append] at hk
          refine hk.imp (hkeys k) fun hk => ?_
          simpa [tracked] using hk
      · exact ih owned rows hrest hkeys hm

lemma prune_triple {remote : List RemoteRecord} (l : List DnsRow) :
    ∀ (front rows : List DnsRow) (marks place : List RemoteRecord),
    (∀ k ∈ keys l, k ∈ keys rows) → (S.strict → Pruning d remote (front ++ l) rows place) →
    Triple (contract S) (.reconcile d.access.id n) (View S n d.access rows marks place)
      (prune d remote l).run
      (Exits (fun kept w => ∃ rows marks place,
          (S.strict → Pruning d remote (front ++ kept) rows place ∧
            ∀ record ∈ kept, stays d remote record) ∧ View S n d.access rows marks place w)
        fun _ => Held S n d.access) := by
  have hheld := stable_held (S := S) (n := n) d.access
  induction l with
  | nil =>
    intro front rows marks place _ hp
    exact exits_pure (stable_view _ _ _ _)
      fun w _ hv => ⟨rows, marks, place, fun hs => ⟨hp hs, by simp⟩, hv⟩
  | cons record l ih =>
    intro front rows marks place hkeys hp
    have hrest : ∀ k ∈ keys l, k ∈ keys rows := fun k hk => hkeys k (List.mem_cons_of_mem _ hk)
    unfold prune
    split_ifs with hstay
    · have hfront : S.strict → Pruning d remote ((front ++ [record]) ++ l) rows place := by
        intro hs
        rw [List.append_assoc]
        exact hp hs
      refine exits_bind (lawful S) (fun _ => hheld) (ih _ rows marks place hrest hfront)
        fun kept => ?_
      refine exits_pure (stable_exists fun _ => stable_exists fun _ => stable_exists fun _ =>
        (stable_const _).and (stable_view _ _ _ _)) ?_
      rintro w - ⟨rows, marks, place, hk, hv⟩
      refine ⟨rows, marks, place, fun hs => ?_, hv⟩
      obtain ⟨hpruning, hstays⟩ := hk hs
      rw [List.append_assoc] at hpruning
      refine ⟨hpruning, fun other hother => ?_⟩
      rcases List.mem_cons.mp hother with rfl | hother
      · exact hstay
      · exact hstays other hother
    · refine exits_bind (lawful S) (fun _ => hheld)
        (deleteOwnedRecord_triple (hkeys _ List.mem_cons_self)) fun _ => ?_
      refine ih front _ _ _ (fun k hk => ?_) fun hs => (hp hs).drop
      rw [keys_deletedRows]
      exact hrest k hk

/-- No tracked record that was left for clean-up would stay. -/
def NoneLeft (h : AccessRow) (rows : List DnsRow) (place : List RemoteRecord) : Prop :=
  ∀ row ∈ rows, row.status = .cleanupPending → ∀ r ∈ place, r.id = row.recordId →
    ¬((expected h row.type row.content).isSome ∧ lower r.content = lower row.content ∧ isOwn h r)

/-- The rows that are not deleted, and a listing, at the start. -/
lemma mirror_start {remote marks place : List RemoteRecord}
    (hkeys : (keys d.owned).Nodup) (hl : Listed S d.access d.owned marks place remote)
    (hleft : NoneLeft d.access d.owned remote) :
    Mirror d remote (d.owned.filter (·.status ≠ .deleted)) d.owned where
  live := by
    intro c
    constructor
    · intro hc
      obtain ⟨row, hrow, rfl⟩ := List.mem_map.mp hc
      obtain ⟨hrow, hs⟩ := List.mem_filter.mp hrow
      exact ⟨row, hrow, by simpa using hs, rfl⟩
    · rintro ⟨row, hrow, hs, rfl⟩
      exact List.mem_map_of_mem (List.mem_filter.mpr ⟨hrow, by simpa using hs⟩)
  nodup := hkeys.sublist (List.filter_sublist.map _)
  fine := by
    intro record hrecord
    obtain ⟨hrecord, hs⟩ := List.mem_filter.mp hrecord
    cases hstatus : record.status with
    | active => exact Or.inl rfl
    | deleted => simp [hstatus] at hs
    | cleanupPending =>
      refine Or.inr fun hstay => ?_
      obtain ⟨hsome, hany⟩ := Bool.and_eq_true_iff.mp hstay
      obtain ⟨r, hfound, hr⟩ := (Option.any_eq_true _ _).mp hany
      obtain ⟨hcontent, hisOwn⟩ := Bool.and_eq_true_iff.mp hr
      exact hleft record hrecord hstatus r (List.mem_of_find?_eq_some hfound)
        (by simpa using List.find?_some hfound) ⟨hsome, by simpa using hcontent, hisOwn⟩
  typed := fun record hrecord r hr hid => hl.typed record (List.mem_filter.mp hrecord).1 r hr hid

lemma settleOwned_triple {marks place : List RemoteRecord} (hkeys : (keys d.owned).Nodup)
    (hleft : S.strict → NoneLeft d.access d.owned place) :
    Triple (contract S) (.reconcile d.access.id n) (View S n d.access d.owned marks place)
      (settleOwned d).run
      (Exits (fun settled w => ∃ rows marks place,
          (S.strict → Progressing d settled.1 settled.2 rows place []) ∧
            View S n d.access rows marks place w)
        fun _ => Held S n d.access) := by
  have hheld := stable_held (S := S) (n := n) d.access
  refine exits_bind (lawful S) (fun _ => hheld)
    (exits_conseq list_call (fun _ _ h => h) (fun _ _ _ h => h) fun _ _ _ h => View.held h)
    fun remote => triple_pre fun hl => ?_
  have hstart (hs : S.strict) := mirror_start hkeys hl (hl.place hs ▸ hleft hs)
  have hsub : ∀ k ∈ keys (d.owned.filter (·.status ≠ .deleted)), k ∈ keys d.owned := by
    intro k hk
    obtain ⟨row, hrow, hk⟩ := List.mem_map.mp hk
    exact List.mem_map.mpr ⟨row, (List.mem_filter.mp hrow).1, hk⟩
  refine exits_bind (lawful S) (fun _ => hheld)
    (adopt_triple hl.own hl.nodup remote _ _ (fun _ h => h) hsub hstart) fun owned => ?_
  refine triple_exists fun rows => triple_pre fun ⟨hkeys, hm⟩ => ?_
  split_ifs with hconflict
  · exact exits_throw (stable_view _ _ _ _) fun _ _ h => View.held h
  · have hpruning (hs : S.strict) : Pruning d remote owned rows place := by
      have hplace := hl.place hs
      refine ⟨hm hs, fun r hr => hplace ▸ hr, fun r hr _ => hplace ▸ hr, fun r hr htype => ?_,
        hl.zone, hl.nodup, hplace ▸ hl.nodup⟩
      by_contra hk
      refine hconflict (List.any_eq_true.mpr ⟨r, hplace ▸ hr, Bool.and_eq_true_iff.mpr ⟨htype, ?_⟩⟩)
      rw [Bool.not_eq_true', List.any_eq_false]
      intro record hrecord heq
      exact hk (List.mem_map.mpr ⟨record, hrecord, of_decide_eq_true heq⟩)
    refine exits_bind (lawful S) (fun _ => hheld)
      (prune_triple owned [] rows marks place hkeys hpruning) fun kept => ?_
    refine exits_pure (stable_exists fun _ => stable_exists fun _ => stable_exists fun _ =>
      (stable_const _).and (stable_view _ _ _ _)) ?_
    rintro w - ⟨rows, marks, place, hk, hv⟩
    exact ⟨rows, marks, place, fun hs => (hk hs).1.progressing (hk hs).2, hv⟩

/-! ### Creating what is missing -/

lemma removable_keys {rows : List DnsRow} {marks : List RemoteRecord} {created : List Nat}
    (h : ∀ k ∈ created, k ∈ keys rows) : Removable rows marks created :=
  ⟨fun k hk => h k ((List.dropLast_sublist _).subset hk), fun k hk => Or.inl (h k hk)⟩

/-- The record a creation comes to, made now or found again. -/
structure Made (S : Scope) (h : AccessRow) (item : Wanted) (rows : List DnsRow)
    (place place' marks' : List RemoteRecord) (remote remote' : List RemoteRecord)
    (r : RemoteRecord) : Prop where
  marked : r ∈ marks'
  type : r.type = item.1
  place : S.strict → place' = place ++ [r] ∧ Created S h item rows place r ∧
    (remote' = remote ∨ remote' = place ++ [r])

lemma create_triple {rows : List DnsRow} {marks place remote : List RemoteRecord}
    {item : Wanted} {created : List Nat} (hitem : item ∈ desired d.access)
    (hnew : S.strict → ∀ r ∈ place, ¬isWanted d.access item r)
    (hcreated : ∀ k ∈ created, k ∈ keys rows) :
    Triple (contract S) (.reconcile d.access.id n) (View S n d.access rows marks place)
      (create d item remote).run
      (Exits (fun made w => ∃ marks' place',
          Made S d.access item rows place place' marks' remote made.2 made.1 ∧
            View S n d.access rows marks' place' w)
        fun _ => Working S n d.access created) := by
  have hworking := stable_working (S := S) (n := n) d.access created
  have hview {marks place : List RemoteRecord} {w : PlaneWorld}
      (hv : View S n d.access rows marks place w) : Working S n d.access created w :=
    ⟨_, _, _, removable_keys hcreated, hv⟩
  have hK (made : RemoteRecord × List RemoteRecord) : Stable (contract S)
      (.reconcile d.access.id n) fun w => ∃ marks' place',
        Made S d.access item rows place place' marks' remote made.2 made.1 ∧
          View S n d.access rows marks' place' w :=
    stable_exists fun _ => stable_exists fun _ => (stable_const _).and (stable_view _ _ _ _)
  -- after a failure the record may be there all the same
  let Lost (marks' place' : List RemoteRecord) : Prop :=
    marks' = marks ∧ place' = place ∨ ∃ r, Created S d.access item rows place r ∧
      marks' = marks ++ [r] ∧ place' = place ++ [r]
  refine exits_catch (lawful S) hK
    (X := fun _ w => ∃ marks' place', Lost marks' place' ∧
      View S n d.access rows marks' place' w) ?_ fun e => ?_
  · refine exits_bind (lawful S)
      (fun _ => stable_exists fun _ => stable_exists fun _ =>
        (stable_const _).and (stable_view _ _ _ _))
      (K := fun r w => Created S d.access item rows place r ∧
        View S n d.access rows (marks ++ [r]) (place ++ [r]) w) ?_ fun r => ?_
    · refine exits_conseq (create_call hitem hnew) (fun _ _ h => h) (fun _ _ _ h => h) ?_
      rintro e w - (h | ⟨r, hr, h⟩)
      · exact ⟨_, _, Or.inl ⟨rfl, rfl⟩, h⟩
      · exact ⟨_, _, Or.inr ⟨r, hr, rfl, rfl⟩, h⟩
    · refine triple_pre fun hr => exits_pure (stable_view _ _ _ _) fun w _ hv => ?_
      refine ⟨_, _, ⟨List.mem_append_right _ List.mem_cons_self, ?_,
        fun _ => ⟨rfl, hr, Or.inl rfl⟩⟩, hv⟩
      exact (isWanted_iff.mp hr.wanted).1.1.symm
  · refine triple_exists fun marks' => triple_exists fun place' => triple_pre fun hlost => ?_
    refine exits_bind (lawful S) (fun _ => hworking)
      (exits_conseq list_call (fun _ _ h => h) (fun _ _ _ h => h) fun _ _ _ h => hview h)
      fun remote' => triple_pre fun hl => ?_
    cases hfound : remote'.find? (isWanted d.access item) with
    | none => exact exits_throw (stable_view _ _ _ _) fun _ _ h => hview h
    | some recovered =>
      have hmem := List.mem_of_find?_eq_some hfound
      have hwanted : isWanted d.access item recovered := List.find?_some hfound
      obtain ⟨⟨htype, -⟩, hisOwn⟩ := isWanted_iff.mp hwanted
      refine exits_pure (stable_view _ _ _ _) fun w _ hv =>
        ⟨marks', place', ⟨hl.own _ hmem (isOwn_iff.mp hisOwn).2, htype.symm, fun hs => ?_⟩, hv⟩
      have hplace := hl.place hs
      rw [hplace] at hmem
      rcases hlost with ⟨-, rfl⟩ | ⟨r, hr, -, rfl⟩
      · exact absurd hwanted (hnew hs _ hmem)
      · rcases List.mem_append.mp hmem with hmem | hmem
        · exact absurd hwanted (hnew hs _ hmem)
        · obtain rfl := List.mem_singleton.mp hmem
          exact ⟨rfl, hr, Or.inr hplace⟩

lemma confirm_triple {rows : List DnsRow} {marks place : List RemoteRecord} {item : Wanted}
    {created : List Nat} {r : RemoteRecord} (hr : r ∈ marks) (htype : r.type = item.1)
    (hcreated : ∀ k ∈ created, k ∈ keys rows) :
    Triple (contract S) (.reconcile d.access.id n) (View S n d.access rows marks place)
      (confirm d item r.id).run
      (Exits (fun _ => View S n d.access (trackedRows d.access.id (tracked d item r.id) rows)
          marks place)
        fun _ => Working S n d.access (created ++ [r.id])) := by
  have hworking := stable_working (S := S) (n := n) d.access (created ++ [r.id])
  have hbefore : Removable rows marks (created ++ [r.id]) := by
    refine ⟨fun k hk => ?_, fun k hk => ?_⟩
    · rw [List.dropLast_concat] at hk
      exact hcreated k hk
    · rcases List.mem_append.mp hk with hk | hk
      · exact Or.inl (hcreated k hk)
      · exact Or.inr ⟨r, hr, (List.mem_singleton.mp hk).symm⟩
  have hafter : Removable (trackedRows d.access.id (tracked d item r.id) rows) marks
      (created ++ [r.id]) := by
    refine removable_keys fun k hk => keys_trackedRows.mpr ?_
    refine (List.mem_append.mp hk).imp (hcreated k) fun hk => ?_
    exact List.mem_singleton.mp hk
  have hv := stable_view (S := S) (n := n) d.access
    (trackedRows d.access.id (tracked d item r.id) rows) marks place
  refine exits_bind (lawful S) (fun _ => hworking)
    (K := fun _ => View S n d.access (trackedRows d.access.id (tracked d item r.id) rows)
      marks place) ?_ fun _ => ?_
  · refine exits_conseq (track_triple ⟨r, hr, rfl, htype⟩) (fun _ _ h => h)
      (fun _ _ _ h => h) ?_
    rintro e w - (h | h)
    · exact ⟨_, _, _, hbefore, h⟩
    · exact ⟨_, _, _, hafter, h⟩
  · refine exits_conseq (free_triple ?_ hv (unmoved_view _ _ _ _)) (fun _ _ h => h)
      (fun _ _ _ h => h) fun _ _ _ h => ⟨_, _, _, hafter, h⟩
    refine only_bind (only_call ⟨rfl, fun _ _ _ => trivial⟩) fun readBack => ?_
    split
    · trivial
    · trivial

lemma createMissing_triple {originalIngress : Option (List Rule)} {kept : List DnsRow}
    (items : List Wanted) : ∀ (done : List Wanted) (remote : List RemoteRecord)
    (created : List Nat) (rows : List DnsRow) (marks place : List RemoteRecord),
    done ++ items = desired d.access → (∀ k ∈ created, k ∈ keys rows) →
    (S.strict → DistinctWanted d.access ∧ Progressing d remote kept rows place done) →
    Triple (contract S) (.reconcile d.access.id n) (View S n d.access rows marks place)
      (createMissing d originalIngress kept items remote created).run
      (Exits (fun created w => ∃ rows marks place, ((∀ k ∈ created, k ∈ keys rows) ∧
          (S.strict → ∃ remote, Progressing d remote kept rows place (desired d.access))) ∧
            View S n d.access rows marks place w)
        fun _ _ => True) := by
  induction items with
  | nil =>
    intro done remote created rows marks place hdone hcreated hp
    rw [List.append_nil] at hdone
    exact exits_pure (stable_view _ _ _ _) fun w _ hv =>
      ⟨rows, marks, place, ⟨hcreated, fun hs => ⟨remote, hdone ▸ (hp hs).2⟩⟩, hv⟩
  | cons item items ih =>
    intro done remote created rows marks place hdone hcreated hp
    have hitem : item ∈ desired d.access := by
      rw [← hdone]
      exact List.mem_append_right _ List.mem_cons_self
    have hdone' : (done ++ [item]) ++ items = desired d.access := by
      rw [← hdone, List.append_assoc]
      rfl
    unfold createMissing
    split_ifs with hpresent
    · exact ih _ _ _ _ _ _ hdone' hcreated fun hs => ⟨(hp hs).1, (hp hs).2.skip hpresent⟩
    · have hnew : S.strict → ∀ r ∈ place, ¬isWanted d.access item r := by
        intro hs
        obtain ⟨hdistinct, hprogress⟩ := hp hs
        refine hprogress.absent hitem hpresent fun item' hitem' => ?_
        rw [DistinctWanted, ← hdone] at hdistinct
        intro hsame
        refine (List.pairwise_append.mp hdistinct).2.2 item' hitem' item List.mem_cons_self ?_
        exact hsame
      refine exits_bind (lawful S) (fun _ => stable_true)
        (guarded_triple ⟨created, originalIngress⟩ (fun _ => stable_exists fun _ =>
          stable_exists fun _ => (stable_const _).and (stable_view _ _ _ _))
          (create_triple hitem hnew hcreated)) ?_
      rintro ⟨r, remote'⟩
      refine triple_exists fun marks' => triple_exists fun place' => triple_pre fun hmade => ?_
      refine exits_bind (lawful S) (fun _ => stable_true)
        (guarded_triple ⟨created ++ [r.id], originalIngress⟩
          (fun _ => stable_view _ _ _ _)
          (confirm_triple hmade.marked hmade.type hcreated)) fun _ => ?_
      refine ih _ _ _ _ _ _ hdone' (fun k hk => keys_trackedRows.mpr ?_) fun hs => ?_
      · exact (List.mem_append.mp hk).imp (hcreated k) fun hk => List.mem_singleton.mp hk
      · obtain ⟨rfl, hr, hremote⟩ := hmade.place hs
        exact ⟨(hp hs).1, (hp hs).2.create hs hr hremote⟩

/-! ### The end of the enable path -/

/-- With every wanted item done, the tracked rows and the records agree. -/
lemma Progressing.settled {remote place : List RemoteRecord} {kept rows : List DnsRow}
    (h : Progressing d remote kept rows place (desired d.access))
    (hsingle : ∀ r ∈ place, ∀ r' ∈ place, isOwn d.access r → isOwn d.access r' →
      r.type = r'.type → lower r.content = lower r'.content → r = r') :
    Settled d.access rows place := by
  have hwanted : ∀ r ∈ place, isWantedType d.access r.type → isOwn d.access r ∧
      (expected d.access r.type r.content).isSome ∧
        ∃ row ∈ rows, row.recordId = r.id ∧ row.type = r.type ∧ row.status = .active := by
    intro r hr htype
    rcases h.covers r hr htype with ⟨record, hrecord, hk⟩ | ⟨item, hitem, hw, hrow⟩
    · obtain ⟨hactive, ⟨row, hrow, hcore⟩, hsome, r', hr', -, hid, htype', hown, hcontent⟩ :=
        h.keeps record hrecord
      obtain rfl := List.inj_on_of_nodup_map h.ids hr' hr (hid.trans hk)
      simp only [core, Prod.mk.injEq] at hcore
      obtain ⟨hrk, hrt, -, hrs⟩ := hcore
      refine ⟨hown, ?_, row, hrow, hrk.trans hk, hrt.trans htype'.symm, hrs.trans hactive⟩
      obtain ⟨item, hitem, hsame⟩ := expected_isSome.mp hsome
      obtain ⟨hit, hic⟩ := sameTarget_iff.mp hsame
      exact expected_isSome.mpr ⟨item, hitem,
        sameTarget_iff.mpr ⟨hit.trans htype'.symm, hic.trans hcontent.symm⟩⟩
    · obtain ⟨hsame, hown⟩ := isWanted_iff.mp hw
      exact ⟨hown, expected_isSome.mpr ⟨item, hitem, sameTarget_iff.mpr hsame⟩, hrow⟩
  refine ⟨hwanted, h.present, fun row hrow hs => ?_, fun r hr r' hr' htype heq hcontent =>
    hsingle r hr r' hr' (hwanted r hr htype).1 (hwanted r' hr' (heq ▸ htype)).1 heq hcontent⟩
  rcases h.live row hrow hs with hcore | ⟨hactive, r, hr, hid, htype, item, hitem, hw⟩
  · obtain ⟨record, hrecord, hcore⟩ := List.mem_map.mp hcore
    obtain ⟨hactive, -, hsome, r, hr, -, hid, htype, -⟩ := h.keeps record hrecord
    simp only [core, Prod.mk.injEq] at hcore
    obtain ⟨hrk, hrt, -, hrs⟩ := hcore
    refine ⟨hrs.symm.trans hactive, r, hr, hid.trans hrk, htype.trans hrt, ?_⟩
    obtain ⟨item, hitem, hsame⟩ := expected_isSome.mp hsome
    rw [htype]
    exact List.any_eq_true.mpr ⟨item, hitem, beq_iff_eq.mpr (sameTarget_iff.mp hsame).1⟩
  · refine ⟨hactive, r, hr, hid, htype, ?_⟩
    exact List.any_eq_true.mpr ⟨item, hitem, beq_iff_eq.mpr (isWanted_iff.mp hw).1.1⟩

/-- What is settled stays so while the wanted records are the same. -/
lemma Settled.later {h h' : AccessRow} (hl : Later h h') {rows : List DnsRow}
    {place : List RemoteRecord} (hs : Settled h rows place) : Settled h' rows place := by
  have htypes (type : DnsType) : isWantedType h' type = isWantedType h type := by
    rw [isWantedType, isWantedType, hl.desired_eq]
  refine ⟨fun r hr htype => ?_, fun item hitem => ?_, fun row hrow hlive => ?_,
    fun r hr r' hr' htype => hs.single r hr r' hr' (htypes _ ▸ htype)⟩
  · rw [hl.isOwn_eq, hl.expected_eq]
    exact hs.wanted r hr (htypes _ ▸ htype)
  · rw [hl.desired_eq] at hitem
    obtain ⟨r, hr, hw⟩ := hs.present item hitem
    rw [isWanted_iff] at hw
    exact ⟨r, hr, isWanted_iff.mpr (by rw [hl.isOwn_eq]; exact hw)⟩
  · obtain ⟨hactive, r, hr, hid, htype, hwanted⟩ := hs.tracked row hrow hlive
    exact ⟨hactive, r, hr, hid, htype, htypes _ ▸ hwanted⟩

lemma publish_triple {rows : List DnsRow} {marks place : List RemoteRecord} :
    Triple (contract S) (.reconcile d.access.id n) (View S n d.access rows marks place)
      (publish d).run
      (Exits (fun _ => View S n d.access rows marks place) fun _ _ => True) := by
  have hv := stable_view (S := S) (n := n) d.access rows marks place
  have hu := unmoved_view (S := S) (n := n) d.access rows marks place
  have hfree {α : Type} {p : Handler α} {originalIngress : Option (List Rule)}
      (hp : p.run.Only (Free d.access.id)) :
      Triple (contract S) (.reconcile d.access.id n) (View S n d.access rows marks place)
        (guarded d ⟨[], originalIngress⟩ p).run
        (Exits (fun _ => View S n d.access rows marks place) fun _ _ => True) :=
    guarded_triple _ (fun _ => hv) (exits_conseq (free_triple hp hv hu) (fun _ _ h => h)
      (fun _ _ _ h => h) fun _ _ _ h => Held.working (View.held h))
  unfold publish
  split
  · refine exits_bind (lawful S) (fun _ => stable_true)
      (hfree (only_call ⟨rfl, fun _ _ _ => trivial⟩)) fun rules => ?_
    exact exits_bind (lawful S) (fun _ => stable_true) (hfree (rewriteIngress_free _ _))
      fun _ => exits_pure hv fun _ _ h => h
  · exact exits_pure hv fun _ _ h => h

lemma enable_triple {marks place : List RemoteRecord} {requireHttpsObservation : Bool}
    (hkeys : (keys d.owned).Nodup)
    (hstart : S.strict → DistinctWanted d.access ∧ NoneLeft d.access d.owned place) :
    Triple (contract S) (.reconcile d.access.id n) (View S n d.access d.owned marks place)
      (enable d requireHttpsObservation).run (Exits (fun _ _ => True) fun _ _ => True) := by
  refine exits_bind (lawful S) (fun _ => stable_true)
    (guarded_triple {} (fun _ => stable_exists fun _ => stable_exists fun _ =>
      stable_exists fun _ => (stable_const _).and (stable_view _ _ _ _))
      (exits_conseq (settleOwned_triple hkeys fun hs => (hstart hs).2) (fun _ _ h => h)
        (fun _ _ _ h => h) fun _ _ _ h => Held.working h)) ?_
  rintro ⟨remote, kept⟩
  refine triple_exists fun rows => triple_exists fun marks => triple_exists fun place => ?_
  refine triple_pre fun hp => ?_
  refine exits_bind (lawful S) (fun _ => stable_true) publish_triple fun originalIngress => ?_
  refine exits_bind (lawful S) (fun _ => stable_true)
    (createMissing_triple _ [] remote [] rows marks place rfl (by simp)
      fun hs => ⟨(hstart hs).1, hp hs⟩) fun created => ?_
  refine triple_exists fun rows => triple_exists fun marks => triple_exists fun place => ?_
  refine triple_pre fun ⟨hcreated, hp⟩ => ?_
  have hv := stable_view (S := S) (n := n) d.access rows marks place
  refine exits_conseq (guarded_triple ⟨created, originalIngress⟩ (fun _ => hv)
    (exits_conseq (outcome_triple hv (unmoved_view _ _ _ _) fun w hi hw => ⟨rfl, fun h' hh' => ?_⟩)
      (fun _ _ h => h) (fun _ _ _ h => h) fun _ _ _ h => ⟨_, _, _, removable_keys hcreated, h⟩))
    (fun _ _ h => h) (fun _ _ _ _ => trivial) fun _ _ _ h => h
  obtain ⟨hfound, -⟩ := atRevision_some.mp hh'
  obtain ⟨h'', hfound', hl⟩ := hw.later
  obtain rfl := Option.some.inj (hfound.symm.trans hfound')
  have hsettled (hs : S.strict) :
      Settled h' (ownedDnsRecords w.db d.access.id) (placeOf h' w.cloud.records) := by
    obtain ⟨remote', hp⟩ := hp hs
    rw [hw.rows, Later.placeOf_eq hl, hw.place hs]
    refine Settled.later hl (Progressing.settled hp fun r hr r' hr' hown hown' htype hcontent => ?_)
    rw [← hw.place hs] at hr hr'
    exact hi.single hs r (mem_placeOf.mp hr).1 r' (mem_placeOf.mp hr').1 _
      (isOwn_iff.mp hown).2 (isOwn_iff.mp hown').2 htype hcontent
  cases requireHttpsObservation
  · exact hsettled
  · exact hsettled

end GatewayControl.DnsEnable
