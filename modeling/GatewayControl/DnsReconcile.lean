import GatewayControl.DnsRuns

/-!
The parts of a reconciliation, and the whole: every deletion is of a record of the access's
own, a disabled access is left with nothing, and an enabled one with what it wants.
-/

namespace GatewayControl.DnsReconcile

open Database Store Placement Publishing Ingress Cloudflare Calls Reconcile Programs
open ControlPlane AccessHistory DnsOwnership DnsRuns

variable {S : Scope} {n : Nat} {d : Deployment}

lemma View.held {h : AccessRow} {rows : List DnsRow} {marks place : List RemoteRecord}
    {w : PlaneWorld} (hv : View S n h rows marks place w) : Held S n h w :=
  ⟨rows, marks, place, hv⟩

/-! ### Marking -/

lemma orSuperseded_triple {i : Slot} {c : Handler Bool} {P : PlaneWorld → Prop}
    {K : Bool → PlaneWorld → Prop} {X : Failure → PlaneWorld → Prop}
    (hK : ∀ b, Stable (contract S) i (K b)) (hX : ∀ e, Stable (contract S) i (X e))
    (hc : Triple (contract S) i P c.run (Exits K X)) (hfalse : ∀ w, K false w → X superseded w) :
    Triple (contract S) i P (orSuperseded c).run (Exits (fun _ => K true) X) := by
  refine exits_bind (lawful S) hX hc fun b => ?_
  cases b with
  | true => exact exits_pure (hK true) fun _ _ h => h
  | false => exact exits_throw (hK false) fun w _ h => hfalse w h

/-- The rows once the one with number `k` is deleted. -/
def deletedRows (k : Nat) (rows : List DnsRow) : List DnsRow :=
  mapRow k (markRow .deleted none) rows

lemma stable_rejected (h : AccessRow) (e : Failure) :
    Stable (contract S) (.reconcile h.id n) fun w =>
      e.isExplicitNotFound = false ∧ Held S n h w :=
  (stable_const _).and (stable_held h)

lemma markDeleted_triple {rows : List DnsRow} {marks place : List RemoteRecord} {k : Nat} :
    Triple (contract S) (.reconcile d.access.id n) (View S n d.access rows marks place)
      (markDeleted d k).run
      (Exits (fun _ => View S n d.access (deletedRows k rows) marks place)
        fun e w => e.isExplicitNotFound = false ∧ Held S n d.access w) := by
  have hv := stable_view (S := S) (n := n) d.access rows marks place
  have hv' := stable_view (S := S) (n := n) d.access (deletedRows k rows) marks place
  have hcall : Triple (contract S) (.reconcile d.access.id n)
      (View S n d.access rows marks place)
      (call (.markRecord d.access.id d.access.revision k .deleted none)).run
      (Exits
        (fun b w => b = false ∧ View S n d.access rows marks place w ∨
          b = false ∧ View S n d.access (deletedRows k rows) marks place w ∨
          b = true ∧ View S n d.access (deletedRows k rows) marks place w)
        fun e w => e.isExplicitNotFound = false ∧ Held S n d.access w) := by
    refine exits_conseq mark_call (fun _ _ h => h) ?_ ?_
    · intro b w _ h
      rcases h with ⟨rfl, h⟩ | h
      · exact Or.inl ⟨rfl, h⟩
      · cases b
        · exact Or.inr (Or.inl ⟨rfl, h⟩)
        · exact Or.inr (Or.inr ⟨rfl, h⟩)
    · rintro e w - ⟨he, h | h⟩
      · exact ⟨he, View.held h⟩
      · exact ⟨he, View.held h⟩
  refine exits_conseq (orSuperseded_triple
    (fun b => ((stable_const _).and hv).or
      (((stable_const _).and hv').or ((stable_const _).and hv')))
    (stable_rejected _) hcall ?_) (fun _ _ h => h) ?_ fun _ _ _ h => h
  · rintro w (⟨-, h⟩ | ⟨-, h⟩ | ⟨hfalse, -⟩)
    · exact ⟨rfl, View.held h⟩
    · exact ⟨rfl, View.held h⟩
    · cases hfalse
  · rintro - w - (⟨hfalse, -⟩ | ⟨hfalse, -⟩ | ⟨-, h⟩)
    · cases hfalse
    · cases hfalse
    · exact h

/-- What the compensation may remove: tracked records, and at last one that need only be
marked. -/
structure Removable (rows : List DnsRow) (marks : List RemoteRecord) (created : List Nat) :
    Prop where
  front : ∀ k ∈ created.dropLast, k ∈ keys rows
  each : ∀ k ∈ created, k ∈ keys rows ∨ ∃ r ∈ marks, r.id = k

def Working (S : Scope) (n : Nat) (h : AccessRow) (created : List Nat) (w : PlaneWorld) :
    Prop :=
  ∃ rows marks place, Removable rows marks created ∧ View S n h rows marks place w

lemma stable_working (h : AccessRow) (created : List Nat) :
    Stable (contract S) (.reconcile h.id n) (Working S n h created) :=
  stable_exists fun _ => stable_exists fun _ => stable_exists fun _ =>
    (stable_const _).and (stable_view h _ _ _)

lemma Working.held {h : AccessRow} {created : List Nat} {w : PlaneWorld}
    (hw : Working S n h created w) : Held S n h w := by
  obtain ⟨rows, marks, place, -, hv⟩ := hw
  exact ⟨rows, marks, place, hv⟩

lemma Held.working {h : AccessRow} {w : PlaneWorld} (hw : Held S n h w) :
    Working S n h [] w := by
  obtain ⟨rows, marks, place, hv⟩ := hw
  exact ⟨rows, marks, place, ⟨by simp, by simp⟩, hv⟩

lemma markWorking_triple {h : AccessRow} {created : List Nat} {revision k : Nat}
    {status : DnsRowStatus} {lastError : Option String} :
    Triple (contract S) (.reconcile h.id n) (Working S n h created)
      (call (.markRecord h.id revision k status lastError)).run
      (Exits (fun _ => Working S n h created) fun _ => Working S n h created) := by
  refine triple_exists fun rows => triple_exists fun marks => triple_exists fun place => ?_
  refine triple_pre fun hr => ?_
  have hr' : Removable (mapRow k (markRow status lastError) rows) marks created := by
    have hkeys := keys_mapRow (k := k) (f := markRow status lastError) (fun _ => rfl) rows
    exact ⟨by rw [hkeys]; exact hr.front, by rw [hkeys]; exact hr.each⟩
  refine exits_conseq mark_call (fun _ _ h => h) ?_ ?_
  · rintro b w - (⟨-, h⟩ | h)
    · exact ⟨_, _, _, hr, h⟩
    · exact ⟨_, _, _, hr', h⟩
  · rintro e w - ⟨-, h | h⟩
    · exact ⟨_, _, _, hr, h⟩
    · exact ⟨_, _, _, hr', h⟩

lemma markHeld_triple {h : AccessRow} {revision k : Nat} {status : DnsRowStatus}
    {lastError : Option String} :
    Triple (contract S) (.reconcile h.id n) (Held S n h)
      (call (.markRecord h.id revision k status lastError)).run
      (Exits (fun _ => Held S n h) fun _ => Held S n h) :=
  exits_conseq markWorking_triple (fun _ _ h => Held.working h) (fun _ _ _ h => Working.held h)
    fun _ _ _ h => Working.held h

/-- The fields of a record that is tracked. -/
def tracked (d : Deployment) (item : Wanted) (recordId : Nat) : TrackedRecord :=
  { type := item.1, content := item.2, recordId, ownershipMarker := ownershipMarker d.access.id }

lemma track_triple {rows : List DnsRow} {marks place : List RemoteRecord} {item : Wanted}
    {k : Nat} (hr : ∃ r ∈ marks, r.id = k ∧ r.type = item.1) :
    Triple (contract S) (.reconcile d.access.id n) (View S n d.access rows marks place)
      (track d item k).run
      (Exits (fun _ => View S n d.access (trackedRows d.access.id (tracked d item k) rows)
          marks place)
        fun _ w => View S n d.access rows marks place w ∨
          View S n d.access (trackedRows d.access.id (tracked d item k) rows) marks place w) := by
  have hv := stable_view (S := S) (n := n) d.access rows marks place
  have hv' := stable_view (S := S) (n := n) d.access
    (trackedRows d.access.id (tracked d item k) rows) marks place
  refine exits_conseq (orSuperseded_triple
    (fun b => ((stable_const _).and hv).or ((stable_const _).and hv'))
    (fun _ => (stable_const _).and (hv.or hv')) (save_call hr) ?_) (fun _ _ h => h) ?_ ?_
  · rintro w (⟨-, h⟩ | ⟨hfalse, -⟩)
    · exact ⟨rfl, Or.inl h⟩
    · cases hfalse
  · rintro - w - (⟨hfalse, -⟩ | ⟨-, h⟩)
    · cases hfalse
    · exact h
  · exact fun e w _ h => h.2

/-! ### Deleting what is the access's own -/

lemma deleteOwnedRecord_triple {rows : List DnsRow} {marks place : List RemoteRecord} {k : Nat}
    (hk : k ∈ keys rows) :
    Triple (contract S) (.reconcile d.access.id n) (View S n d.access rows marks place)
      (deleteOwnedRecord d k).run
      (Exits
        (fun _ => View S n d.access (deletedRows k rows)
          (dropped d.access.deployedZoneIdentifier k marks)
          (dropped d.access.deployedZoneIdentifier k place))
        fun _ => Held S n d.access) := by
  have hheld := stable_held (S := S) (n := n) d.access
  have hgone := stable_view (S := S) (n := n) d.access rows
    (dropped d.access.deployedZoneIdentifier k marks)
    (dropped d.access.deployedZoneIdentifier k place)
  -- an explicit not-found tells that the record is gone
  let X (e : Failure) (w : PlaneWorld) : Prop :=
    (e.isExplicitNotFound → View S n d.access rows
      (dropped d.access.deployedZoneIdentifier k marks)
      (dropped d.access.deployedZoneIdentifier k place) w) ∧ Held S n d.access w
  have hX (e : Failure) : Stable (contract S) (.reconcile d.access.id n) (X e) :=
    hgone.imp.and hheld
  refine exits_catch (lawful S) (fun _ => stable_view _ _ _ _) (X := X) ?_ fun e => ?_
  · refine exits_bind (lawful S) hX
      (K := fun _ => View S n d.access rows (dropped d.access.deployedZoneIdentifier k marks)
        (dropped d.access.deployedZoneIdentifier k place)) ?_ fun _ => ?_
    · refine exits_conseq (delete_call (Or.inl hk)) (fun _ _ h => h) (fun _ _ _ h => h) ?_
      rintro e w - ⟨hgone, h | h⟩
      · exact ⟨hgone, View.held h⟩
      · exact ⟨hgone, View.held h⟩
    · refine exits_conseq markDeleted_triple (fun _ _ h => h) (fun _ _ _ h => h) ?_
      rintro e w - ⟨he, h⟩
      exact ⟨fun hfound => absurd hfound (by simp [he]), h⟩
  · by_cases he : e.isExplicitNotFound
    · simp only [he, if_true]
      exact exits_conseq markDeleted_triple (fun w _ h => h.1 he) (fun _ _ _ h => h)
        fun e w _ h => h.2
    · rw [if_neg he]
      refine exits_bind (lawful S) (fun _ => hheld) (K := fun _ => Held S n d.access) ?_
        fun _ => exits_throw hheld fun _ _ h => h
      exact triple_conseq markHeld_triple (fun _ _ h => h.2) fun _ _ _ h => h

lemma mem_deletedRows {k : Nat} {rows : List DnsRow} {row : DnsRow}
    (h : row ∈ deletedRows k rows) : row.status = .deleted ∨ row ∈ rows ∧ row.recordId ≠ k := by
  obtain ⟨old, hold, rfl⟩ := List.mem_map.mp h
  by_cases hk : old.recordId = k
  · rw [if_pos hk]
    exact Or.inl rfl
  · rw [if_neg hk]
    exact Or.inr ⟨hold, hk⟩

lemma mem_trackedRows {id : String} {record : TrackedRecord} {rows : List DnsRow} {row : DnsRow}
    (h : row ∈ trackedRows id record rows) :
    row.recordId = record.recordId ∨ row ∈ rows ∧ row.recordId ≠ record.recordId := by
  by_cases hk : row.recordId = record.recordId
  · exact Or.inl hk
  · refine Or.inr ⟨?_, hk⟩
    unfold trackedRows at h
    split at h
    · obtain ⟨old, hold, rfl⟩ := List.mem_map.mp h
      by_cases hold' : old.recordId = record.recordId
      · rw [if_pos hold'] at hk
        exact absurd hold' hk
      · rw [if_neg hold']
        exact hold
    · rcases List.mem_append.mp h with h | h
      · exact h
      · rw [List.mem_singleton.mp h] at hk
        exact absurd rfl hk

lemma keys_deletedRows (k : Nat) (rows : List DnsRow) : keys (deletedRows k rows) = keys rows :=
  keys_mapRow (f := markRow .deleted none) (fun _ => rfl) rows

lemma keys_trackedRows {id : String} {record : TrackedRecord} {rows : List DnsRow} {k : Nat} :
    k ∈ keys (trackedRows id record rows) ↔ k ∈ keys rows ∨ k = record.recordId := by
  unfold trackedRows
  split_ifs with hany
  · rw [keys_mapRow (f := trackRow record) fun _ => rfl]
    refine ⟨Or.inl, ?_⟩
    rintro (h | rfl)
    · exact h
    · obtain ⟨row, hrow, hk⟩ := List.any_eq_true.mp hany
      exact List.mem_map.mpr ⟨row, hrow, of_decide_eq_true hk⟩
  · simp [keys]

def AllDeleted (rows : List DnsRow) : Prop := ∀ row ∈ rows, row.status = .deleted

/-- The rows left to delete are those of a list. -/
lemma deleteOwned_triple (l : List DnsRow) : ∀ (rows : List DnsRow)
    (marks place : List RemoteRecord), (∀ record ∈ l, record.recordId ∈ keys rows) →
    (∀ row ∈ rows, row.status = .deleted ∨ row.recordId ∈ keys l) →
    Triple (contract S) (.reconcile d.access.id n) (View S n d.access rows marks place)
      (deleteOwned d l).run
      (Exits (fun _ w => ∃ rows marks place, AllDeleted rows ∧
          View S n d.access rows marks place w)
        fun _ => Held S n d.access) := by
  have hheld := stable_held (S := S) (n := n) d.access
  induction l with
  | nil =>
    intro rows marks place _ hleft
    refine exits_pure (stable_view _ _ _ _) fun w _ hv => ⟨rows, marks, place, ?_, hv⟩
    exact fun row hrow => (hleft row hrow).resolve_right List.not_mem_nil
  | cons record l ih =>
    intro rows marks place hkeys hleft
    refine exits_bind (lawful S) (fun _ => hheld)
      (deleteOwnedRecord_triple (hkeys record List.mem_cons_self)) fun _ => ?_
    refine ih _ _ _ (fun other hother => ?_) fun row hrow => ?_
    · rw [keys_deletedRows]
      exact hkeys other (List.mem_cons_of_mem _ hother)
    · rcases mem_deletedRows hrow with hrow | ⟨hrow, hk⟩
      · exact Or.inl hrow
      · refine (hleft row hrow).imp_right fun hmem => ?_
        exact (List.mem_cons.mp hmem).resolve_left hk

/-- The marked records left to delete are those of a list. -/
lemma deleteRecoverable_triple (l : List RemoteRecord) : ∀ (rows : List DnsRow)
    (marks place : List RemoteRecord), AllDeleted rows →
    (∀ r ∈ l, r ∈ marks ∧ r.zone = d.access.deployedZoneIdentifier ∧
      (expected d.access r.type r.content).isSome) →
    (l.map (·.id)).Nodup → (S.honest → ∀ r ∈ marks, r ∈ l) →
    Triple (contract S) (.reconcile d.access.id n) (View S n d.access rows marks place)
      (deleteRecoverable d l).run
      (Exits (fun _ w => ∃ rows marks place, (AllDeleted rows ∧ (S.honest → marks = [])) ∧
          View S n d.access rows marks place w)
        fun _ => Held S n d.access) := by
  have hheld := stable_held (S := S) (n := n) d.access
  induction l with
  | nil =>
    intro rows marks place hrows _ _ hall
    refine exits_pure (stable_view _ _ _ _)
      fun w _ hv => ⟨rows, marks, place, ⟨hrows, fun hs => ?_⟩, hv⟩
    exact List.eq_nil_iff_forall_not_mem.mpr fun r hr => List.not_mem_nil (hall hs r hr)
  | cons r l ih =>
    intro rows marks place hrows hl hnodup hall
    obtain ⟨hr, hzone, hsome⟩ := hl r List.mem_cons_self
    obtain ⟨hnew, hnodup⟩ := List.nodup_cons.mp hnodup
    obtain ⟨item, hitem⟩ := Option.isSome_iff_exists.mp hsome
    have htype : item.1 = r.type := expected_type hitem
    unfold deleteRecoverable
    rw [hitem]
    refine exits_bind (lawful S) (fun _ => hheld)
      (K := fun _ => View S n d.access
        (trackedRows d.access.id (tracked d item r.id) rows) marks place) ?_ fun _ => ?_
    · refine exits_conseq (track_triple ⟨r, hr, rfl, htype.symm⟩) (fun _ _ h => h)
        (fun _ _ _ h => h) ?_
      rintro e w - (h | h)
      · exact View.held h
      · exact View.held h
    · refine exits_bind (lawful S) (fun _ => hheld)
        (deleteOwnedRecord_triple (keys_trackedRows.mpr (Or.inr rfl))) fun _ => ?_
      refine ih _ _ _ (fun row hrow => ?_) (fun r' hr' => ?_) hnodup fun hs r' hr' => ?_
      · rcases mem_deletedRows hrow with hrow | ⟨hrow, hk⟩
        · exact hrow
        · exact hrows row ((mem_trackedRows hrow).resolve_left hk).1
      · obtain ⟨hmarks, hzone', hsome'⟩ := hl r' (List.mem_cons_of_mem _ hr')
        refine ⟨List.mem_filter.mpr ⟨hmarks, ?_⟩, hzone', hsome'⟩
        have hne : r'.id ≠ r.id := fun heq => hnew (List.mem_map.mpr ⟨r', hr', heq⟩)
        simp [hne]
      · obtain ⟨hmarks, hkept⟩ := List.mem_filter.mp hr'
        rcases List.mem_cons.mp (hall hs r' hmarks) with rfl | hmem
        · simp [hzone] at hkept
        · exact hmem

/-! ### Parts that leave DNS alone -/

/-- A call a run may make anywhere, and that leaves DNS alone. -/
def Free (id : String) (c : Call) : Prop :=
  isQuiet c ∧ ∀ S n w, allowed S (.reconcile id n) w c

lemma free_triple {α : Type} {p : Handler α} (hp : p.run.Only (Free d.access.id))
    {P : PlaneWorld → Prop} (hP : Stable (contract S) (.reconcile d.access.id n) P)
    (hq : Unmoved P) :
    Triple (contract S) (.reconcile d.access.id n) P p.run
      (Exits (fun _ => P) fun _ => P) := by
  refine triple_conseq (triple_only hp hP (fun w c hc _ _ => hc.2 S n w) ?_)
    (fun _ _ h => h) ?_
  · rintro w c r w' ⟨hc, -⟩ hi hp ⟨⟨ch, hcases⟩, -⟩
    have hkeep : P (c.run ch (.reconcile d.access.id n) w).2 := by
      obtain ⟨hquiet, hholder⟩ := quiet_run hc ch (.reconcile d.access.id n) w
      exact hq w _ hquiet hholder hp
    have hstep := quiet_step (i := .reconcile d.access.id n) hc ch hi
    rcases hcases with ⟨-, rfl⟩ | ⟨e, -, -, rfl | rfl⟩
    · exact ⟨hstep.1, hstep.2, hkeep⟩
    · exact ⟨hi, fun j _ => (lawful S).refl j w', hp⟩
    · exact ⟨hstep.1, hstep.2, hkeep⟩
  · rintro (e | a) w - h
    · exact h
    · exact h

lemma unmoved_held (h : AccessRow) : Unmoved (Held S n h) := by
  rintro w w' hq hholder ⟨rows, marks, place, hv⟩
  exact ⟨rows, marks, place, unmoved_view h rows marks place w w' hq hholder hv⟩

lemma free_put {id account tunnel : String} {ingress : List Rule} :
    Free id (.putTunnelConfig account tunnel ingress) := ⟨rfl, fun _ _ _ => trivial⟩

lemma rewriteIngress_free (tunnelId : String) (rules : List Rule) :
    (rewriteIngress d tunnelId rules).run.Only (Free d.access.id) := by
  unfold rewriteIngress
  split
  · exact only_call free_put
  · trivial

lemma withdraw_free : (withdraw d).run.Only (Free d.access.id) := by
  unfold withdraw
  split
  · exact only_bind (only_call ⟨rfl, fun _ _ _ => trivial⟩) (rewriteIngress_free _)
  · trivial

lemma restoreIngress_free (originalIngress : Option (List Rule)) :
    (restoreIngress d originalIngress).run.Only (Free d.access.id) := by
  unfold restoreIngress
  split
  · split
    · exact only_catch (only_call free_put) fun _ => trivial
    · trivial
  · trivial

/-! ### Compensation -/

lemma Removable.tail {rows : List DnsRow} {marks : List RemoteRecord} {k : Nat} {l : List Nat}
    (h : Removable rows marks (k :: l)) : Removable rows marks l := by
  refine ⟨fun k' hk' => h.front k' ?_, fun k' hk' => h.each k' (List.mem_cons_of_mem _ hk')⟩
  cases l with
  | nil => cases hk'
  | cons k'' l => exact List.mem_cons_of_mem _ hk'

/-- Removing the first takes none of the others away that is only marked. -/
lemma Removable.drop {rows : List DnsRow} {marks : List RemoteRecord} {k : Nat} {l : List Nat}
    (h : Removable rows marks (k :: l)) (zone : String) :
    Removable rows (dropped zone k marks) l := by
  refine ⟨h.tail.front, fun k' hk' => ?_⟩
  rcases h.tail.each k' hk' with hkeys | ⟨r, hr, hrk⟩
  · exact Or.inl hkeys
  · by_cases heq : k' = k
    · refine Or.inl (h.front k' ?_)
      cases l with
      | nil => cases hk'
      | cons k'' l =>
        rw [heq]
        exact List.mem_cons_self
    · refine Or.inr ⟨r, List.mem_filter.mpr ⟨hr, ?_⟩, hrk⟩
      simp [hrk, heq]

lemma removeCreated_triple (l : List Nat) :
    Triple (contract S) (.reconcile d.access.id n) (Working S n d.access l)
      (removeCreated d l).run
      (Exits (fun _ => Held S n d.access) fun _ => Held S n d.access) := by
  have hheld := stable_held (S := S) (n := n) d.access
  induction l with
  | nil => exact exits_pure (stable_working _ _) fun _ _ h => Working.held h
  | cons k l ih =>
    have hworking := stable_working (S := S) (n := n) d.access l
    have hmark (status : DnsRowStatus) (lastError : Option String) :
        Triple (contract S) (.reconcile d.access.id n) (Working S n d.access l)
          (do let _ ← call (.markRecord d.access.id d.access.revision k status lastError) :
            Handler Unit).run
          (Exits (fun _ => Working S n d.access l) fun _ => Working S n d.access l) :=
      exits_bind (lawful S) (fun _ => hworking) markWorking_triple
        fun _ => exits_pure hworking fun _ _ h => h
    refine exits_bind (lawful S) (fun _ => hheld) (K := fun _ => Working S n d.access l) ?_
      fun _ => ih
    refine exits_catch (lawful S) (fun _ => hworking) (X := fun _ => Working S n d.access l)
      ?_ fun e => ?_
    · refine exits_bind (lawful S) (fun _ => hworking) (K := fun _ => Working S n d.access l) ?_
        fun _ => hmark _ _
      refine triple_exists fun rows => triple_exists fun marks => triple_exists fun place => ?_
      refine triple_pre fun hr => ?_
      refine exits_conseq (delete_call (hr.each k List.mem_cons_self)) (fun _ _ h => h) ?_ ?_
      · exact fun _ w _ h => ⟨_, _, _, hr.drop _, h⟩
      · rintro e w - ⟨-, h | h⟩
        · exact ⟨_, _, _, hr.tail, h⟩
        · exact ⟨_, _, _, hr.drop _, h⟩
    · have hhandler : Triple (contract S) (.reconcile d.access.id n) (Working S n d.access l)
          (if e.isExplicitNotFound then do
              let _ ← call (.markRecord d.access.id d.access.revision k .deleted none)
            else do
              let _ ← call (.markRecord d.access.id d.access.revision k .cleanupPending
                (safeCloudflareError e)) : Handler Unit).run
          (Exits (fun _ => Working S n d.access l) fun _ => Working S n d.access l) := by
        split
        · exact hmark _ _
        · exact hmark _ _
      exact exits_conseq hhandler (fun _ _ h => h) (fun _ _ _ h => h) fun _ _ _ h => Working.held h

lemma compensate_triple {α : Type} {K : α → PlaneWorld → Prop} (progress : Progress)
    (e : Failure) :
    Triple (contract S) (.reconcile d.access.id n)
      (Working S n d.access progress.createdThisAttempt)
      (compensate d progress e : Handler α).run (Exits K fun _ _ => True) := by
  have hheld := stable_held (S := S) (n := n) d.access
  refine exits_throws (K := fun _ => Held S n d.access) (compensate_throws d progress e) ?_
  refine exits_conseq (X := fun _ => Held S n d.access) ?_ (fun _ _ h => h) (fun _ _ _ h => h)
    fun _ _ _ _ => trivial
  refine exits_bind (lawful S) (fun _ => hheld) (removeCreated_triple _) fun _ => ?_
  refine exits_bind (lawful S) (fun _ => hheld)
    (free_triple (restoreIngress_free _) hheld (unmoved_held _)) fun _ => ?_
  refine free_triple ?_ hheld (unmoved_held _)
  split
  · trivial
  · exact only_bind (only_call ⟨rfl, fun _ _ _ => ⟨rfl, fun _ _ => trivial⟩⟩) fun _ => trivial

lemma guarded_triple {α : Type} {p : Handler α} {P : PlaneWorld → Prop}
    {K : α → PlaneWorld → Prop} (progress : Progress)
    (hK : ∀ a, Stable (contract S) (.reconcile d.access.id n) (K a))
    (hp : Triple (contract S) (.reconcile d.access.id n) P p.run
      (Exits K fun _ => Working S n d.access progress.createdThisAttempt)) :
    Triple (contract S) (.reconcile d.access.id n) P (guarded d progress p).run
      (Exits K fun _ _ => True) :=
  exits_catch (lawful S) hK hp fun e => compensate_triple progress e

/-! ### Disabling -/

lemma outcome_triple {P : PlaneWorld → Prop} {status : AccessStatus} {lastError : Option String}
    (hP : Stable (contract S) (.reconcile d.access.id n) P) (hq : Unmoved P)
    (hok : ∀ w, Inv S w → P w → allowed S (.reconcile d.access.id n) w
      (.outcome d.access.id d.access.revision status lastError)) :
    Triple (contract S) (.reconcile d.access.id n) P (outcome d status lastError).run
      (Exits (fun _ => P) fun _ => P) := by
  refine exits_bind (lawful S) (fun _ => hP)
    (exits_silent rfl hP hq hok) fun saved => ?_
  cases saved with
  | none => exact exits_throw hP fun _ _ h => h
  | some saved => exact exits_pure hP fun _ _ h => h

lemma disable_triple {marks place : List RemoteRecord} :
    Triple (contract S) (.reconcile d.access.id n) (View S n d.access d.owned marks place)
      (disable d).run (Exits (fun _ _ => True) fun _ _ => True) := by
  have hheld := stable_held (S := S) (n := n) d.access
  refine exits_conseq (guarded_triple {} (K := fun _ => Held S n d.access) (fun _ => hheld) ?_)
    (fun _ _ h => h) (fun _ _ _ _ => trivial) fun _ _ _ h => h
  refine exits_conseq (X := fun _ => Held S n d.access) ?_ (fun _ _ h => h) (fun _ _ _ h => h)
    fun _ _ _ h => Held.working h
  refine exits_bind (lawful S) (fun _ => hheld) (deleteOwned_triple _ _ _ _ ?_ ?_) fun _ => ?_
  · exact fun record hrecord => List.mem_map_of_mem (List.mem_filter.mp hrecord).1
  · intro row hrow
    by_cases hdeleted : row.status = .deleted
    · exact Or.inl hdeleted
    · exact Or.inr (List.mem_map_of_mem (List.mem_filter.mpr ⟨hrow, by simpa using hdeleted⟩))
  refine triple_exists fun rows => triple_exists fun marks => triple_exists fun place => ?_
  refine triple_pre fun hrows => ?_
  refine exits_bind (lawful S) (fun _ => hheld)
    (exits_conseq list_call (fun _ _ h => h) (fun _ _ _ h => h) fun _ _ _ h => View.held h)
    fun remote => triple_pre fun hlisted => ?_
  refine exits_bind (lawful S) (fun _ => hheld)
    (deleteRecoverable_triple _ rows marks place hrows ?_ ?_ ?_) fun _ => ?_
  · intro r hr
    obtain ⟨hr, hrec⟩ := List.mem_filter.mp hr
    obtain ⟨hown, hsome⟩ := Bool.and_eq_true_iff.mp hrec
    exact ⟨hlisted.own r hr (isOwn_iff.mp hown).2, hlisted.zone r hr, hsome⟩
  · exact hlisted.nodup.sublist (List.filter_sublist.map _)
  · intro hs r hr
    obtain ⟨hmem, hown, hsome⟩ := hlisted.complete hs r hr
    exact List.mem_filter.mpr ⟨hmem, Bool.and_eq_true_iff.mpr ⟨hown, hsome⟩⟩
  refine triple_exists fun rows => triple_exists fun marks => triple_exists fun place => ?_
  refine triple_pre fun hempty => ?_
  have hv := stable_view (S := S) (n := n) d.access rows marks place
  have hu := unmoved_view (S := S) (n := n) d.access rows marks place
  refine exits_bind (lawful S) (fun _ => hheld)
    (exits_conseq (free_triple withdraw_free hv hu) (fun _ _ h => h) (fun _ _ _ h => h)
      fun _ _ _ h => View.held h) fun _ => ?_
  refine exits_conseq (outcome_triple hv hu fun w _ hp => ⟨rfl, fun h _ => ?_⟩) (fun _ _ h => h)
    (fun _ _ _ h => View.held h) fun _ _ _ h => View.held h
  exact ⟨by rw [hp.rows]; exact hempty.1, fun hs => by rw [hp.marks]; exact hempty.2 hs⟩

end GatewayControl.DnsReconcile
