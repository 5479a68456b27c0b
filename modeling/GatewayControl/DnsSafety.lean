import GatewayControl.DnsEnable

/-!
Reconciliations under their locks, in the whole system: which records are deleted, and what
an access is left with.
-/

namespace GatewayControl.DnsSafety

open Database Store Placement Publishing Ingress Cloudflare Calls Reconcile Verification Programs
open ControlPlane AccessHistory DnsOwnership DnsRuns DnsReconcile DnsRecords DnsEnable

variable {S : Scope} {id : String} {n : Nat}

/-! ### Under the lock -/

def Holding (id : String) (n : Nat) (w : PlaneWorld) : Prop :=
  w.holder (.domainAccess id) = some (.reconcile id n)

lemma stable_holding : Stable (contract S) (.reconcile id n) (Holding id n) :=
  fun _ _ _ _ hr hh => hr.holder hh

lemma unmoved_holding : Unmoved (Holding id n) := by
  intro w w' _ hholder hh
  rw [Holding, hholder]
  exact hh

lemma deployment_some {db : PublishDb} {d : Deployment}
    (h : getCloudflareDomainAccessDeployment db id = some d) :
    db.accesses.find? id = some d.access ∧ d.owned = ownedDnsRecords db id := by
  unfold getCloudflareDomainAccessDeployment at h
  obtain ⟨access, haccess, h⟩ := Option.bind_eq_some_iff.mp h
  obtain ⟨account, -, h⟩ := Option.bind_eq_some_iff.mp h
  obtain ⟨zone, -, h⟩ := Option.bind_eq_some_iff.mp h
  obtain ⟨route, -, h⟩ := Option.bind_eq_some_iff.mp h
  obtain rfl := Option.some.inj h
  exact ⟨haccess, rfl⟩

lemma keys_owned_nodup (db : PublishDb) (id : String) :
    (keys (ownedDnsRecords db id)).Nodup := by
  have hkeys : ((ownedDnsRecords db id).map DnsRow.key).Nodup :=
    db.dnsRows.distinct.sublist (List.filter_sublist.map _)
  have hpairs : (ownedDnsRecords db id).map DnsRow.key =
      (keys (ownedDnsRecords db id)).map fun k => (id, k) := by
    rw [keys, List.map_map]
    refine List.map_congr_left fun row hrow => ?_
    exact Prod.ext (of_decide_eq_true (List.mem_filter.mp hrow).2) rfl
  rw [hpairs] at hkeys
  exact hkeys.of_map _

/-- What a run knows when it has read its deployment. -/
def Started (S : Scope) (id : String) (n : Nat) : Option Deployment → PlaneWorld → Prop
  | none => fun _ => True
  | some d => fun w => d.access.id = id ∧ (keys d.owned).Nodup ∧ ∃ marks place,
      (S.strict → DistinctWanted d.access ∧
        (d.access.enabled → NoneLeft d.access d.owned place)) ∧
      View S n d.access d.owned marks place w

lemma stable_started (d : Option Deployment) :
    Stable (contract S) (.reconcile id n) (Started S id n d) := by
  cases d with
  | none => exact stable_const True
  | some d =>
    rintro w w' hi hi' hr ⟨rfl, hkeys, marks, place, hs, hv⟩
    exact ⟨rfl, hkeys, marks, place, hs, stable_view _ _ _ _ w w' hi hi' hr hv⟩

lemma deployment_triple :
    Triple (contract S) (.reconcile id n) (Holding id n) (call (.deployment id)).run
      (Exits (Started S id n) fun _ _ => True) := by
  refine exits_call stable_holding stable_started (fun _ => stable_true) (fun _ _ _ => trivial)
    (fun w ch hi _ => quiet_step rfl ch hi) (fun w ch hi hh hstep => ?_)
    fun _ _ _ _ _ _ _ => ⟨trivial, trivial⟩
  change Started S id n (getCloudflareDomainAccessDeployment w.db id) w
  cases hd : getCloudflareDomainAccessDeployment w.db id with
  | none => trivial
  | some d =>
    obtain ⟨hfound, howned⟩ := deployment_some hd
    have hid : d.access.id = id := Table.key_find? hfound
    refine ⟨hid, howned ▸ keys_owned_nodup _ _, marked w.cloud.records id,
      placeOf d.access w.cloud.records, fun hs => ⟨(hi.plain id _ hfound).distinct, fun hen => ?_⟩, ?_⟩
    · rw [howned]
      exact hstep hs d.access hfound hen
    · refine ⟨hid ▸ hh, ⟨d.access, hid ▸ hfound, .refl _⟩, ?_, ?_, fun _ => rfl⟩
      · rw [hid, howned]
      · rw [hid]

lemma reconcileLocked_triple (requireHttpsObservation : Bool) :
    Triple (contract S) (.reconcile id n) (Holding id n)
      (reconcileLocked id requireHttpsObservation).run
      (Exits (fun _ _ => True) fun _ _ => True) := by
  refine exits_bind (lawful S) (fun _ => stable_true) deployment_triple fun deployment => ?_
  cases deployment with
  | none => exact exits_throw stable_true fun _ _ h => h
  | some d =>
    rintro w hi ⟨rfl, hkeys, marks, place, hstart, hv⟩
    have hheld := stable_held (S := S) (n := n) d.access
    have hfailed {α : Type} (message : String) (e : Failure) :
        Triple (contract S) (.reconcile d.access.id n) (Held S n d.access)
          (do
            let _ ← outcome d .failed message
            throw e : Handler α).run (Exits (fun _ _ => True) fun _ _ => True) :=
      exits_bind (lawful S) (fun _ => stable_true)
        (exits_conseq (outcome_triple hheld (unmoved_held _) fun _ _ _ => ⟨rfl, fun _ _ => trivial⟩)
          (fun _ _ h => h) (fun _ _ _ h => h) fun _ _ _ _ => trivial)
        fun _ => exits_throw hheld fun _ _ _ => trivial
    dsimp only
    split_ifs with htopology htoken henabled
    · exact hfailed _ _ w hi (View.held hv)
    · exact hfailed _ _ w hi (View.held hv)
    · exact enable_triple hkeys (fun hs => ⟨(hstart hs).1, (hstart hs).2 henabled⟩) w hi hv
    · exact disable_triple w hi hv

/-! ### The locks -/

lemma quiet_holder (w : PlaneWorld) (holder : LockKey → Option Slot) :
    Quiet w { w with holder } :=
  ⟨evolves_same rfl, rfl, rfl, rfl, fun h => h⟩

lemma acquire_triple {i : Slot} {key : LockKey} {P K : PlaneWorld → Prop}
    (hP : Stable (contract S) i P) (hK : Stable (contract S) i K)
    (hstep : ∀ w, P w → w.holder key = none →
      K { w with holder := Function.update w.holder key (some i) }) :
    Triple (contract S) i P (call (.acquire key)).run (Exits (fun _ => K) fun _ _ => True) := by
  have hrun (w : PlaneWorld) (ch : Choice) : w.holder key = none ∧
        (Call.acquire key).run ch i w =
          (.ok (), { w with holder := Function.update w.holder key (some i) }) ∨
      (Call.acquire key).run ch i w = (.error lockTimeout, w) := by
    rw [run_acquire]
    by_cases hfree : w.holder key = none
    · exact Or.inl ⟨hfree, if_pos hfree⟩
    · exact Or.inr (if_neg hfree)
  refine exits_call hP (fun _ => hK) (fun _ => stable_true) (fun _ _ _ => ?_)
    (fun w ch hi hp => ?_) (fun w ch hi hp _ => ?_) fun _ _ _ _ _ _ _ => ⟨trivial, trivial⟩
  · cases i
    · trivial
    · trivial
  · rcases hrun w ch with ⟨hfree, heq⟩ | heq <;> rw [heq]
    · refine ⟨(quiet_holder w _).inv hi, fun j _ => (quiet_holder w _).rely fun key' hkey' => ?_⟩
      have hne : key' ≠ key := by
        rintro rfl
        rw [hfree] at hkey'
        cases hkey'
      simpa [Function.update_of_ne hne] using hkey'
    · exact ⟨hi, fun j _ => (lawful S).refl j w⟩
  · rcases hrun w ch with ⟨hfree, heq⟩ | heq <;> rw [heq]
    · exact hstep w hp hfree
    · trivial

lemma release_step {i : Slot} {key : LockKey} (ch : Choice) {w : PlaneWorld} (hi : Inv S w) :
    Inv S ((Call.release key).run ch i w).2 ∧
      ∀ j, j ≠ i → Rely S j w ((Call.release key).run ch i w).2 := by
  rw [run_release]
  by_cases hmine : w.holder key = some i
  · rw [if_pos hmine]
    refine ⟨(quiet_holder w _).inv hi, fun j hj => (quiet_holder w _).rely fun key' hkey' => ?_⟩
    have hne : key' ≠ key := by
      rintro rfl
      exact hj (Option.some.inj (hkey'.symm.trans hmine))
    simpa [Function.update_of_ne hne] using hkey'
  · rw [if_neg hmine]
    exact ⟨hi, fun j _ => (lawful S).refl j w⟩

lemma releaseAll_triple {i : Slot} (locks : List LockKey) :
    Triple (contract S) i (fun _ => True) (releaseAll locks) fun _ _ => True := by
  have honly : (releaseAll locks).Only fun c => ∃ key, c = Call.release key := by
    induction locks with
    | nil => trivial
    | cons key rest ih => exact ⟨⟨key, rfl⟩, fun _ => ih⟩
  refine triple_only honly stable_true ?_ ?_
  · rintro w c ⟨key, rfl⟩ _ _
    cases i
    · trivial
    · trivial
  · rintro w c r w' ⟨key, rfl⟩ hi _ ⟨⟨ch, hcases⟩, -⟩
    rcases hcases with ⟨-, rfl⟩ | ⟨e, -, -, rfl | rfl⟩
    · exact ⟨(release_step ch hi).1, (release_step ch hi).2, trivial⟩
    · exact ⟨hi, fun j _ => (lawful S).refl j w', trivial⟩
    · exact ⟨(release_step ch hi).1, (release_step ch hi).2, trivial⟩

lemma finallyRelease_triple {i : Slot} {α : Type} {p : Handler α} {P : PlaneWorld → Prop}
    (locks : List LockKey)
    (hp : Triple (contract S) i P p.run (Exits (fun _ _ => True) fun _ _ => True)) :
    Triple (contract S) i P (finallyRelease locks p).run
      (Exits (fun _ _ => True) fun _ _ => True) := by
  refine triple_bind (lawful S) hp fun answer => ?_
  refine triple_bind (lawful S) (triple_conseq (releaseAll_triple locks) (fun _ _ _ => trivial)
    fun _ _ _ h => h) fun _ => triple_pure stable_true fun _ _ _ => ?_
  cases answer
  · trivial
  · trivial

lemma reconcileDomainAccess_triple (requireHttpsObservation : Bool) :
    Triple (contract S) (.reconcile id n) (fun _ => True)
      (reconcileDomainAccess id requireHttpsObservation).run
      (Exits (fun _ _ => True) fun _ _ => True) := by
  have hholding : Stable (contract S) (.reconcile id n) (Holding id n) := stable_holding
  refine finallyRelease_triple _ (exits_bind (lawful S) (fun _ => stable_true)
    (acquire_triple stable_true hholding fun w _ _ => by simp [Holding]) fun _ => ?_)
  refine exits_bind (lawful S) (fun _ => stable_true)
    (exits_conseq (exits_silent rfl hholding unmoved_holding fun _ _ _ => trivial)
      (fun _ _ h => h) (fun _ _ _ h => h) fun _ _ _ _ => trivial) fun row => ?_
  cases row.bind tunnelKey with
  | none => exact reconcileLocked_triple _
  | some key =>
    refine finallyRelease_triple _ (exits_bind (lawful S) (fun _ => stable_true)
      (acquire_triple hholding hholding fun w hh hfree => ?_)
      fun _ => reconcileLocked_triple _)
    have hne : LockKey.domainAccess id ≠ key := by
      rintro rfl
      rw [Holding, hfree] at hh
      cases hh
    simpa [Holding, Function.update_of_ne hne] using hh

/-! ### The other steps of the system -/

lemma tickCall_quiet {c : Call} (hc : isTickCall c) : isQuiet c := by
  cases c with
  | pendingVerifications _ | listAccess | route _ | observe _ | saveObservation _ _ => rfl
  | outcome _ _ _ _ | updateGuided _ _ | now => rfl
  | _ => simp [isTickCall] at hc

lemma tick_triple {p : Prog Plane (Except Failure Unit)} (hp : p.Only (isTickCall ·)) :
    Triple (contract S) (.tick n) (fun _ => True) p fun _ _ => True := by
  refine triple_only hp stable_true (fun w c hc _ _ => ?_) ?_
  · cases c with
    | deleteRecord _ _ => simp [isTickCall] at hc
    | _ => trivial
  · rintro w c r w' hc hi - ⟨⟨ch, hcases⟩, -⟩
    have hstep := quiet_step (i := .tick n) (tickCall_quiet hc) ch hi
    rcases hcases with ⟨-, rfl⟩ | ⟨e, -, -, rfl | rfl⟩
    · exact ⟨hstep.1, hstep.2, trivial⟩
    · exact ⟨hi, fun j _ => (lawful S).refl j w', trivial⟩
    · exact ⟨hstep.1, hstep.2, trivial⟩

lemma starts_triple {render : Render} {i : Slot} {p : Prog Plane (Except Failure Unit)}
    (hp : Starts render i p) :
    Triple (contract S) i (fun _ => True) p fun _ _ => True := by
  cases hp with
  | reconcile id n requireHttpsObservation =>
    refine triple_conseq (exits_bind (lawful S) (fun _ => stable_true)
      (reconcileDomainAccess_triple requireHttpsObservation)
      fun _ => exits_pure (K := fun _ _ => True) stable_true fun _ _ h => h)
      (fun _ _ h => h) fun _ _ _ _ => trivial
  | tick n => exact tick_triple (reconcileGuidedVerifications_only render)

/-- Every act but a new access and a change of records leaves DNS alone. -/
lemma act_quiet {w : PlaneWorld} {a : Act} (hp : a.Possible w)
    (hcreate : ∀ newId values, a ≠ .create newId values)
    (hrecords : ∀ edited next, a ≠ .records edited next) :
    Quiet w (a.run w) ∧ (a.run w).holder = w.holder := by
  cases a with
  | request id enabled =>
    exact ⟨⟨evolves_update fun r => later_pendingRow enabled r, rfl, rfl, rfl, fun h => h⟩, rfl⟩
  | create newId values => exact absurd rfl (hcreate newId values)
  | account id values =>
    have hsame : ((updateCloudflareAccount w.db id values).getD w.db).accesses = w.db.accesses ∧
        ((updateCloudflareAccount w.db id values).getD w.db).dnsRows = w.db.dnsRows ∧
        ((updateCloudflareAccount w.db id values).getD w.db).base.managedRoutes =
          w.db.base.managedRoutes := by
      unfold updateCloudflareAccount
      split
      · exact ⟨rfl, rfl, rfl⟩
      · split
        · exact ⟨rfl, rfl, rfl⟩
        · exact ⟨rfl, rfl, rfl⟩
    refine ⟨⟨evolves_same hsame.1, hsame.2.1, rfl, rfl, fun h => ?_⟩, rfl⟩
    change PlainHosts ((updateCloudflareAccount w.db id values).getD w.db).base
    rw [PlainHosts, hsame.2.2]
    exact h
  | tables base zones apiTokens =>
    exact ⟨⟨evolves_same rfl, rfl, rfl, rfl, fun _ => hp.2.2.2⟩, rfl⟩
  | operations guided => exact ⟨⟨evolves_same rfl, rfl, rfl, rfl, fun h => h⟩, rfl⟩
  | records edited next => exact absurd rfl (hrecords edited next)
  | tunnel address config => exact ⟨⟨evolves_same rfl, rfl, rfl, rfl, fun h => h⟩, rfl⟩

lemma distinctWanted_new {db : PublishDb} {newId : String} {values : AccessValues} {row : AccessRow}
    (h : New db newId values row) (hd : Distinct values) : DistinctWanted row := by
  have hmap {type : DnsType} {l : List String} (hl : (l.map lower).Nodup) :
      (l.map (Prod.mk type)).Pairwise fun item item' => ¬sameTarget item item'.1 item'.2 := by
    rw [List.pairwise_map]
    rw [List.Nodup, List.pairwise_map] at hl
    refine hl.imp fun {x y} hne hsame => ?_
    have htarget : lower x = lower y := (sameTarget_iff.mp hsame).2
    exact hne htarget
  unfold DistinctWanted desired
  split
  · split
    · exact List.pairwise_singleton ..
    · exact List.Pairwise.nil
  · rw [List.pairwise_append]
    refine ⟨hmap (h.ipv4 ▸ hd.ipv4), hmap (h.ipv6 ▸ hd.ipv6), ?_⟩
    intro item hitem item' hitem' hsame
    obtain ⟨x, -, rfl⟩ := List.mem_map.mp hitem
    obtain ⟨y, -, rfl⟩ := List.mem_map.mp hitem'
    cases (sameTarget_iff.mp hsame).1

lemma create_step {w : PlaneWorld} {row : AccessRow} {newId : String} {values : AccessValues}
    {accesses : Table AccessRow String AccessRow.id} (hi : Inv S w)
    (hinsert : w.db.accesses.insert? row = some accesses) (hnew : New w.db newId values row)
    (hd : Distinct values) (j : Slot) :
    Inv S { w with db := { w.db with accesses } } ∧
      Rely S j w { w with db := { w.db with accesses } } := by
  have hfind := Table.find?_insert hinsert
  have hnone := Table.find?_new hinsert
  have hold {id : String} {h : AccessRow} (hh : w.db.accesses.find? id = some h) :
      accesses.find? id = some h := by
    rw [hfind, if_neg]
    · exact hh
    · rintro rfl
      rw [hnone] at hh
      cases hh
  have hcases {id : String} {h : AccessRow} (hh : accesses.find? id = some h) :
      id = row.id ∧ h = row ∨ w.db.accesses.find? id = some h := by
    rw [hfind] at hh
    split_ifs at hh with hid
    · exact Or.inl ⟨hid, (Option.some.inj hh).symm⟩
    · exact Or.inr hh
  refine ⟨⟨hi.numbers, hi.given, hi.rows, ?_, ?_, hi.routes, ?_, hi.single⟩, ?_⟩
  · intro id h hh id' h' hh' heq
    rcases hcases hh with ⟨rfl, rfl⟩ | hh <;> rcases hcases hh' with ⟨rfl, rfl⟩ | hh'
    · rfl
    · exact absurd heq.symm (hnew.free h' (Table.mem_of_find? hh'))
    · exact absurd heq (hnew.free h (Table.mem_of_find? hh))
    · exact hi.hosts id h hh id' h' hh' heq
  · intro id h hh
    rcases hcases hh with ⟨rfl, rfl⟩ | hh
    · obtain ⟨r, hr, hhost⟩ := hnew.route
      exact ⟨by rw [hhost, hi.routes r hr], distinctWanted_new hnew hd, hnew.tunnel⟩
    · exact hi.plain id h hh
  · intro hs r hr id hid
    obtain ⟨a, ha, hm⟩ := hi.honest hs r hr id hid
    exact ⟨a, hold ha, hm⟩
  · cases j with
    | tick n => trivial
    | reconcile id n =>
      exact ⟨fun h hh => ⟨h, hold hh, .refl h⟩, fun h => h, fun _ => rfl, fun _ => rfl,
        fun _ _ _ _ => rfl⟩

lemma records_step {w : PlaneWorld} {edited : List RemoteRecord} {next : Nat} (hi : Inv S w)
    (hf : ForeignEdit w.cloud edited next) (hs : S.foreign w (.records edited next))
    (j : Slot) :
    Inv S ((Act.records edited next).run w) ∧ Rely S j w ((Act.records edited next).run w) := by
  have hmarked {r : RemoteRecord} (hr : r ∈ edited) {id : String}
      (hid : r.comment = some (ownershipMarker id)) : r ∈ w.cloud.records := by
    have hmem : r ∈ marked edited id := List.mem_filter.mpr ⟨hr, decide_eq_true hid⟩
    rw [hf.marks] at hmem
    exact (List.mem_filter.mp hmem).1
  refine ⟨⟨hf.numbers, hf.given, fun row hrow => ?_, hi.hosts, hi.plain, hi.routes, ?_, ?_⟩, ?_⟩
  · obtain ⟨hgiven, hown⟩ := hi.rows row hrow
    refine ⟨Nat.lt_of_lt_of_le hgiven hf.next, fun r hr hid => ?_⟩
    obtain ⟨old, hold, hold', hkind⟩ := hf.traces r hr (hid ▸ hgiven)
    have howned := hown old hold (hold'.trans hid)
    rcases hkind with rfl | ⟨hu, -⟩
    · exact howned
    · exact absurd howned.1 (hu _)
  · intro hs r hr id hid
    exact hi.honest hs r (hmarked hr hid) id hid
  · intro hs r hr r' hr' id hid hid'
    exact hi.single hs r (hmarked hr hid) r' (hmarked hr' hid') id hid hid'
  · cases j with
    | tick n => trivial
    | reconcile id n =>
      exact ⟨fun h hh => ⟨h, hh, .refl h⟩, fun h => h, fun _ => rfl, fun _ => hf.marks id,
        fun hstrict hold h hh => hs hstrict id h _ hh hold⟩

/-- The system as far as a scope goes. -/
def dnsSystem (render : Render) (S : Scope) :
    System Plane State Slot (Except Failure Unit) Act :=
  (system render).within (fun _ s c _ => S.step s.world c) fun a s => S.foreign s.world a

lemma keeps_dnsSystem (render : Render) (S : Scope) :
    Keeps (dnsSystem render S) ((contract S).on State.world) fun _ _ _ => True where
  lawful := (lawful S).on _
  exec := fun i s c r t ⟨hstep, hexec⟩ => ⟨hexec.world, hstep⟩
  start := by
    rintro i a s p t ⟨rfl, hp⟩ hi -
    exact ⟨hi, fun j _ => (lawful S).refl j t.world, safe_on State.world (starts_triple hp t.world hi trivial)⟩
  environment := by
    rintro a s t ⟨hforeign, hpossible, rfl⟩ hi
    change Inv S (a.run s.world) ∧ ∀ j, Rely S j s.world (a.run s.world)
    by_cases hcreate : ∃ newId values, a = .create newId values
    · obtain ⟨newId, values, rfl⟩ := hcreate
      rcases createPendingDomainAccess_cases s.world.db newId values with
        hsame | ⟨row, accesses, hinsert, hnew, hdb⟩
      · have hrun : (Act.create newId values).run s.world = s.world := by
          rw [Act.run, hsame]
        rw [hrun]
        exact ⟨hi, fun j => (lawful S).refl j s.world⟩
      · have hrun : (Act.create newId values).run s.world =
            { s.world with db := { s.world.db with accesses } } := by
          rw [Act.run, hdb]
        rw [hrun]
        exact ⟨(create_step hi hinsert hnew hpossible.1 (.tick 0)).1,
          fun j => (create_step hi hinsert hnew hpossible.1 j).2⟩
    · by_cases hrecords : ∃ edited next, a = .records edited next
      · obtain ⟨edited, next, rfl⟩ := hrecords
        exact ⟨(records_step hi hpossible hforeign (.tick 0)).1,
          fun j => (records_step hi hpossible hforeign j).2⟩
      · obtain ⟨hq, hholder⟩ := act_quiet hpossible
          (fun newId values h => hcreate ⟨newId, values, h⟩)
          fun edited next h => hrecords ⟨edited, next, h⟩
        exact ⟨hq.inv hi, fun j => hq.rely fun key hkey => by rw [hholder]; exact hkey⟩
  crash := by
    rintro i s t p ⟨rfl, rfl⟩ hi
    refine ⟨(quiet_holder _ _).inv hi, fun j hj => (quiet_holder _ _).rely fun key hkey => ?_,
      fun _ _ _ => trivial⟩
    have hne : s.world.holder key ≠ some i := by
      rw [hkey]
      exact fun heq => hj (Option.some.inj heq)
    simpa [hne] using hkey

end GatewayControl.DnsSafety
