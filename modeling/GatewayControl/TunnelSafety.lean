import GatewayControl.DnsSafety
import GatewayControl.TunnelRuns

/-!
Reconciliations under their locks, in the whole system: what the configuration of a tunnel
holds for each access.
-/

namespace GatewayControl.TunnelSafety

open Database Store Publishing Ingress Cloudflare Calls Reconcile Verification Programs
open ControlPlane AccessHistory TunnelRules TunnelUpdates TunnelRuns

variable {T : String × String} {key : LockKey} {id : String} {n : Nat}

/-! ### Under the locks -/

/-- What a run knows when it has the lock of its access. -/
def Alone (id : String) (n : Nat) (s : State) : Prop :=
  s.world.holder (.domainAccess id) = some (.reconcile id n)

lemma stable_alone : Stable (contract T key) (.reconcile id n) (Alone id n) :=
  fun _ _ _ _ hr hp => hr.holder _ hp

/-- The other lock its row asks for. -/
structure Reading (id : String) (n : Nat) (own : Option LockKey) (s : State) : Prop where
  alone : Alone id n s
  row : ∀ h, s.world.db.accesses.find? id = some h → tunnelKey h = own

lemma reading_rely {own : Option LockKey} {s t : State} (hp : Reading id n own s)
    (hr : RelyOn T key id (.reconcile id n) s t) : Reading id n own t := by
  refine ⟨hr.holder _ hp.alone, fun h hh => ?_⟩
  cases hs : s.world.db.accesses.find? id with
  | none =>
    rw [hr.absent hp.alone hs] at hh
    cases hh
  | some h' =>
    obtain ⟨h'', hfound, hlater⟩ := hr.accesses h' hs
    obtain rfl := Option.some.inj (hfound.symm.trans hh)
    rw [hlater.tunnelKey_eq]
    exact hp.row h' hs

lemma stable_reading (own : Option LockKey) :
    Stable (contract T key) (.reconcile id n) (Reading id n own) :=
  fun _ _ _ _ hr hp => reading_rely hp hr

structure Locked (id : String) (n : Nat) (own : Option LockKey) (s : State) : Prop extends
    Reading id n own s where
  taken : ∀ k, own = some k → s.world.holder k = some (.reconcile id n)

lemma stable_locked (own : Option LockKey) :
    Stable (contract T key) (.reconcile id n) (Locked id n own) :=
  fun _ _ _ _ hr hp => ⟨reading_rely hp.toReading hr, fun k hk => hr.holder _ (hp.taken k hk)⟩

variable (T key n) in
/-- What a run knows when it has read its deployment. -/
def Started (id : String) : Option Deployment → State → Prop
  | none => fun _ => True
  | some d => fun s => d.access.id = id ∧ Held T key n d.access s

lemma stable_started (deployment : Option Deployment) :
    Stable (contract T key) (.reconcile id n) (Started T key n id deployment) := by
  cases deployment with
  | none => exact stable_true
  | some d =>
    rintro s t hi hi' hr ⟨rfl, hheld⟩
    exact ⟨rfl, stable_held T key n _ s t hi hi' hr hheld⟩

lemma deployment_triple (own : Option LockKey) :
    Triple (contract T key) (.reconcile id n) (Locked id n own) (call (.deployment id)).run
      (Exits (Started T key n id) fun _ _ => True) := by
  refine triple_perform (stable_locked own) (fun r => ?_) (fun _ _ _ => trivial) ?_
  · cases r
    · exact stable_true
    · exact stable_started _
  · rintro s r t hi hp ⟨hexec, -⟩
    have hworld : t.world = s.world := by
      obtain ⟨ch, ⟨-, h⟩ | ⟨e, -, -, h | h⟩⟩ := hexec.world
      · exact h
      · exact h
      · exact h
    have hended : t.notes.ended = Function.update s.notes.ended id none := by
      rw [hexec.notes]
      rfl
    have hforget {id' : String} {status : AccessStatus} (h : t.notes.ended id' = some status) :
        s.notes.ended id' = some status := by
      rw [hended] at h
      by_cases hid : id' = id
      · subst hid
        rw [Function.update_self] at h
        cases h
      · rwa [Function.update_of_ne hid] at h
    refine ⟨inv_evolves hi (evolves_same (by rw [hworld])) (by rw [hworld]; exact hi.routes)
      (fun id' hnone => ?_) (fun id' h hh htunnel status htold => ?_), fun j hj => ?_, ?_⟩
    · rw [Option.eq_none_iff_forall_ne_some]
      intro status htold
      have := hforget htold
      rw [hi.fresh id' hnone] at this
      cases this
    · rw [rulesAt, hworld]
      exact hi.told id' h hh htunnel status (hforget htold)
    · cases j with
      | tick m => trivial
      | reconcile id' m =>
        refine ⟨fun h hh => ⟨h, by rw [hworld]; exact hh, .refl h⟩,
          fun _ hnone => by rw [hworld]; exact hnone, fun k hk => by rw [hworld]; exact hk,
          fun _ => by rw [hworld], fun hk => ?_⟩
        have hne : id' ≠ id := by
          rintro rfl
          exact hj (Option.some.inj (hk.symm.trans hp.alone))
        rw [hended, Function.update_of_ne hne]
    · cases r with
      | error e => trivial
      | ok deployment =>
        have hread : deployment = getCloudflareDomainAccessDeployment s.world.db id := by
          obtain ⟨ch, ⟨h, -⟩ | ⟨e, h, -⟩⟩ := hexec.world
          · exact Except.ok.inj h
          · cases h
        cases deployment with
        | none => trivial
        | some d =>
          obtain ⟨hfound, -⟩ := DnsSafety.deployment_some hread.symm
          have hid : d.access.id = id := Table.key_find? hfound
          refine ⟨hid, ?_, ⟨d.access, ?_, .refl _⟩, ?_, fun ho => ?_⟩
          · rw [hid, hworld]
            exact hp.alone
          · rw [hid, hworld]
            exact hfound
          · rw [hid, hended, Function.update_self]
          · rw [hid, hworld]
            rcases ho.2 with rfl | hkey
            · rw [hid]
              exact hp.alone
            · rw [hp.row _ hfound] at hkey
              exact hp.taken _ hkey

lemma reconcileLocked_triple (own : Option LockKey) (requireHttpsObservation : Bool) :
    Triple (contract T key) (.reconcile id n) (Locked id n own)
      (reconcileLocked id requireHttpsObservation).run
      (Exits (fun _ _ => True) fun _ _ => True) := by
  refine exits_bind (lawful T key) (fun _ => stable_true) (deployment_triple own)
    fun deployment => ?_
  cases deployment with
  | none => exact exits_throw stable_true fun _ _ h => h
  | some d =>
    refine triple_pre ?_
    rintro rfl
    have hheld := stable_held T key n d.access
    have hfailed {α : Type} (message : String) (e : Failure) :
        Triple (contract T key) (.reconcile d.access.id n) (Held T key n d.access)
          (do
            let _ ← outcome d .failed message
            throw e : Handler α).run (Exits (fun _ _ => True) fun _ _ => True) :=
      exits_bind (lawful T key) (fun _ => stable_true)
        (exits_conseq (outcome_triple hheld (fun _ h => h) fun _ _ _ => trivial)
          (fun _ _ h => h) (fun _ _ _ h => h) fun _ _ _ _ => trivial)
        fun _ => exits_throw stable_true fun _ _ _ => trivial
    dsimp only
    split_ifs with htopology htoken henabled
    · exact hfailed _ _
    · exact hfailed _ _
    · exact enable_triple henabled requireHttpsObservation
    · exact disable_triple (by simpa using henabled)

/-! ### The locks -/

lemma still_holder {s t : State} (hdb : t.world.db = s.world.db)
    (hcloud : t.world.cloud = s.world.cloud) (hnotes : t.notes = s.notes) : Still T s t :=
  ⟨evolves_same (by rw [hdb]), by rw [hdb]; exact fun h => h, by rw [hcloud], by rw [hnotes]⟩

/-- What taking a lock does. -/
lemma acquire_exec {i : Slot} {s t : State} {k : LockKey} {r : Except Failure Unit}
    (h : Exec i s (.acquire k) r t) :
    Still T s t ∧ (∀ j, j ≠ i → ∀ k', s.world.holder k' = some j → t.world.holder k' = some j) ∧
      (r = .ok () → s.world.holder k = none ∧ t.world.db = s.world.db ∧
        t.world.holder = Function.update s.world.holder k (some i)) := by
  have hnotes : t.notes = s.notes := by
    rw [h.notes]
    cases i
    · rfl
    · rfl
  obtain ⟨ch, hcases⟩ := h.world
  have hrun : (s.world.holder k = none ∧ (Call.acquire k).run ch i s.world =
      (.ok (), { s.world with holder := Function.update s.world.holder k (some i) })) ∨
      (Call.acquire k).run ch i s.world = (.error lockTimeout, s.world) := by
    rw [run_acquire]
    by_cases hfree : s.world.holder k = none
    · exact Or.inl ⟨hfree, if_pos hfree⟩
    · exact Or.inr (if_neg hfree)
  have hsame (heq : t.world = s.world) : Still T s t ∧
      ∀ j, j ≠ i → ∀ k', s.world.holder k' = some j → t.world.holder k' = some j :=
    ⟨still_holder (by rw [heq]) (by rw [heq]) hnotes, fun j _ k' hk => by rw [heq]; exact hk⟩
  have htaken (hfree : s.world.holder k = none) (heq : t.world =
      { s.world with holder := Function.update s.world.holder k (some i) }) : Still T s t ∧
      ∀ j, j ≠ i → ∀ k', s.world.holder k' = some j → t.world.holder k' = some j := by
    refine ⟨still_holder (by rw [heq]) (by rw [heq]) hnotes, fun j _ k' hk => ?_⟩
    have hne : k' ≠ k := by
      rintro rfl
      rw [hfree] at hk
      cases hk
    have hholder : t.world.holder = Function.update s.world.holder k (some i) := by rw [heq]
    rw [hholder, Function.update_of_ne hne]
    exact hk
  rcases hcases with ⟨hr, heq⟩ | ⟨e, hr, -, heq | heq⟩
  · rcases hrun with ⟨hfree, hrun⟩ | hrun
    · rw [hrun] at heq
      obtain ⟨hstill, hmono⟩ := htaken hfree heq
      exact ⟨hstill, hmono, fun _ => ⟨hfree, by rw [heq], by rw [heq]⟩⟩
    · rw [hrun] at heq hr
      obtain ⟨hstill, hmono⟩ := hsame heq
      exact ⟨hstill, hmono, fun hok => by rw [hok] at hr; cases hr⟩
  · obtain ⟨hstill, hmono⟩ := hsame heq
    exact ⟨hstill, hmono, fun hok => by rw [hok] at hr; cases hr⟩
  · have hrest : Still T s t ∧
        ∀ j, j ≠ i → ∀ k', s.world.holder k' = some j → t.world.holder k' = some j := by
      rcases hrun with ⟨hfree, hrun⟩ | hrun
      · rw [hrun] at heq
        exact htaken hfree heq
      · rw [hrun] at heq
        exact hsame heq
    exact ⟨hrest.1, hrest.2, fun hok => by rw [hok] at hr; cases hr⟩

lemma acquire_triple {i : Slot} {k : LockKey} {P K : State → Prop}
    (hP : Stable (contract T key) i P) (hK : Stable (contract T key) i K)
    (hstep : ∀ s t, P s → s.world.holder k = none → t.world.db = s.world.db →
      t.world.holder = Function.update s.world.holder k (some i) → K t) :
    Triple (contract T key) i P (call (.acquire k)).run (Exits (fun _ => K) fun _ _ => True) := by
  refine triple_perform hP (fun r => ?_) (fun _ _ _ => ?_) ?_
  · cases r
    · exact stable_true
    · exact hK
  · cases i
    · trivial
    · trivial
  · rintro s r t hi hp ⟨hexec, -⟩
    obtain ⟨hstill, hmono, hok⟩ := acquire_exec hexec
    refine ⟨hstill.inv hi, fun j hj => hstill.rely (hmono j hj), ?_⟩
    cases r with
    | error e => trivial
    | ok u =>
      obtain ⟨hfree, hdb, hholder⟩ := hok rfl
      exact hstep s t hp hfree hdb hholder

lemma release_exec {i : Slot} {s t : State} {k : LockKey} {r : Except Failure Unit}
    (h : Exec i s (.release k) r t) :
    Still T s t ∧ ∀ j, j ≠ i → ∀ k', s.world.holder k' = some j → t.world.holder k' = some j := by
  have hnotes : t.notes = s.notes := by
    rw [h.notes]
    cases i
    · rfl
    · rfl
  obtain ⟨ch, hcases⟩ := h.world
  have hafter (heq : t.world = ((Call.release k).run ch i s.world).2) : Still T s t ∧
      ∀ j, j ≠ i → ∀ k', s.world.holder k' = some j → t.world.holder k' = some j := by
    rw [run_release] at heq
    by_cases hmine : s.world.holder k = some i
    · rw [if_pos hmine] at heq
      refine ⟨still_holder (by rw [heq]) (by rw [heq]) hnotes, fun j hj k' hk => ?_⟩
      have hne : k' ≠ k := by
        rintro rfl
        exact hj (Option.some.inj (hk.symm.trans hmine))
      have hholder : t.world.holder = Function.update s.world.holder k none := by rw [heq]
      rw [hholder, Function.update_of_ne hne]
      exact hk
    · rw [if_neg hmine] at heq
      exact ⟨still_holder (by rw [heq]) (by rw [heq]) hnotes,
        fun j _ k' hk => by rw [heq]; exact hk⟩
  rcases hcases with ⟨-, heq⟩ | ⟨e, -, -, heq | heq⟩
  · exact hafter heq
  · exact ⟨still_holder (by rw [heq]) (by rw [heq]) hnotes,
      fun j _ k' hk => by rw [heq]; exact hk⟩
  · exact hafter heq

lemma releaseAll_triple {i : Slot} (locks : List LockKey) :
    Triple (contract T key) i (fun _ => True) (releaseAll locks) fun _ _ => True := by
  have honly : (releaseAll locks).Only fun c => ∃ k, c = Call.release k := by
    induction locks with
    | nil => trivial
    | cons k rest ih => exact ⟨⟨k, rfl⟩, fun _ => ih⟩
  refine triple_only honly stable_true ?_ ?_
  · rintro s c ⟨k, rfl⟩ _ _
    cases i
    · trivial
    · trivial
  · rintro s c r t ⟨k, rfl⟩ hi _ ⟨hexec, -⟩
    obtain ⟨hstill, hmono⟩ := release_exec hexec
    exact ⟨hstill.inv hi, fun j hj => hstill.rely (hmono j hj), trivial⟩

lemma finallyRelease_triple {i : Slot} {α : Type} {p : Handler α} {P : State → Prop}
    (locks : List LockKey)
    (hp : Triple (contract T key) i P p.run (Exits (fun _ _ => True) fun _ _ => True)) :
    Triple (contract T key) i P (finallyRelease locks p).run
      (Exits (fun _ _ => True) fun _ _ => True) := by
  refine triple_bind (lawful T key) hp fun answer => ?_
  refine triple_bind (lawful T key) (triple_conseq (releaseAll_triple locks)
    (fun _ _ _ => trivial) fun _ _ _ h => h) fun _ => triple_pure stable_true fun _ _ _ => ?_
  cases answer
  · trivial
  · trivial

/-! ### A whole run -/

lemma lockRow_triple :
    Triple (contract T key) (.reconcile id n) (Alone id n) (call (.lockRow id)).run
      (Exits (fun row => Reading id n (row.bind tunnelKey)) fun _ _ => True) := by
  refine triple_perform stable_alone (fun r => ?_) (fun _ _ _ => trivial) ?_
  · cases r
    · exact stable_true
    · exact stable_reading _
  · rintro s r t hi hp ⟨hexec, -⟩
    obtain ⟨hstill, hholder⟩ := still_exec rfl hexec
    have hrely (j : Slot) : Rely T key j s t :=
      hstill.rely fun k hk => by rw [hholder]; exact hk
    refine ⟨hstill.inv hi, fun j _ => hrely j, ?_⟩
    cases r with
    | error e => trivial
    | ok row =>
      have hread : row = s.world.db.accesses.find? id := by
        obtain ⟨ch, ⟨h, -⟩ | ⟨e, h, -⟩⟩ := hexec.world
        · exact Except.ok.inj h
        · cases h
      refine reading_rely (s := s) ⟨hp, fun h hh => ?_⟩ (hrely (.reconcile id n))
      rw [hread, hh, Option.bind_some]

lemma reconcileDomainAccess_triple (requireHttpsObservation : Bool) :
    Triple (contract T key) (.reconcile id n) (fun _ => True)
      (reconcileDomainAccess id requireHttpsObservation).run
      (Exits (fun _ _ => True) fun _ _ => True) := by
  refine finallyRelease_triple _ (exits_bind (lawful T key) (fun _ => stable_true)
    (acquire_triple stable_true stable_alone fun s t _ _ _ hholder => ?_) fun _ => ?_)
  · rw [Alone, hholder, Function.update_self]
  refine exits_bind (lawful T key) (fun _ => stable_true) lockRow_triple fun row => ?_
  cases hkey : row.bind tunnelKey with
  | none =>
    refine triple_conseq (reconcileLocked_triple none requireHttpsObservation)
      (fun s _ hs => ⟨hs, ?_⟩) fun _ _ _ h => h
    rintro k ⟨⟩
  | some k =>
    refine finallyRelease_triple _ (exits_bind (lawful T key) (fun _ => stable_true)
      (acquire_triple (stable_reading _) (stable_locked (some k))
        fun s t hs hfree hdb hholder => ?_)
      fun _ => reconcileLocked_triple (some k) requireHttpsObservation)
    have hne : LockKey.domainAccess id ≠ k := by
      rintro rfl
      rw [hs.alone] at hfree
      cases hfree
    refine ⟨⟨?_, fun h hh => ?_⟩, fun k' hk => ?_⟩
    · rw [Alone, hholder, Function.update_of_ne hne]
      exact hs.alone
    · rw [hdb] at hh
      exact hs.row h hh
    · rw [hholder, ← Option.some.inj hk, Function.update_self]

/-! ### The other steps of the system -/

lemma tick_triple {p : Prog Plane (Except Failure Unit)} (hp : p.Only (isTickCall ·)) :
    Triple (contract T key) (.tick n) (fun _ => True) p fun _ _ => True := by
  refine triple_only hp stable_true (fun s c hc _ _ => ?_) ?_
  · cases c with
    | createAccess _ => simp [isTickCall] at hc
    | _ => trivial
  · rintro s c r t hc hi - ⟨hexec, -⟩
    have hstill : Still T s t ∧ t.world.holder = s.world.holder := by
      cases c with
      | outcome id revision status lastError =>
        obtain ⟨haccesses, hroutes, hcloud, hholder⟩ := outcome_frame hexec
        refine ⟨⟨haccesses, hroutes, by rw [hcloud], ?_⟩, hholder⟩
        rw [hexec.notes]
        rfl
      | pendingVerifications _ | listAccess | route _ | observe _ | saveObservation _ _ =>
        exact still_exec rfl hexec
      | updateGuided _ _ | now => exact still_exec rfl hexec
      | _ => simp [isTickCall] at hc
    exact ⟨hstill.1.inv hi, fun j _ => hstill.1.rely fun k hk => by rw [hstill.2]; exact hk,
      trivial⟩

lemma starts_triple {render : Render} {i : Slot} {p : Prog Plane (Except Failure Unit)}
    (hp : Starts render i p) :
    Triple (contract T key) i (fun _ => True) p fun _ _ => True := by
  cases hp with
  | reconcile id n requireHttpsObservation =>
    refine triple_conseq (exits_bind (lawful T key) (fun _ => stable_true)
      (reconcileDomainAccess_triple requireHttpsObservation)
      fun _ => exits_pure (K := fun _ _ => True) stable_true fun _ _ h => h)
      (fun _ _ h => h) fun _ _ _ _ => trivial
  | tick n => exact tick_triple (reconcileGuidedVerifications_only render)

/-- Every act but a new access leaves the tunnel alone, if it is not a change of it. -/
lemma act_still {s : State} {a : Act} (hp : a.Possible s.world) (hu : Untouched T a)
    (hcreate : ∀ newId values, a ≠ .create newId values) :
    Still T s { s with world := a.run s.world } ∧ (a.run s.world).holder = s.world.holder := by
  have hquiet (hrecords : ∀ edited next, a ≠ .records edited next)
      (hconfig : (a.run s.world).cloud.configs T = s.world.cloud.configs T) :
      Still T s { s with world := a.run s.world } ∧
        (a.run s.world).holder = s.world.holder := by
    obtain ⟨hq, hholder⟩ := DnsSafety.act_quiet hp hcreate hrecords
    exact ⟨⟨hq.accesses, hq.routes, hconfig, rfl⟩, hholder⟩
  cases a with
  | create newId values => exact absurd rfl (hcreate newId values)
  | records edited next => exact ⟨⟨evolves_same rfl, fun h => h, rfl, rfl⟩, rfl⟩
  | tunnel address config =>
    refine hquiet (fun _ _ h => by cases h) ?_
    exact Function.update_of_ne hu.symm _ _
  | request id enabled => exact hquiet (fun _ _ h => by cases h) rfl
  | account id values => exact hquiet (fun _ _ h => by cases h) rfl
  | tables base zones apiTokens => exact hquiet (fun _ _ h => by cases h) rfl
  | operations guided => exact hquiet (fun _ _ h => by cases h) rfl

lemma create_step {s : State} {row : AccessRow} {newId : String} {values : AccessValues}
    {accesses : Table AccessRow String AccessRow.id} (hi : Inv T s)
    (hinsert : s.world.db.accesses.insert? row = some accesses)
    (hnew : New s.world.db newId values row) (hfree : s.world.holder (.domainAccess row.id) = none) :
    Inv T { s with world := { s.world with db := { s.world.db with accesses } } } ∧
      ∀ j, Rely T key j s
        { s with world := { s.world with db := { s.world.db with accesses } } } := by
  have hfind := Table.find?_insert hinsert
  have hnone := Table.find?_new hinsert
  have hold {id : String} {h : AccessRow} (hh : s.world.db.accesses.find? id = some h) :
      accesses.find? id = some h := by
    rw [hfind, if_neg]
    · exact hh
    · rintro rfl
      rw [hnone] at hh
      cases hh
  have hcases {id : String} {h : AccessRow} (hh : accesses.find? id = some h) :
      id = row.id ∧ h = row ∨ s.world.db.accesses.find? id = some h := by
    rw [hfind] at hh
    split_ifs at hh with hid
    · exact Or.inl ⟨hid, (Option.some.inj hh).symm⟩
    · exact Or.inr hh
  refine ⟨⟨?_, ?_, hi.routes, fun id hn => ?_, ?_⟩, fun j => ?_⟩
  · intro id h hh id' h' hh' heq
    rcases hcases hh with ⟨rfl, rfl⟩ | hh <;> rcases hcases hh' with ⟨rfl, rfl⟩ | hh'
    · rfl
    · exact absurd heq.symm (hnew.free h' (Table.mem_of_find? hh'))
    · exact absurd heq (hnew.free h (Table.mem_of_find? hh))
    · exact hi.hosts id h hh id' h' hh' heq
  · intro id h hh
    rcases hcases hh with ⟨rfl, rfl⟩ | hh
    · obtain ⟨r, hr, hhost⟩ := hnew.route
      rw [hhost]
      exact hi.routes r hr
    · exact hi.plain id h hh
  · refine hi.fresh id ?_
    cases hs : s.world.db.accesses.find? id with
    | none => rfl
    | some h =>
      have := hold hs
      rw [hn] at this
      cases this
  · intro id h hh htunnel status htold
    rcases hcases hh with ⟨rfl, rfl⟩ | hh
    · rw [hi.fresh _ hnone] at htold
      cases htold
    · exact hi.told id h hh htunnel status htold
  · cases j with
    | tick n => trivial
    | reconcile id n =>
      refine ⟨fun h hh => ⟨h, hold hh, .refl h⟩, fun hk hn => ?_, fun _ hk => hk, fun _ => rfl,
        fun _ => rfl⟩
      have hne : id ≠ row.id := by
        rintro rfl
        rw [hfree] at hk
        cases hk
      change accesses.find? id = none
      rw [hfind, if_neg hne]
      exact hn

/-- The system in the runs in which one lock is taken for all writes to a tunnel, and nobody
else writes to it. -/
def tunnelSystem (render : Render) (T : String × String) (key : LockKey) :
    System Plane State Slot (Except Failure Unit) Act :=
  (system render).within (fun i s c _ => Shared T key i s c) fun a _ => Untouched T a

lemma keeps_tunnelSystem (render : Render) :
    Keeps (tunnelSystem render T key) (contract T key) fun _ _ _ => True where
  lawful := lawful T key
  exec := fun i s c r t ⟨hshared, hexec⟩ => ⟨hexec, hshared⟩
  start := by
    rintro i a s p t ⟨rfl, hp⟩ hi -
    exact ⟨hi, fun j _ => (lawful T key).refl j t, starts_triple hp t hi trivial⟩
  environment := by
    rintro a s t ⟨hforeign, hpossible, rfl⟩ hi
    by_cases hcreate : ∃ newId values, a = .create newId values
    · obtain ⟨newId, values, rfl⟩ := hcreate
      rcases createPendingDomainAccess_cases s.world.db newId values with
        hsame | ⟨row, accesses, hinsert, hnew, hdb⟩
      · have hrun : (Act.create newId values).run s.world = s.world := by
          rw [Act.run, hsame]
        rw [hrun]
        exact ⟨hi, fun j => (lawful T key).refl j s⟩
      · have hrun : (Act.create newId values).run s.world =
            { s.world with db := { s.world.db with accesses } } := by
          rw [Act.run, hdb]
        rw [hrun]
        exact create_step hi hinsert hnew (hnew.id ▸ hpossible.2)
    · obtain ⟨hstill, hholder⟩ := act_still hpossible hforeign
        fun newId values h => hcreate ⟨newId, values, h⟩
      exact ⟨hstill.inv hi, fun j => hstill.rely fun k hk => by
        change (a.run s.world).holder k = some j
        rw [hholder]
        exact hk⟩
  crash := by
    rintro i s t p ⟨rfl, rfl⟩ hi
    have hstill : Still T s { s with world := dropLocks i s.world } := still_holder rfl rfl rfl
    refine ⟨hstill.inv hi, fun j hj => hstill.rely fun k hk => ?_, fun _ _ _ => trivial⟩
    have hne : s.world.holder k ≠ some i := by
      rw [hk]
      exact fun heq => hj (Option.some.inj heq)
    simpa [dropLocks, hne] using hk

lemma sound_initial {c : PlaneConfig} (h : Initial c) :
    Sound (contract T key) (fun _ _ _ => True) c := by
  have hnone (id : String) : c.state.world.db.accesses.find? id = none := by
    rw [h.db]
    rfl
  refine ⟨⟨?_, ?_, ?_, fun id _ => ?_, ?_⟩, fun i => ?_⟩
  · intro id a ha
    rw [hnone] at ha
    cases ha
  · intro id a ha
    rw [hnone] at ha
    cases ha
  · rw [h.db]
    exact fun r hr => absurd hr List.not_mem_nil
  · rw [h.notes]
  · intro id a ha
    rw [hnone] at ha
    cases ha
  · rw [h.thread i]
    exact fun _ _ _ => trivial

end GatewayControl.TunnelSafety
