import GatewayControl.AccessHistory
import GatewayControl.GuidedPublish

/-!
The stages of a guided operation. As long as each update of a request finds its operation as
the request knows it, an operation whose certificate is to be checked waits for the check, and
one that has succeeded stays as it is. Nothing in the requests sees to that.
-/

namespace GatewayControl.GuidedStages

open Database Store Placement Requests Publishing Cloudflare Calls Reconcile Verification
open Programs GuidedPublish AccessHistory

/-! ### What a step does to the operations -/

/-- What a call may do to the operations: nothing, one change, or a new operation. -/
inductive Moves (db db' : PublishDb) : PublishCall → Prop where
  | same {c : PublishCall} (h : db'.guided = db.guided) : Moves db db' c
  | update {id : String} {values : GuidedChange} (now : Time)
      (h : ∀ k, db'.guided.find? k = (db.guided.find? k).map fun g =>
        if g.id = id then changeGuided now values g else g) :
      Moves db db' (.plane (.updateGuided id values))
  | insert {key user hash : String} {request : Json} (g : GuidedRow)
      (status : g.status = .pending) (stage : g.stage = "created")
      (new : db.guided.find? g.id = none)
      (h : ∀ k, db'.guided.find? k = if k = g.id then some g else db.guided.find? k) :
      Moves db db' (.createOperation key user hash request)

lemma saveRecord_guided {db db' : PublishDb} {id : String} {revision : ℕ}
    {record : TrackedRecord} {b : Bool}
    (h : saveDomainAccessDnsRecord db id revision record = some (db', b)) :
    db'.guided = db.guided := by
  unfold saveDomainAccessDnsRecord at h
  split at h
  · cases h
    rfl
  · split at h
    · cases h
      rfl
    · split at h
      · cases h
      · obtain ⟨dnsRows, -, hrow⟩ := Option.bind_eq_some_iff.mp h
        cases hrow
        rfl

lemma outcome_guided {db db' : PublishDb} {id : String} {revision : ℕ} {status : AccessStatus}
    {lastError : Option String} {saved : Option AccessRow}
    (h : markDomainAccessOutcome db id revision status lastError = some (db', saved)) :
    db'.guided = db.guided := by
  cases saved with
  | none =>
    obtain ⟨rfl, -⟩ := markDomainAccessOutcome_none h
    rfl
  | some saved =>
    obtain ⟨row, -, -, rfl, -⟩ := markDomainAccessOutcome_some h
    rfl

lemma markRecord_guided (db : PublishDb) (id : String) (revision recordId : ℕ)
    (status : DnsRowStatus) (lastError : Option String) :
    (markDomainAccessDnsRecordStatus db id revision recordId status lastError).1.guided =
      db.guided := by
  unfold markDomainAccessDnsRecordStatus
  split
  · rfl
  · rfl

lemma createAccess_guided (db : PublishDb) (newId : String) (values : AccessValues) :
    (createPendingDomainAccess db newId values).1.guided = db.guided := by
  rcases createPendingDomainAccess_cases db newId values with h | ⟨row, accesses, -, -, h⟩
  · rw [h]
  · rw [h]

lemma store_guided {w : World PublishSlot} {α : Type} {answer : Option (PublishDb × α)}
    (h : ∀ db a, answer = some (db, a) → db.guided = w.db.guided) :
    (w.store answer).2.db.guided = w.db.guided := by
  cases answer with
  | none => rfl
  | some answer => exact h answer.1 answer.2 rfl

lemma plane_moves (ch : Choice) (i : PublishSlot) (c : Call) (w : World PublishSlot) :
    Moves w.db (c.run ch i w).2.db (.plane c) := by
  cases c with
  | updateGuided id values =>
    refine .update ch.now fun k => ?_
    have hfind := Table.find?_update w.db.guided (fun g => g.id = id) (changeGuided ch.now values)
      (fun _ => rfl) k
    simp only [decide_eq_true_eq] at hfind
    exact hfind
  | acquire key =>
    refine .same ?_
    rw [run_acquire]
    split
    · rfl
    · rfl
  | release key =>
    refine .same ?_
    rw [run_release]
    split
    · rfl
    · rfl
  | saveRecord id revision record =>
    exact .same (store_guided fun _ _ h => saveRecord_guided h)
  | markRecord id revision recordId status lastError =>
    refine .same (store_guided fun db b h => ?_)
    obtain rfl := (Prod.mk.inj (Option.some.inj h)).1.symm
    exact markRecord_guided ..
  | outcome id revision status lastError =>
    exact .same (store_guided fun _ _ h => outcome_guided h)
  | createAccess values =>
    refine .same (store_guided fun db b h => ?_)
    obtain rfl := (Prod.mk.inj (Option.some.inj h)).1.symm
    exact createAccess_guided ..
  | _ => exact .same rfl

lemma createOperation_moves {db db' : PublishDb} {now : Time} {newId key user hash : String}
    {request : Json} {g : GuidedRow} {b : Bool}
    (h : createOrGetGuidedOperation db now newId .domainPublish key user hash request =
      some (db', g, b)) :
    Moves db db' (.createOperation key user hash request) ∧ db'.guided.find? g.id = some g ∧
      g.kind = .domainPublish := by
  unfold createOrGetGuidedOperation at h
  split at h
  · rename_i existing heq
    obtain ⟨rfl, rfl, -⟩ : db = db' ∧ existing = g ∧ false = b := by simpa using h
    have hkey := List.find?_some heq
    simp only [decide_eq_true_eq] at hkey
    exact ⟨.same rfl, Table.find?_of_mem (List.mem_of_find?_eq_some heq), hkey.2.1⟩
  · obtain ⟨guided, hinsert, hrow⟩ := Option.bind_eq_some_iff.mp h
    obtain ⟨rfl, rfl, -⟩ := by simpa using hrow
    have hfind := Table.find?_insert hinsert
    refine ⟨.insert _ rfl rfl (Table.find?_new hinsert) hfind, ?_, rfl⟩
    rw [hfind, if_pos rfl]

/-! ### What a step does to the rest -/

/-- What a call may do to `guidedVerificationRunning`. -/
def Marks (i : PublishSlot) (s t : PublishState) :
    (c : PublishCall) → Except Failure c.Answer → Prop
  | .enter, r => (r = .ok true ∧ s.running = none ∧ t.running = some i) ∨
      (r = .ok false ∧ t.running = s.running)
  | .leave, _ => t.running = none
  | _, _ => t.running = s.running

structure Effect (i : PublishSlot) (s : PublishState) (c : PublishCall)
    (r : Except Failure c.Answer) (t : PublishState) : Prop where
  moves : Moves s.world.db t.world.db c
  marks : Marks i s t c r
  known : t.known i = (learned c r).or (s.known i)
  others : ∀ j, j ≠ i → t.known j = s.known j

lemma run_known (ch : PublishChoice) (i : PublishSlot) (c : PublishCall) (s : PublishState) :
    (c.run ch i s).2.known = s.known := by
  cases c with
  | enter =>
    rw [run_enter]
    split
    · rfl
    · rfl
  | _ => rfl

lemma run_moves (ch : PublishChoice) (i : PublishSlot) (c : PublishCall) (s : PublishState) :
    Moves s.world.db (c.run ch i s).2.world.db c := by
  cases c with
  | plane c => exact plane_moves ch.toChoice i c s.world
  | createOperation key user hash request =>
    cases hrun : createOrGetGuidedOperation s.world.db ch.now ch.newId .domainPublish key user hash
        request with
    | none =>
      refine .same ?_
      simp only [PublishCall.run, PublishState.store, hrun, Option.map_none, World.store]
    | some answer =>
      obtain ⟨db, g, b⟩ := answer
      have hmoves := (createOperation_moves hrun).1
      simp only [PublishCall.run, PublishState.store, hrun, Option.map_some, World.store]
      exact hmoves
  | createRoute values =>
    refine .same (store_guided fun db route h => ?_)
    obtain ⟨answer, -, heq⟩ := Option.map_eq_some_iff.mp h
    obtain rfl := (Prod.mk.inj heq).1.symm
    rfl
  | enter =>
    refine .same ?_
    rw [run_enter]
    split
    · rfl
    · rfl
  | _ => exact .same rfl

lemma run_marks (ch : PublishChoice) (i : PublishSlot) (c : PublishCall) (s : PublishState) :
    Marks i s (c.run ch i s).2 c (c.run ch i s).1 := by
  cases c with
  | enter =>
    rw [run_enter]
    split
    · rename_i hfree
      exact Or.inl ⟨rfl, Option.isNone_iff_eq_none.mp hfree, rfl⟩
    · exact Or.inr ⟨rfl, rfl⟩
  | _ => rfl

lemma effect_of_exec {i : PublishSlot} {s t : PublishState} {c : PublishCall}
    {r : Except Failure c.Answer} (h : Exec i s c r t) : Effect i s c r t := by
  obtain ⟨ch, u, rfl, hcases⟩ := h
  have hknown (hu : u.known = s.known) :
      (u.learn i (learned c r)).known i = (learned c r).or (s.known i) ∧
        ∀ j, j ≠ i → (u.learn i (learned c r)).known j = s.known j := by
    refine ⟨?_, fun j hj => ?_⟩
    · change Function.update u.known i _ i = _
      rw [Function.update_self, hu]
    · change Function.update u.known i _ j = _
      rw [Function.update_of_ne hj, hu]
  rcases hcases with ⟨rfl, rfl⟩ | ⟨e, rfl, -, hown, rfl | rfl⟩
  · obtain ⟨hself, hothers⟩ := hknown (run_known ch i c s)
    exact ⟨run_moves ch i c s, run_marks ch i c s, hself, hothers⟩
  · obtain ⟨hself, hothers⟩ := hknown rfl
    refine ⟨.same rfl, ?_, hself, hothers⟩
    cases c <;> first | rfl | cases hown
  · obtain ⟨hself, hothers⟩ := hknown (run_known ch i c s)
    refine ⟨run_moves ch i c s, ?_, hself, hothers⟩
    have hmarks := run_marks ch i c s
    cases c <;> first | exact hmarks | cases hown

/-! ### The contract -/

/-- The stage in which the certificate is checked. -/
abbrev verificationStage : String := "pending_https_verification"

/-- An operation that is to be checked waits for it. It has a route then, and when it has
succeeded. -/
structure Coherent (g : GuidedRow) : Prop where
  waits : g.stage = verificationStage → g.status = .waiting
  routed : g.stage = verificationStage ∨ g.status = .succeeded → g.routeId.isSome

def Inv (s : PublishState) : Prop :=
  ∀ id g, s.world.db.guided.find? id = some g → g.kind = .domainPublish → Coherent g

/-- What happens to an operation: it never loses its route, and changes nothing once it has
succeeded. -/
structure Kept (g g' : GuidedRow) : Prop where
  kind : g'.kind = g.kind
  route : g.routeId.isSome → g'.routeId.isSome
  final : g.status = .succeeded →
    g'.status = g.status ∧ g'.stage = g.stage ∧ g'.result = g.result

def Routed (s : PublishState) (id : String) : Prop :=
  ∃ g, s.world.db.guided.find? id = some g ∧ g.kind = .domainPublish ∧ g.routeId.isSome

/-- The operation waits for its check. -/
def Pending (s : PublishState) (id : String) : Prop :=
  ∃ g, s.world.db.guided.find? id = some g ∧ g.kind = .domainPublish ∧ g.status = .waiting ∧
    g.stage = verificationStage

/-- A status and stage in which a request still works on the operation. -/
def Unsettled (k : GuidedStatus × String) : Prop :=
  k.1 ≠ .succeeded ∧ k.2 ≠ verificationStage

/-- The updates of a request. -/
structure RequestUpdate (s : PublishState) (id : String) (values : GuidedChange) : Prop where
  status : values.status ≠ some .succeeded
  stage : values.stage = some verificationStage → values.status = some .waiting ∧ Routed s id

/-- The updates of a tick. -/
structure TickUpdate (values : GuidedChange) : Prop where
  status : values.status.isSome → values.stage.isSome
  stage : values.stage ≠ some verificationStage

def allowed : PublishSlot → PublishState → PublishCall → Prop
  | .request n, s, .plane (.updateGuided id values) =>
      (∃ k, s.known (.request n) = some k ∧ Unsettled k) ∧ RequestUpdate s id values
  | .tick n, s, .plane (.updateGuided id values) =>
      s.running = some (.tick n) ∧ Pending s id ∧ TickUpdate values
  | i, s, .leave => s.running = some i
  | _, _, _ => True

/-- An update of a request finds its operation in the status and stage the request was last
told. -/
def UpToDate : PublishSlot → PublishState → PublishCall → Prop
  | .request n, s, .plane (.updateGuided id _) =>
      ∀ g, s.world.db.guided.find? id = some g →
        s.known (.request n) = some (g.status, g.stage)
  | _, _, _ => True

/-- While a tick runs, an operation it has listed waits for it. -/
structure Rely (i : PublishSlot) (s t : PublishState) : Prop where
  known : t.known i = s.known i
  rows : ∀ id g, s.world.db.guided.find? id = some g → g.kind = .domainPublish →
    ∃ g', t.world.db.guided.find? id = some g' ∧ Kept g g'
  pending : s.running = some i →
    t.running = some i ∧ ∀ id, Pending s id → Pending t id

def contract : Contract PublishPlane PublishState PublishSlot where
  exec := fun i s c r t => Exec i s c r t ∧ UpToDate i s c
  inv := Inv
  rely := Rely
  allowed := allowed

lemma Kept.refl (g : GuidedRow) : Kept g g := ⟨rfl, fun h => h, fun _ => ⟨rfl, rfl, rfl⟩⟩

lemma Kept.trans {g g' g'' : GuidedRow} (h : Kept g g') (h' : Kept g' g'') : Kept g g'' where
  kind := h'.kind.trans h.kind
  route := fun hroute => h'.route (h.route hroute)
  final := by
    intro hdone
    obtain ⟨hstatus, hstage, hresult⟩ := h.final hdone
    obtain ⟨hstatus', hstage', hresult'⟩ := h'.final (hstatus.trans hdone)
    exact ⟨hstatus'.trans hstatus, hstage'.trans hstage, hresult'.trans hresult⟩

lemma lawful : contract.Lawful where
  refl := fun _ s => ⟨rfl, fun _ g hg _ => ⟨g, hg, .refl g⟩, fun h => ⟨h, fun _ h => h⟩⟩
  trans := by
    intro i s t u h h'
    refine ⟨h'.known.trans h.known, fun id g hg hkind => ?_, fun hrun => ?_⟩
    · obtain ⟨g', hg', hkept⟩ := h.rows id g hg hkind
      obtain ⟨g'', hg'', hkept'⟩ := h'.rows id g' hg' (hkept.kind.trans hkind)
      exact ⟨g'', hg'', hkept.trans hkept'⟩
    · obtain ⟨hrun', hpending⟩ := h.pending hrun
      obtain ⟨hrun'', hpending'⟩ := h'.pending hrun'
      exact ⟨hrun'', fun id hid => hpending' id (hpending id hid)⟩

/-! ### One step -/

/-- An update of an unsettled operation keeps it coherent. -/
lemma RequestUpdate.coherent {s : PublishState} {id : String} {values : GuidedChange}
    (h : RequestUpdate s id values) {g : GuidedRow}
    (hfind : s.world.db.guided.find? id = some g) (hopen : Unsettled (g.status, g.stage))
    (now : Time) : Coherent (changeGuided now values g) := by
  have hstage (heq : values.stage.getD g.stage = verificationStage) :
      values.stage = some verificationStage := by
    cases hvalues : values.stage with
    | none =>
      rw [hvalues] at heq
      exact absurd heq hopen.2
    | some stage =>
      rw [hvalues] at heq
      exact congrArg some heq
  have hstatus : values.status.getD g.status ≠ .succeeded := by
    cases hvalues : values.status with
    | none => exact hopen.1
    | some status => exact fun heq => h.status (hvalues.trans (congrArg some heq))
  refine ⟨fun heq => ?_, fun heq => ?_⟩
  · have hwaiting := (h.stage (hstage heq)).1
    change values.status.getD g.status = .waiting
    rw [hwaiting, Option.getD_some]
  · rcases heq with heq | heq
    · obtain ⟨g', hfind', -, hroute⟩ := (h.stage (hstage heq)).2
      obtain rfl := Option.some.inj (hfind.symm.trans hfind')
      change (values.routeId.or g.routeId).isSome
      rw [Option.isSome_or, hroute, Bool.or_true]
    · exact absurd heq hstatus

/-- So does an update of a tick. -/
lemma TickUpdate.coherent {values : GuidedChange} (h : TickUpdate values) {g : GuidedRow}
    (hg : Coherent g) (hstatus : g.status = .waiting) (hstage : g.stage = verificationStage)
    (now : Time) : Coherent (changeGuided now values g) := by
  have hroute : (changeGuided now values g).routeId.isSome := by
    change (values.routeId.or g.routeId).isSome
    rw [Option.isSome_or, hg.routed (Or.inl hstage), Bool.or_true]
  refine ⟨fun heq => ?_, fun _ => hroute⟩
  change values.stage.getD g.stage = verificationStage at heq
  cases hvalues : values.stage with
  | none =>
    have hnone : values.status = none := by
      by_contra hsome
      have := h.status (Option.isSome_iff_ne_none.mpr hsome)
      rw [hvalues] at this
      cases this
    change values.status.getD g.status = .waiting
    rw [hnone, Option.getD_none, hstatus]
  | some stage =>
    rw [hvalues] at heq
    exact absurd (hvalues.trans (congrArg some heq)) h.stage

lemma kept_change {g : GuidedRow} (hopen : g.status ≠ .succeeded) (now : Time)
    (values : GuidedChange) : Kept g (changeGuided now values g) where
  kind := rfl
  route := by
    intro hroute
    change (values.routeId.or g.routeId).isSome
    rw [Option.isSome_or, hroute, Bool.or_true]
  final := fun hdone => absurd hdone hopen

lemma inv_same {s t : PublishState} (hi : Inv s) (h : t.world.db.guided = s.world.db.guided) :
    Inv t := by
  unfold Inv
  rw [h]
  exact hi

lemma rely_same {i : PublishSlot} {s t : PublishState}
    (h : t.world.db.guided = s.world.db.guided) (hknown : t.known i = s.known i)
    (hrun : s.running = some i → t.running = some i) : Rely i s t where
  known := hknown
  rows := fun id g hg _ => ⟨g, by rw [h]; exact hg, .refl g⟩
  pending := by
    intro hown
    refine ⟨hrun hown, fun id hid => ?_⟩
    unfold Pending
    rw [h]
    exact hid

lemma update_step {i : PublishSlot} {s t : PublishState} {id : String} {values : GuidedChange}
    {now : Time} (hi : Inv s)
    (hfind : ∀ k, t.world.db.guided.find? k = (s.world.db.guided.find? k).map fun g =>
      if g.id = id then changeGuided now values g else g)
    (hrun : t.running = s.running) (hknown : ∀ j, j ≠ i → t.known j = s.known j)
    (hopen : ∀ g, s.world.db.guided.find? id = some g → g.status ≠ .succeeded)
    (hcoherent : ∀ g, s.world.db.guided.find? id = some g → g.kind = .domainPublish →
      Coherent (changeGuided now values g))
    (hpending : ∀ j, j ≠ i → s.running = some j → ¬Pending s id) :
    Inv t ∧ ∀ j, j ≠ i → Rely j s t := by
  have hrow {k : String} {g : GuidedRow} (hg : s.world.db.guided.find? k = some g) :
      t.world.db.guided.find? k = some (if k = id then changeGuided now values g else g) := by
    rw [hfind, hg, Option.map_some, Table.key_find? hg]
  refine ⟨fun k g' hg' hkind => ?_, fun j hj => ⟨hknown j hj, fun k g hg hkind => ?_, ?_⟩⟩
  · rw [hfind] at hg'
    obtain ⟨g, hg, rfl⟩ := Option.map_eq_some_iff.mp hg'
    have hkey := Table.key_find? hg
    split_ifs at hkind ⊢ with hid
    · rw [← hkey, hid] at hg
      exact hcoherent g hg hkind
    · exact hi k g hg hkind
  · refine ⟨_, hrow hg, ?_⟩
    split_ifs with hid
    · subst hid
      exact kept_change (hopen g hg) now values
    · exact .refl g
  · intro hown
    refine ⟨hrun.trans hown, ?_⟩
    rintro k ⟨g, hg, hrest⟩
    have hne : k ≠ id := by
      rintro rfl
      exact hpending j hj hown ⟨g, hg, hrest⟩
    refine ⟨g, ?_, hrest⟩
    rw [hrow hg, if_neg hne]

lemma insert_step {i : PublishSlot} {s t : PublishState} {new : GuidedRow} (hi : Inv s)
    (hstatus : new.status = .pending) (hstage : new.stage = "created")
    (hnew : s.world.db.guided.find? new.id = none)
    (hfind : ∀ k, t.world.db.guided.find? k =
      if k = new.id then some new else s.world.db.guided.find? k)
    (hrun : t.running = s.running) (hknown : ∀ j, j ≠ i → t.known j = s.known j) :
    Inv t ∧ ∀ j, j ≠ i → Rely j s t := by
  have hold {k : String} {g : GuidedRow} (hg : s.world.db.guided.find? k = some g) :
      t.world.db.guided.find? k = some g := by
    have hne : k ≠ new.id := by
      rintro rfl
      rw [hnew] at hg
      cases hg
    rw [hfind, if_neg hne]
    exact hg
  refine ⟨fun k g hg hkind => ?_, fun j hj => ⟨hknown j hj, fun k g hg _ => ?_, fun hown => ?_⟩⟩
  · rw [hfind] at hg
    split_ifs at hg with hk
    · obtain rfl := Option.some.inj hg
      have hother : new.stage ≠ verificationStage := by
        rw [hstage]
        decide
      refine ⟨fun heq => absurd heq hother, fun heq => ?_⟩
      rcases heq with heq | heq
      · exact absurd heq hother
      · rw [hstatus] at heq
        cases heq
    · exact hi k g hg hkind
  · exact ⟨g, hold hg, .refl g⟩
  · refine ⟨hrun.trans hown, ?_⟩
    rintro k ⟨g, hg, hrest⟩
    exact ⟨g, hold hg, hrest⟩

/-- A call that is no update keeps `guidedVerificationRunning` for the others. -/
lemma others_run {i : PublishSlot} {s t : PublishState} {c : PublishCall}
    {r : Except Failure c.Answer} (hallowed : allowed i s c) (h : Marks i s t c r)
    {j : PublishSlot} (hj : j ≠ i) (hown : s.running = some j) : t.running = some j := by
  cases c with
  | enter =>
    rcases h with ⟨-, hfree, -⟩ | ⟨-, hsame⟩
    · rw [hown] at hfree
      cases hfree
    · exact hsame.trans hown
  | leave =>
    have hmine : s.running = some i := by
      cases i <;> exact hallowed
    exact absurd (Option.some.inj (hown.symm.trans hmine)) hj
  | plane c => exact (show t.running = s.running from h).trans hown
  | agentReady _ => exact (show t.running = s.running from h).trans hown
  | createOperation _ _ _ _ => exact (show t.running = s.running from h).trans hown
  | listRoutes => exact (show t.running = s.running from h).trans hown
  | createRoute _ => exact (show t.running = s.running from h).trans hown

/-- **Step lemma.** An allowed call of one program keeps the operations coherent and the
others' assumptions. -/
lemma exec_step {i : PublishSlot} {s t : PublishState} {c : PublishCall}
    {r : Except Failure c.Answer} (hi : Inv s) (hexec : Exec i s c r t)
    (hcurrent : UpToDate i s c) (hallowed : allowed i s c) :
    Inv t ∧ ∀ j, j ≠ i → Rely j s t := by
  obtain ⟨hmoves, hmarks, -, hothers⟩ := effect_of_exec hexec
  cases hmoves with
  | same h =>
    exact ⟨inv_same hi h, fun j hj =>
      rely_same h (hothers j hj) (others_run hallowed hmarks hj)⟩
  | insert new hstatus hstage hnew hfind =>
    exact insert_step hi hstatus hstage hnew hfind hmarks hothers
  | @update id values now hfind =>
    cases i with
    | request n =>
      obtain ⟨⟨k, hk, hopen⟩, hupdate⟩ := hallowed
      have hrow {g : GuidedRow} (hg : s.world.db.guided.find? id = some g) :
          Unsettled (g.status, g.stage) := by
        rw [← Option.some.inj (hk.symm.trans (hcurrent g hg))]
        exact hopen
      refine update_step hi hfind hmarks hothers (fun g hg => (hrow hg).1)
        (fun g hg _ => hupdate.coherent hg (hrow hg) now) fun j _ _ => ?_
      rintro ⟨g, hg, -, -, hstage⟩
      exact (hrow hg).2 hstage
    | tick n =>
      obtain ⟨hmine, ⟨g, hg, -, hstatus, hstage⟩, hupdate⟩ := hallowed
      have hrow {g' : GuidedRow} (hg' : s.world.db.guided.find? id = some g') : g' = g :=
        Option.some.inj (hg'.symm.trans hg)
      refine update_step hi hfind hmarks hothers (fun g' hg' => ?_) (fun g' hg' hkind => ?_) ?_
      · rw [hrow hg', hstatus]
        rintro ⟨⟩
      · obtain rfl := hrow hg'
        exact hupdate.coherent (hi id g' hg hkind) hstatus hstage now
      · intro j hj hown
        exact absurd (Option.some.inj (hown.symm.trans hmine)) hj

/-! ### Calls beside the operations -/

/-- A call that neither changes an operation nor tells of one. -/
def isAside : PublishCall → Bool
  | .plane (.updateGuided _ _) | .plane (.guidedOperation _) => false
  | .createOperation _ _ _ _ | .enter | .leave => false
  | _ => true

lemma aside_rely {i : PublishSlot} {s t : PublishState} {c : PublishCall}
    {r : Except Failure c.Answer} (hc : isAside c) (hexec : Exec i s c r t) (j : PublishSlot) :
    Rely j s t := by
  obtain ⟨hmoves, hmarks, hknown, hothers⟩ := effect_of_exec hexec
  have hguided : t.world.db.guided = s.world.db.guided := by
    cases hmoves with
    | same h => exact h
    | update => cases hc
    | insert => cases hc
  have hrun : t.running = s.running := by
    cases c with
    | enter => cases hc
    | leave => cases hc
    | _ => exact hmarks
  have hlearned : learned c r = none := by
    cases c with
    | plane c =>
      cases c with
      | updateGuided _ _ => cases hc
      | guidedOperation _ => cases hc
      | _ => rfl
    | createOperation _ _ _ _ => cases hc
    | _ => rfl
  have hsame : t.known j = s.known j := by
    by_cases hj : j = i
    · rw [hj, hknown, hlearned, Option.none_or]
    · exact hothers j hj
  exact rely_same hguided hsame fun h => hrun.trans h

lemma aside_allowed {i : PublishSlot} {s : PublishState} {c : PublishCall} (hc : isAside c) :
    allowed i s c := by
  cases c with
  | plane c =>
    cases c with
    | updateGuided _ _ => cases hc
    | _ => cases i <;> trivial
  | leave => cases hc
  | _ => cases i <;> trivial

lemma aside_keeping {α : Type} {i : PublishSlot} {p : PublishHandler α}
    (hp : p.run.Only (isAside ·)) {P : PublishState → Prop} (hP : Stable contract i P) :
    Keeping contract i P p := by
  refine triple_conseq (triple_only hp hP (fun s c hc _ _ => aside_allowed hc) ?_)
    (fun _ _ h => h) fun r _ _ h => ?_
  · rintro s c r t hc hi hs ⟨hexec, hcurrent⟩
    obtain ⟨hinv, hrely⟩ := exec_step hi hexec hcurrent (aside_allowed hc)
    exact ⟨hinv, hrely, hP s t hi hinv (aside_rely hc hexec i) hs⟩
  · cases r with
    | ok a => exact h
    | error e => exact h

lemma only_perform {φ : PublishCall → Prop} {c : PublishCall} (hc : φ c) :
    (perform c).run.Only φ :=
  ⟨hc, fun _ => trivial⟩

lemma reconcile_aside (id : String) (requireHttpsObservation : Bool) :
    (onPlane (reconcileDomainAccess id requireHttpsObservation)).run.Only (isAside ·) := by
  refine Prog.Only.embed ((reconcileDomainAccess_only id requireHttpsObservation).mono ?_)
  intro c hc
  cases c <;> first | rfl | cases hc

lemma accessOf_aside (id : Option String) : (accessOf id).run.Only (isAside ·) := by
  cases id with
  | none => trivial
  | some id => exact only_bind (only_perform rfl) fun _ => trivial

lemma connectorOf_aside (id : Option String) : (connectorOf id).run.Only (isAside ·) := by
  cases id with
  | none => trivial
  | some id => exact only_bind (only_perform rfl) fun _ => trivial

lemma routeOf_aside (id : Option String) : (routeOf id).run.Only (isAside ·) := by
  cases id with
  | none => trivial
  | some id => exact only_perform rfl

lemma createAccess_aside (body : PublishBody) (account : AccountRow) (zone : ZoneRow)
    (route : RouteRow) : (createAccess body account zone route).run.Only (isAside ·) := by
  unfold createAccess
  split
  · trivial
  · refine only_bind (only_perform rfl) fun created => ?_
    split
    · trivial
    · trivial

lemma ensureRoute_aside (request : PublishRequest) (operation : GuidedRow) :
    (ensureRoute request operation).run.Only (isAside ·) := by
  refine only_bind (only_perform rfl) fun routes => ?_
  split
  · trivial
  · refine only_bind (only_perform rfl) fun created => ?_
    split
    · trivial
    · trivial

/-! ### A request -/

section Requests

variable {n : ℕ}

variable (n) in
/-- The request was last told that its operation is not settled. -/
def Working (s : PublishState) : Prop := ∃ k, s.known (.request n) = some k ∧ Unsettled k

/-- What only depends on the operations, and stays. -/
def Steady (Q : PublishState → Prop) : Prop := ∀ i s t, Rely i s t → Q s → Q t

lemma steady_true : Steady fun _ => True := fun _ _ _ _ _ => trivial

lemma steady_routed (id : String) : Steady fun s => Routed s id := by
  rintro i s t hrely ⟨g, hg, hkind, hroute⟩
  obtain ⟨g', hg', hkept⟩ := hrely.rows id g hg hkind
  exact ⟨g', hg', hkept.kind.trans hkind, hkept.route hroute⟩

lemma stable_working {Q : PublishState → Prop} (hQ : Steady Q) :
    Stable contract (.request n) fun s => Working n s ∧ Q s := by
  rintro s t - - hrely ⟨⟨k, hk, hopen⟩, hq⟩
  exact ⟨⟨k, hrely.known.trans hk, hopen⟩, hQ _ s t hrely hq⟩

/-- What the answer to an update says. -/
lemma update_answer {i : PublishSlot} {s t : PublishState} {id : String}
    {values : GuidedChange} {g' : GuidedRow}
    (h : Exec i s (.plane (.updateGuided id values)) (.ok (some g')) t) :
    ∃ now g, s.world.db.guided.find? id = some g ∧ g' = changeGuided now values g := by
  obtain ⟨ch, u, -, ⟨hr, -⟩ | ⟨e, hr, -⟩⟩ := h
  · have hmap : some g' = (s.world.db.guided.find? id).map (changeGuided ch.now values) :=
      Except.ok.inj hr
    obtain ⟨g, hg, heq⟩ := Option.map_eq_some_iff.mp hmap.symm
    exact ⟨ch.now, g, hg, heq.symm⟩
  · cases hr

/-- The updates after which the request still works on its operation. -/
structure Mild (values : GuidedChange) : Prop where
  status : values.status ≠ some .succeeded
  stage : values.stage ≠ some verificationStage

lemma Mild.update {values : GuidedChange} (h : Mild values) (s : PublishState) (id : String) :
    RequestUpdate s id values :=
  ⟨h.status, fun heq => absurd heq h.stage⟩

lemma Mild.unsettled {values : GuidedChange} (h : Mild values) {g : GuidedRow}
    (hopen : Unsettled (g.status, g.stage)) (now : Time) :
    Unsettled ((changeGuided now values g).status, (changeGuided now values g).stage) := by
  constructor
  · change values.status.getD g.status ≠ .succeeded
    cases hvalues : values.status with
    | none => exact hopen.1
    | some status => exact fun heq => h.status (hvalues.trans (congrArg some heq))
  · change values.stage.getD g.stage ≠ verificationStage
    cases hvalues : values.stage with
    | none => exact hopen.2
    | some stage => exact fun heq => h.stage (hvalues.trans (congrArg some heq))

/-- The request that performs an update keeps what is steady, too. -/
lemma steady_exec {s t : PublishState} {c : PublishCall} {r : Except Failure c.Answer}
    (hi : Inv s) (hexec : Exec (.request n) s c r t) (hcurrent : UpToDate (.request n) s c)
    (hallowed : allowed (.request n) s c) {Q : PublishState → Prop} (hQ : Steady Q) (hq : Q s) :
    Q t := by
  have hother : PublishSlot.tick 0 ≠ .request n := by
    rintro ⟨⟩
  exact hQ _ s t ((exec_step hi hexec hcurrent hallowed).2 _ hother) hq

/-- **Step lemma.** After an update the request still works on its operation, unless it was told
of the last one. -/
lemma request_update {s t : PublishState} {id : String} {values : GuidedChange}
    {r : Except Failure (Option GuidedRow)} {Q : PublishState → Prop} (hQ : Steady Q)
    (hi : Inv s) (hs : Working n s ∧ Q s) (hupdate : RequestUpdate s id values)
    (hexec : Exec (.request n) s (.plane (.updateGuided id values)) r t)
    (hcurrent : UpToDate (.request n) s (.plane (.updateGuided id values))) :
    Inv t ∧ (∀ j, j ≠ .request n → Rely j s t) ∧ Q t ∧
      (Mild values ∨ (∀ g, r ≠ .ok (some g)) → Working n t) := by
  obtain ⟨⟨k, hk, hopen⟩, hq⟩ := hs
  have hallowed : allowed (.request n) s (.plane (.updateGuided id values)) :=
    ⟨⟨k, hk, hopen⟩, hupdate⟩
  obtain ⟨hinv, hrely⟩ := exec_step hi hexec hcurrent hallowed
  have hknown := (effect_of_exec hexec).known
  refine ⟨hinv, hrely, steady_exec hi hexec hcurrent hallowed hQ hq, fun hcases => ?_⟩
  have hstill (hnone : learned (.plane (.updateGuided id values)) r = none) : Working n t := by
    rw [hnone, Option.none_or] at hknown
    exact ⟨k, hknown.trans hk, hopen⟩
  cases r with
  | error e => exact hstill rfl
  | ok o =>
    cases o with
    | none => exact hstill rfl
    | some g' =>
      obtain ⟨now, g, hg, rfl⟩ := update_answer hexec
      have hrow : Unsettled (g.status, g.stage) := by
        rw [← Option.some.inj (hk.symm.trans (hcurrent g hg))]
        exact hopen
      rcases hcases with hmild | hnot
      · exact ⟨_, hknown, hmild.unsettled hrow now⟩
      · exact absurd rfl (hnot _)

lemma updated_keeping {id : String} {values : GuidedChange} {Q : PublishState → Prop}
    (hQ : Steady Q) (hmild : Mild values) :
    Keeping contract (.request n) (fun s => Working n s ∧ Q s) (updated id values) := by
  have hstable := stable_working (n := n) hQ
  refine keeping_bind lawful hstable ?_ fun o => ?_
  · refine triple_perform hstable (fun r => ?_) (fun s _ hs => ⟨hs.1, hmild.update s id⟩) ?_
    · cases r with
      | ok o => exact hstable
      | error e => exact hstable
    · rintro s r t hi hs ⟨hexec, hcurrent⟩
      obtain ⟨hinv, hrely, hq, hworking⟩ :=
        request_update hQ hi hs (hmild.update s id) hexec hcurrent
      refine ⟨hinv, hrely, ?_⟩
      cases r with
      | ok o => exact ⟨hworking (Or.inl hmild), hq⟩
      | error e => exact ⟨hworking (Or.inl hmild), hq⟩
  · split
    · exact keeping_pure hstable
    · exact keeping_throw hstable

/-- The last update: where it fails, the request still works on the operation. -/
lemma updated_last {id : String} {values : GuidedChange} {Q : PublishState → Prop}
    (hQ : Steady Q) (hvalues : ∀ s, Q s → RequestUpdate s id values) :
    Triple contract (.request n) (fun s => Working n s ∧ Q s) (updated id values).run
      (Exits (fun _ _ => True) fun _ s => Working n s ∧ Q s) := by
  have hstable := stable_working (n := n) hQ
  refine exits_bind (K := fun o s => o = none → Working n s ∧ Q s) lawful (fun _ => hstable) ?_
    fun o => ?_
  · refine triple_perform hstable (fun r => ?_) (fun s _ hs => ⟨hs.1, hvalues s hs.2⟩) ?_
    · cases r with
      | ok o => exact hstable.imp
      | error e => exact hstable
    · rintro s r t hi hs ⟨hexec, hcurrent⟩
      obtain ⟨hinv, hrely, hq, hworking⟩ :=
        request_update hQ hi hs (hvalues s hs.2) hexec hcurrent
      refine ⟨hinv, hrely, ?_⟩
      cases r with
      | error e =>
        refine ⟨hworking (Or.inr ?_), hq⟩
        rintro g ⟨⟩
      | ok o =>
        rintro rfl
        refine ⟨hworking (Or.inr ?_), hq⟩
        rintro g ⟨⟩
  · split
    · exact exits_pure hstable.imp fun _ _ _ => trivial
    · exact exits_throw hstable.imp fun _ _ h => h rfl

variable {settings : Settings}

/-- The assertion of the `try` block: the request works on an operation with a route. -/
abbrev Publishing (n : ℕ) (id : String) (s : PublishState) : Prop := Working n s ∧ Routed s id

lemma ensureAccess_keeping (operation : GuidedRow) (body : PublishBody) (account : AccountRow)
    (zone : ZoneRow) (route : RouteRow) :
    Keeping contract (.request n) (Publishing n operation.id)
      (ensureAccess operation body account zone route) := by
  have hrouted := steady_routed operation.id
  have hstable := stable_working (n := n) hrouted
  refine keeping_bind lawful hstable (aside_keeping (accessOf_aside _) hstable) fun found => ?_
  cases found with
  | some access => exact keeping_pure hstable
  | none =>
    refine keeping_bind lawful hstable (aside_keeping (createAccess_aside ..) hstable)
      fun access => ?_
    refine keeping_bind lawful hstable (updated_keeping hrouted ⟨?_, ?_⟩)
      fun _ => keeping_pure hstable
    · rintro ⟨⟩
    · exact fun h => absurd (Option.some.inj h) (by decide)

lemma finishPublish_triple (operation : GuidedRow) (body : PublishBody) (account : AccountRow)
    (zone : ZoneRow) (route : RouteRow) :
    Triple contract (.request n) (Publishing n operation.id)
      (finishPublish settings operation body account zone route).run
      (Exits (fun _ _ => True) fun _ => Publishing n operation.id) := by
  have hrouted := steady_routed operation.id
  have hstable := stable_working (n := n) hrouted
  refine exits_bind lawful (fun _ => hstable)
    (ensureAccess_keeping operation body account zone route) fun access => ?_
  refine exits_bind lawful (fun _ => hstable)
    (aside_keeping (reconcile_aside access.id true) hstable) fun access => ?_
  refine exits_bind lawful (fun _ => hstable) (aside_keeping (only_perform rfl) hstable)
    fun now => ?_
  refine exits_bind lawful (fun _ => hstable) (updated_last hrouted fun s hs => ⟨?_, fun _ => ?_⟩)
    fun operation => exits_pure stable_true fun _ _ _ => trivial
  · rintro ⟨⟩
  · exact ⟨rfl, hs⟩

lemma publishRoute_triple (operation : GuidedRow) (request : Json) (route : RouteRow) :
    Triple contract (.request n) (Publishing n operation.id)
      (publishRoute settings operation request route).run
      (Exits (fun _ _ => True) fun _ => Publishing n operation.id) := by
  have hstable := stable_working (n := n) (steady_routed operation.id)
  have hthrow {e : Failure} : Triple contract (.request n) (Publishing n operation.id)
      (throw e : PublishHandler PublishAnswer).run
      (Exits (fun _ _ => True) fun _ => Publishing n operation.id) :=
    exits_throw hstable fun _ _ h => h
  refine exits_bind lawful (fun _ => hstable) (keeping_ofExcept hstable) fun body => ?_
  refine exits_bind lawful (fun _ => hstable) (aside_keeping (only_perform rfl) hstable)
    fun accounts => ?_
  refine exits_bind lawful (fun _ => hstable) (aside_keeping (only_perform rfl) hstable)
    fun zones => ?_
  split
  · split
    · exact hthrow
    · refine exits_bind lawful (fun _ => hstable) (aside_keeping (connectorOf_aside _) hstable)
        fun connector => ?_
      split
      · exact hthrow
      · split
        · exact hthrow
        · exact finishPublish_triple operation body _ _ route
  · exact hthrow

lemma recordFailure_triple {α : Type} (id : String) (error : Failure) :
    Triple contract (.request n) (Publishing n id) (recordFailure id error : PublishHandler α).run
      (Exits (fun _ _ => True) fun _ _ => True) := by
  have hrouted := steady_routed id
  have hstable := stable_working (n := n) hrouted
  have hupdate (s : PublishState) : RequestUpdate s id
      { status := some .failed, error := some (some (failureMessage error)) } := by
    refine ⟨?_, ?_⟩
    · rintro ⟨⟩
    · rintro ⟨⟩
  refine exits_bind (K := fun _ _ => True) lawful (fun _ => stable_true) ?_
    fun _ => exits_throw stable_true fun _ _ _ => trivial
  refine triple_perform hstable (fun r => ?_) (fun s _ hs => ⟨hs.1, hupdate s⟩) ?_
  · cases r <;> exact stable_true
  · rintro s r t hi hs ⟨hexec, hcurrent⟩
    obtain ⟨hinv, hrely, -, -⟩ := request_update hrouted hi hs (hupdate s) hexec hcurrent
    refine ⟨hinv, hrely, ?_⟩
    cases r <;> trivial

lemma advance_triple (operation : GuidedRow) (request : Json) (route : RouteRow) :
    Triple contract (.request n) (Publishing n operation.id)
      (advance settings operation request route).run
      (Exits (fun _ _ => True) fun _ _ => True) := by
  have hrouted := steady_routed operation.id
  have hstable := stable_working (n := n) hrouted
  have hweak {values : GuidedChange} (hmild : Mild values) :
      Triple contract (.request n) (Publishing n operation.id) (updated operation.id values).run
        (Exits (fun _ _ => True) fun _ _ => True) :=
    exits_conseq (updated_keeping hrouted hmild) (fun _ _ h => h) (fun _ _ _ _ => trivial)
      fun _ _ _ _ => trivial
  unfold advance
  split
  · refine exits_bind lawful (fun _ => stable_true) (hweak ⟨?_, ?_⟩)
      fun _ => exits_pure stable_true fun _ _ _ => trivial
    · rintro ⟨⟩
    · decide
  · split
    · refine exits_bind lawful (fun _ => stable_true) (hweak ⟨?_, ?_⟩)
        fun _ => exits_throw stable_true fun _ _ _ => trivial
      · rintro ⟨⟩
      · decide
    · exact exits_catch lawful (fun _ => stable_true) (publishRoute_triple operation request route)
        fun error => recordFailure_triple operation.id error

variable (n) in
/-- The request was told this of the operation last. -/
structure Told (g : GuidedRow) (s : PublishState) : Prop where
  known : s.known (.request n) = some (g.status, g.stage)
  row : g.kind = .domainPublish → ∃ g', s.world.db.guided.find? g.id = some g' ∧ Kept g g'

lemma stable_told (g : GuidedRow) : Stable contract (.request n) (Told n g) := by
  rintro s t - - hrely ⟨hknown, hrow⟩
  refine ⟨hrely.known.trans hknown, fun hkind => ?_⟩
  obtain ⟨g', hg', hkept⟩ := hrow hkind
  obtain ⟨g'', hg'', hkept'⟩ := hrely.rows g.id g' hg' (hkept.kind.trans hkind)
  exact ⟨g'', hg'', hkept.trans hkept'⟩

lemma Told.publishing {g : GuidedRow} {s : PublishState} (h : Told n g s)
    (hkind : g.kind = .domainPublish) (hopen : Unsettled (g.status, g.stage))
    (hroute : g.routeId.isSome) : Publishing n g.id s := by
  obtain ⟨g', hg', hkept⟩ := h.row hkind
  exact ⟨⟨_, h.known, hopen⟩, g', hg', hkept.kind.trans hkind, hkept.route hroute⟩

lemma guidedOperation_triple (id : String) :
    Triple contract (.request n) (fun _ => True) (ask (.guidedOperation id)).run
      (Exits (fun o s => ∀ g, o = some g → Told n g s) fun _ _ => True) := by
  refine triple_perform stable_true (fun r => ?_) (fun _ _ _ => trivial) ?_
  · cases r with
    | ok o =>
      intro s t hi hi' hrely hs g hg
      exact stable_told g s t hi hi' hrely (hs g hg)
    | error e => exact stable_true
  · rintro s r t hi - ⟨hexec, hcurrent⟩
    obtain ⟨hinv, hrely⟩ := exec_step hi hexec hcurrent trivial
    refine ⟨hinv, hrely, ?_⟩
    have hknown := (effect_of_exec hexec).known
    obtain ⟨ch, u, rfl, ⟨rfl, rfl⟩ | ⟨e, rfl, -⟩⟩ := hexec
    · rintro g hg
      have hfind : s.world.db.guided.find? id = some g := hg
      refine ⟨?_, fun _ => ⟨g, ?_, .refl g⟩⟩
      · rw [hknown]
        change (learned (.plane (.guidedOperation id))
          (.ok (s.world.db.guided.find? id))).or _ = _
        rw [hfind]
        rfl
      · rw [Table.key_find? hfind]
        exact hfind
    · trivial

lemma continueGuidedPublish_triple (operationId userId : String) :
    Triple contract (.request n) (fun _ => True)
      (continueGuidedPublish settings operationId userId).run
      (Exits (fun _ _ => True) fun _ _ => True) := by
  have hdone {p : PublishHandler PublishAnswer} {P : PublishState → Prop}
      (hp : p.run.Only (isAside ·)) :
      Triple contract (.request n) P p.run (Exits (fun _ _ => True) fun _ _ => True) :=
    exits_conseq (aside_keeping hp stable_true) (fun _ _ _ => trivial) (fun _ _ _ h => h)
      fun _ _ _ h => h
  refine exits_bind lawful (fun _ => stable_true) (guidedOperation_triple operationId)
    fun found => ?_
  cases found with
  | none => exact hdone trivial
  | some operation =>
    refine triple_conseq (P := Told n operation) ?_ (fun s _ hs => hs operation rfl)
      fun _ _ _ h => h
    simp only
    split
    · exact hdone trivial
    · rename_i hmine
      obtain ⟨hkind, -⟩ := not_or.mp hmine
      split
      · exact hdone trivial
      · rename_i hstatus
        split
        · exact hdone (only_bind (accessOf_aside _) fun _ => trivial)
        · rename_i hstage
          split
          · exact hdone trivial
          · rename_i request _
            have htold := stable_told (n := n) operation
            cases hroute : operation.routeId with
            | none => exact hdone trivial
            | some routeId =>
              refine exits_bind (K := fun _ => Told n operation) lawful (fun _ => stable_true)
                (exits_conseq (aside_keeping (routeOf_aside _) htold) (fun _ _ h => h)
                  (fun _ _ _ h => h) fun _ _ _ _ => trivial) fun route => ?_
              cases route with
              | none => exact hdone trivial
              | some route =>
                refine triple_conseq (advance_triple operation request route) ?_
                  fun _ _ _ h => h
                intro s _ hs
                refine hs.publishing (not_ne_iff.mp hkind) ⟨hstatus, hstage⟩ ?_
                rw [hroute]
                rfl

lemma createOperation_triple (key user hash : String) (request : Json) :
    Triple contract (.request n) (fun _ => True)
      (perform (.createOperation key user hash request)).run
      (Exits (fun g s => Told n g s ∧ (g.routeId = none → Unsettled (g.status, g.stage)))
        fun _ _ => True) := by
  refine triple_perform stable_true (fun r => ?_) (fun _ _ _ => trivial) ?_
  · cases r with
    | ok g => exact (stable_told g).and (stable_const _)
    | error e => exact stable_true
  · rintro s r t hi - ⟨hexec, hcurrent⟩
    obtain ⟨hinv, hrely⟩ := exec_step hi hexec hcurrent trivial
    refine ⟨hinv, hrely, ?_⟩
    have hknown := (effect_of_exec hexec).known
    cases r with
    | error e => trivial
    | ok g =>
      obtain ⟨ch, u, rfl, ⟨hr, rfl⟩ | ⟨e, hr, -⟩⟩ := hexec
      · cases hrun : createOrGetGuidedOperation s.world.db ch.now ch.newId .domainPublish key user
            hash request with
        | none =>
          simp only [PublishCall.run, PublishState.store, hrun, Option.map_none,
            World.store] at hr
          cases hr
        | some answer =>
          obtain ⟨db, g', b⟩ := answer
          obtain ⟨-, hfind, hkind⟩ := createOperation_moves hrun
          simp only [PublishCall.run, PublishState.store, hrun, Option.map_some,
            World.store] at hr hinv ⊢
          obtain rfl := Except.ok.inj hr
          refine ⟨⟨hknown, fun _ => ⟨g, hfind, .refl g⟩⟩, fun hroute => ?_⟩
          have hcoherent := hinv g.id g hfind hkind
          constructor
          · intro heq
            have := hcoherent.routed (Or.inr heq)
            rw [hroute] at this
            cases this
          · intro heq
            have := hcoherent.routed (Or.inl heq)
            rw [hroute] at this
            cases this
      · cases hr

lemma attachRoute_triple (request : PublishRequest) (operation : GuidedRow) :
    Triple contract (.request n)
      (fun s => Told n operation s ∧
        (operation.routeId = none → Unsettled (operation.status, operation.stage)))
      (attachRoute request operation).run (Exits (fun _ _ => True) fun _ _ => True) := by
  have hstable := stable_working (n := n) steady_true
  have hkept {α : Type} {p : PublishHandler α}
      (hp : Keeping contract (.request n) (fun s => Working n s ∧ True) p) :
      Triple contract (.request n) (fun s => Working n s ∧ True) p.run
        (Exits (fun _ s => Working n s ∧ True) fun _ _ => True) :=
    exits_conseq hp (fun _ _ h => h) (fun _ _ _ h => h) fun _ _ _ _ => trivial
  unfold attachRoute
  split
  · exact exits_pure ((stable_told operation).and (stable_const _)) fun _ _ _ => trivial
  · rename_i hroute
    refine triple_conseq (P := fun s => Working n s ∧ True) ?_ ?_ fun _ _ _ h => h
    · refine exits_bind lawful (fun _ => stable_true)
        (hkept (aside_keeping (ensureRoute_aside request operation) hstable)) fun route => ?_
      refine exits_bind lawful (fun _ => stable_true)
        (hkept (updated_keeping steady_true ⟨?_, ?_⟩))
        fun _ => exits_pure hstable fun _ _ _ => trivial
      · rintro ⟨⟩
      · exact fun h => absurd (Option.some.inj h) (by decide)
    · rintro s - ⟨htold, hopen⟩
      exact ⟨⟨_, htold.known, hopen hroute⟩, trivial⟩

lemma domainPublish_triple (key userId : String) (request : PublishRequest) :
    Triple contract (.request n) (fun _ => True) (domainPublish settings key userId request).run
      (Exits (fun _ _ => True) fun _ _ => True) := by
  have haside {c : PublishCall} (hc : isAside c) :
      Keeping contract (.request n) (fun _ => True) (perform c) :=
    aside_keeping (only_perform hc) stable_true
  have hthrow {α : Type} {e : Failure} {P : PublishState → Prop}
      (hP : Stable contract (.request n) P) :
      Triple contract (.request n) P (throw e : PublishHandler α).run
        (Exits (fun _ _ => True) fun _ _ => True) :=
    exits_throw hP fun _ _ _ => trivial
  refine exits_bind lawful (fun _ => stable_true) (haside rfl) fun ready => ?_
  refine exits_bind lawful (fun _ => stable_true) (haside rfl) fun zones => ?_
  split
  · exact hthrow stable_true
  · split
    · exact hthrow stable_true
    · refine exits_bind lawful (fun _ => stable_true) (keeping_ofExcept stable_true)
        fun _ => ?_
      refine exits_bind lawful (fun _ => stable_true) (createOperation_triple _ _ _ _)
        fun operation => ?_
      split
      · exact hthrow ((stable_told operation).and (stable_const _))
      · exact exits_bind lawful (fun _ => stable_true)
          (attachRoute_triple request operation)
          fun _ => continueGuidedPublish_triple operation.id userId

end Requests

end GatewayControl.GuidedStages
