import GatewayControl.GuidedStages

/-!
Every run of guided publishing: the verification ticks beside the requests.
-/

namespace GatewayControl.GuidedRuns

open Database Store Publishing Ingress Cloudflare Calls Reconcile Verification Programs
open GuidedPublish GuidedStages

variable {n : ℕ} {settings : Settings} {render : Render}

/-! ### A tick -/

/-- The contract for the handlers of the plane. -/
abbrev planeContract : Contract Plane PublishState PublishSlot :=
  contract.under PublishCall.plane fun _ r => r

lemma plane_lawful : planeContract.Lawful := lawful.under _ _

variable (n) in
/-- The tick runs, and the operations it has still to look at wait for it. -/
def Busy (operations : List GuidedRow) (s : PublishState) : Prop :=
  s.running = some (.tick n) ∧ ∀ g ∈ operations, Pending s g.id

lemma stable_busy (operations : List GuidedRow) :
    Stable planeContract (.tick n) (Busy n operations) := by
  rintro s t - - hrely ⟨hrun, hall⟩
  obtain ⟨hrun', hpending⟩ := hrely.pending hrun
  exact ⟨hrun', fun g hg => hpending g.id (hall g hg)⟩

lemma Busy.weaken {operations rest : List GuidedRow} {s : PublishState}
    (h : Busy n operations s) (hsub : ∀ g ∈ rest, g ∈ operations) : Busy n rest s :=
  ⟨h.1, fun g hg => h.2 g (hsub g hg)⟩

lemma plane_aside {c : Call} (hc : isAside (.plane c)) {P : PublishState → Prop}
    (hP : Stable planeContract (.tick n) P) :
    Keeping planeContract (.tick n) P (call c) := by
  refine triple_perform hP (fun r => ?_) (fun s _ _ => aside_allowed hc) ?_
  · cases r <;> exact hP
  · rintro s r t hi hs ⟨r', rfl, hexec, hcurrent⟩
    obtain ⟨hinv, hrely⟩ := exec_step hi hexec hcurrent (aside_allowed hc)
    refine ⟨hinv, hrely, ?_⟩
    have ht := hP s t hi hinv (aside_rely hc hexec (.tick n)) hs
    cases r' <;> exact ht

/-- The operation a tick updates is done with. -/
lemma tick_update {operation : GuidedRow} {rest : List GuidedRow} {values : GuidedChange}
    (hvalues : TickUpdate values) (hnew : operation.id ∉ rest.map (·.id)) :
    Triple planeContract (.tick n) (Busy n (operation :: rest))
      (call (.updateGuided operation.id values)).run
      (Exits (fun _ => Busy n rest) fun _ => Busy n rest) := by
  refine triple_perform (stable_busy _) (fun r => ?_) (fun s _ hs => ?_) ?_
  · cases r <;> exact stable_busy rest
  · exact ⟨hs.1, hs.2 operation List.mem_cons_self, hvalues⟩
  · rintro s r t hi ⟨hrun, hall⟩ ⟨r', rfl, hexec, hcurrent⟩
    have hallowed : allowed (.tick n) s (.plane (.updateGuided operation.id values)) :=
      ⟨hrun, hall operation List.mem_cons_self, hvalues⟩
    obtain ⟨hinv, hrely⟩ := exec_step hi hexec hcurrent hallowed
    obtain ⟨hmoves, hmarks, -, -⟩ := effect_of_exec hexec
    have hrest : Busy n rest t := by
      refine ⟨Eq.trans hmarks hrun, fun g hg => ?_⟩
      obtain ⟨row, hrow, hkept⟩ := hall g (List.mem_cons_of_mem _ hg)
      refine ⟨row, ?_, hkept⟩
      cases hmoves with
      | same h =>
        rw [h]
        exact hrow
      | update now hfind =>
        have hne : row.id ≠ operation.id := by
          rw [Table.key_find? hrow]
          exact fun heq => hnew (List.mem_map.mpr ⟨g, hg, heq⟩)
        rw [hfind, hrow, Option.map_some, if_neg hne]
    refine ⟨hinv, hrely, ?_⟩
    cases r' <;> exact hrest

section Turn

variable {operation : GuidedRow} {rest : List GuidedRow}
  (hnew : operation.id ∉ rest.map (·.id))

lemma skip_triple {α : Type} {a : α} :
    Triple planeContract (.tick n) (Busy n (operation :: rest)) (pure a : Handler α).run
      (Exits (fun _ => Busy n rest) fun _ => Busy n rest) :=
  exits_pure (stable_busy _) fun _ _ h => h.weaken fun _ hg => List.mem_cons_of_mem _ hg

lemma aside_bind {α : Type} {c : Call} (hc : isAside (.plane c)) {f : c.Answer → Handler α}
    (hf : ∀ a, Triple planeContract (.tick n) (Busy n (operation :: rest)) (f a).run
      (Exits (fun _ => Busy n rest) fun _ => Busy n rest)) :
    Triple planeContract (.tick n) (Busy n (operation :: rest)) (call c >>= f).run
      (Exits (fun _ => Busy n rest) fun _ => Busy n rest) :=
  exits_bind plane_lawful (fun _ => stable_busy rest)
    (exits_conseq (plane_aside hc (stable_busy _)) (fun _ _ h => h) (fun _ _ _ h => h)
      fun _ _ _ h => h.weaken fun _ hg => List.mem_cons_of_mem _ hg) hf

include hnew

lemma update_bind {values : GuidedChange} (hvalues : TickUpdate values) :
    Triple planeContract (.tick n) (Busy n (operation :: rest))
      (do let _ ← call (.updateGuided operation.id values) : Handler Unit).run
      (Exits (fun _ => Busy n rest) fun _ => Busy n rest) :=
  exits_bind plane_lawful (fun _ => stable_busy rest) (tick_update hvalues hnew)
    fun _ => exits_pure (stable_busy rest) fun _ _ h => h

lemma succeed_triple (route : RouteRow) (access : AccessRow) :
    Triple planeContract (.tick n) (Busy n (operation :: rest))
      (succeed render operation route access).run
      (Exits (fun _ => Busy n rest) fun _ => Busy n rest) := by
  refine aside_bind rfl fun active => ?_
  cases active with
  | none => exact skip_triple
  | some active =>
    refine update_bind hnew ⟨fun _ => rfl, ?_⟩
    exact fun h => absurd (Option.some.inj h) (by decide)

lemma failOrWait_triple (access : AccessRow) (error : String) :
    Triple planeContract (.tick n) (Busy n (operation :: rest))
      (failOrWait operation access error).run
      (Exits (fun _ => Busy n rest) fun _ => Busy n rest) := by
  have hpassed : Keeping planeContract (.tick n) (Busy n (operation :: rest))
      (deadlinePassed operation) := by
    unfold deadlinePassed
    split
    · exact keeping_pure (stable_busy _)
    · exact keeping_bind plane_lawful (stable_busy _) (plane_aside rfl (stable_busy _))
        fun _ => keeping_pure (stable_busy _)
  refine exits_bind plane_lawful (fun _ => stable_busy rest)
    (exits_conseq hpassed (fun _ _ h => h) (fun _ _ _ h => h)
      fun _ _ _ h => h.weaken fun _ hg => List.mem_cons_of_mem _ hg) fun passed => ?_
  split
  · refine aside_bind rfl fun _ => update_bind hnew ⟨fun _ => rfl, ?_⟩
    exact fun h => absurd (Option.some.inj h) (by decide)
  · refine update_bind hnew ⟨?_, ?_⟩
    · rintro ⟨⟩
    · rintro ⟨⟩

lemma verifyOne_triple :
    Triple planeContract (.tick n) (Busy n (operation :: rest)) (verifyOne render operation).run
      (Exits (fun _ => Busy n rest) fun _ => Busy n rest) := by
  unfold verifyOne
  split
  · refine aside_bind rfl fun accesses => aside_bind rfl fun route => ?_
    split
    · split
      · exact skip_triple
      · refine aside_bind rfl fun observation => aside_bind rfl fun _ => ?_
        split
        · exact succeed_triple hnew _ _
        · exact failOrWait_triple hnew _ _
    · exact skip_triple
  · exact skip_triple

end Turn

lemma verifyAll_triple {operations : List GuidedRow} (hnodup : (operations.map (·.id)).Nodup) :
    Triple planeContract (.tick n) (Busy n operations) (verifyAll render operations).run
      (Exits (fun _ => Busy n []) fun _ => Busy n []) := by
  induction operations with
  | nil => exact keeping_pure (stable_busy [])
  | cons operation rest ih =>
    obtain ⟨hnew, hrest⟩ := List.nodup_cons.mp hnodup
    refine exits_bind plane_lawful (fun _ => stable_busy [])
      (exits_conseq (verifyOne_triple hnew) (fun _ _ h => h) (fun _ _ _ h => h)
        fun _ _ _ h => h.weaken fun _ hg => absurd hg List.not_mem_nil) fun _ => ih hrest

/-- What a tick lists waits for it, each operation once. -/
lemma listed_pending {db : PublishDb} {limit : ℕ} {g : GuidedRow}
    (h : g ∈ listGuidedOperationsPendingVerification db limit) :
    db.guided.find? g.id = some g ∧ g.kind = .domainPublish ∧ g.status = .waiting ∧
      g.stage = verificationStage := by
  have hmem := List.mem_mergeSort.mp (List.mem_of_mem_take h)
  obtain ⟨hrow, hchecks⟩ := List.mem_filter.mp hmem
  simp only [Bool.and_eq_true, decide_eq_true_eq] at hchecks
  exact ⟨Table.find?_of_mem hrow, hchecks.1.1, hchecks.1.2, hchecks.2⟩

lemma listed_nodup (db : PublishDb) (limit : ℕ) :
    ((listGuidedOperationsPendingVerification db limit).map (·.id)).Nodup := by
  have hrows : ((db.guided.rows.filter fun g => g.kind = .domainPublish && g.status = .waiting &&
      g.stage = "pending_https_verification").map GuidedRow.id).Nodup :=
    db.guided.distinct.sublist (List.filter_sublist.map _)
  have hsorted := ((List.mergeSort_perm (db.guided.rows.filter fun g =>
    g.kind = .domainPublish && g.status = .waiting && g.stage = "pending_https_verification")
    fun g h => g.updatedAt ≤ h.updatedAt).map GuidedRow.id).nodup_iff.mpr hrows
  exact hsorted.sublist ((List.take_sublist _ _).map _)

lemma pendingVerifications_triple (limit : ℕ) :
    Triple planeContract (.tick n) (Busy n []) (call (.pendingVerifications limit)).run
      (Exits (fun operations s => (operations.map (·.id)).Nodup ∧ Busy n operations s)
        fun _ => Busy n []) := by
  refine triple_perform (stable_busy []) (fun r => ?_) (fun _ _ _ => trivial) ?_
  · cases r with
    | ok operations => exact (stable_const _).and (stable_busy operations)
    | error e => exact stable_busy []
  · rintro s r t hi ⟨hrun, -⟩ ⟨r', rfl, hexec, hcurrent⟩
    obtain ⟨hinv, hrely⟩ := exec_step hi hexec hcurrent trivial
    have hsame := aside_rely rfl hexec (.tick n)
    obtain ⟨hrun', hpending⟩ := hsame.pending hrun
    refine ⟨hinv, hrely, ?_⟩
    cases r' with
    | error e => exact ⟨hrun', fun g hg => absurd hg List.not_mem_nil⟩
    | ok operations =>
      obtain ⟨ch, u, -, ⟨hr, -⟩ | ⟨e, hr, -⟩⟩ := hexec
      · obtain rfl : operations = listGuidedOperationsPendingVerification s.world.db limit :=
          Except.ok.inj hr
        refine ⟨listed_nodup _ _, hrun', fun g hg => hpending g.id ?_⟩
        exact ⟨g, listed_pending hg⟩
      · cases hr

lemma reconcileGuidedVerifications_triple :
    Triple planeContract (.tick n) (Busy n []) (reconcileGuidedVerifications render).run
      (Exits (fun _ => Busy n []) fun _ => Busy n []) := by
  refine exits_bind plane_lawful (fun _ => stable_busy []) (pendingVerifications_triple 5)
    fun operations => triple_pre fun hnodup => verifyAll_triple hnodup

lemma enter_triple : Triple contract (.tick n) (fun _ => True) (perform .enter).run
    (Exits (fun entered s => entered = true → Busy n [] s) fun _ _ => True) := by
  refine triple_perform stable_true (fun r => ?_) (fun _ _ _ => trivial) ?_
  · cases r with
    | ok entered => exact Stable.imp (stable_busy [])
    | error e => exact stable_true
  · rintro s r t hi - ⟨hexec, hcurrent⟩
    obtain ⟨hinv, hrely⟩ := exec_step hi hexec hcurrent trivial
    refine ⟨hinv, hrely, ?_⟩
    have hmarks := (effect_of_exec hexec).marks
    cases r with
    | error e => trivial
    | ok entered =>
      rintro rfl
      rcases hmarks with ⟨-, -, hrun⟩ | ⟨hfalse, -⟩
      · exact ⟨hrun, fun g hg => absurd hg List.not_mem_nil⟩
      · cases hfalse

lemma leave_triple : Triple contract (.tick n) (Busy n []) (perform .leave).run
    (Exits (fun _ _ => True) fun _ _ => True) := by
  refine triple_perform (stable_busy []) (fun r => ?_) (fun _ _ hs => hs.1) ?_
  · cases r <;> exact stable_true
  · rintro s r t hi hs ⟨hexec, hcurrent⟩
    obtain ⟨hinv, hrely⟩ := exec_step hi hexec hcurrent hs.1
    refine ⟨hinv, hrely, ?_⟩
    cases r <;> trivial

lemma verificationTick_triple :
    Triple contract (.tick n) (fun _ => True) (verificationTick settings).run
      (Exits (fun _ _ => True) fun _ _ => True) := by
  refine exits_bind lawful (fun _ => stable_true) enter_triple fun entered => ?_
  have hbusy : Stable contract (.tick n) (Busy n []) := stable_busy []
  cases entered with
  | false => exact exits_pure hbusy.imp fun _ _ _ => trivial
  | true =>
    have hchecks : Keeping contract (.tick n) (Busy n [])
        (onPlane (reconcileGuidedVerifications settings.render)) :=
      triple_embed reconcileGuidedVerifications_triple
    refine triple_conseq (P := Busy n []) ?_ (fun s _ hs => hs rfl) fun _ _ _ h => h
    refine exits_bind (K := fun _ => Busy n []) lawful (fun _ => stable_true)
      (exits_catch lawful (fun _ => hbusy) hchecks fun e => ?_) fun _ => leave_triple
    exact exits_pure hbusy fun _ _ h => h

/-! ### The system -/

abbrev PublishConfig := Config PublishPlane PublishState PublishSlot (Except Failure Unit)

variable (settings) in
/-- The runs in which each update of a request finds its operation as the request knows it. -/
def currentSystem : System PublishPlane PublishState PublishSlot (Except Failure Unit) Unit :=
  (system settings).within (fun i s c _ => UpToDate i s c) fun _ _ => True

lemma starts_triple {i : PublishSlot} {p : Prog PublishPlane (Except Failure Unit)}
    (hp : Starts settings i p) :
    Triple contract i (fun _ => True) p (Exits (fun _ _ => True) fun _ _ => True) := by
  cases hp with
  | publish number key userId request =>
    exact exits_bind lawful (fun _ => stable_true) (domainPublish_triple key userId request)
      fun _ => exits_pure stable_true fun _ _ _ => trivial
  | reconcile number operationId userId =>
    exact exits_bind lawful (fun _ => stable_true)
      (continueGuidedPublish_triple operationId userId)
      fun _ => exits_pure stable_true fun _ _ _ => trivial
  | tick number => exact verificationTick_triple

lemma find?_elsewhere {s t : PublishState} (h : Elsewhere s t) {id : String} {g : GuidedRow}
    (hkind : g.kind = .domainPublish) :
    t.world.db.guided.find? id = some g ↔ s.world.db.guided.find? id = some g := by
  constructor
  · intro hg
    have hmem := (h.guided g hkind).mp (Table.mem_of_find? hg)
    rw [← Table.key_find? hg]
    exact Table.find?_of_mem hmem
  · intro hg
    have hmem := (h.guided g hkind).mpr (Table.mem_of_find? hg)
    rw [← Table.key_find? hg]
    exact Table.find?_of_mem hmem

/-- **Step lemma.** Nothing else touches the operations. -/
lemma elsewhere_step {s t : PublishState} (hi : Inv s) (h : Elsewhere s t) :
    Inv t ∧ ∀ i, Rely i s t := by
  refine ⟨fun id g hg hkind => hi id g ((find?_elsewhere h hkind).mp hg) hkind, fun i => ?_⟩
  refine ⟨congrFun h.known i, fun id g hg hkind => ⟨g, ?_, .refl g⟩, fun hrun => ?_⟩
  · exact (find?_elsewhere h hkind).mpr hg
  · refine ⟨h.running.trans hrun, ?_⟩
    rintro id ⟨g, hg, hkind, hrest⟩
    exact ⟨g, (find?_elsewhere h hkind).mpr hg, hkind, hrest⟩

lemma keeps_current : Keeps (currentSystem settings) contract fun _ _ _ => True where
  lawful := lawful
  exec := fun i s c r t ⟨hcurrent, hexec⟩ => ⟨hexec, hcurrent⟩
  start := by
    rintro i a s p t ⟨rfl, hp⟩ hi -
    refine ⟨hi, fun j hj => rely_same rfl (Function.update_of_ne hj _ _) fun h => h, ?_⟩
    exact safe_mono (starts_triple hp _ hi trivial) fun _ _ _ _ => trivial
  environment := fun _ s t ⟨_, h⟩ hi => elsewhere_step hi h
  crash := by
    rintro i s t p ⟨rfl, rfl⟩ hi
    refine ⟨hi, fun j hj => rely_same rfl rfl fun hrun => ?_, fun _ _ _ => trivial⟩
    change (if s.running = some i then none else s.running) = some j
    rw [hrun, if_neg fun heq => hj (Option.some.inj heq)]

lemma sound_initial {c : PublishConfig} (h : Initial c) : Sound contract (fun _ _ _ => True) c := by
  refine ⟨fun id g hg _ => ?_, fun i => ?_⟩
  · rw [h.guided] at hg
    cases hg
  · rw [h.thread i]
    exact fun _ _ _ => trivial

/-- Whatever a configuration does next, some program relies on. -/
lemma step_rely {c d : PublishConfig}
    (h : Sound contract (fun _ _ _ => True) c) (hs : Step (currentSystem settings) c d) :
    ∃ i, Rely i c.state d.state := by
  have hother (i : PublishSlot) : ∃ j, j ≠ i := by
    cases i with
    | request n => exact ⟨.tick 0, by rintro ⟨⟩⟩
    | tick n => exact ⟨.request 0, by rintro ⟨⟩⟩
  have hkeeps : Keeps (currentSystem settings) contract fun _ _ _ => True := keeps_current
  obtain ⟨hi, hsafe⟩ := h
  cases hs with
  | @perform s t th i o k r at_op run =>
    have hop := hsafe i
    simp only [at_op] at hop
    obtain ⟨-, hrely, -⟩ := (hop s (lawful.refl _ _) hi).2 r t (hkeeps.exec _ _ _ _ _ run)
    obtain ⟨j, hj⟩ := hother i
    exact ⟨j, hrely j hj⟩
  | @start s t th i a p at_end next =>
    obtain ⟨j, hj⟩ := hother i
    exact ⟨j, (hkeeps.start i a s p t next hi trivial).2.1 j hj⟩
  | environment a run => exact ⟨.tick 0, (hkeeps.environment _ _ _ run hi).2 _⟩
  | @crash s t th i p run =>
    obtain ⟨j, hj⟩ := hother i
    exact ⟨j, (hkeeps.crash i s t p run hi).2.1 j hj⟩

/-! ### Scripts

Runs given move by move, for the examples. -/

def sampleAccount : String := "aaaaaaaa-0000-1000-8000-000000000000"

def sampleZone : String := "bbbbbbbb-0000-1000-8000-000000000000"

def sampleConnector : String := "cccccccc-0000-1000-8000-000000000000"

def sampleSettings : Settings :=
  { number := fun _ => none, requestHash := fun _ => "hash", render := fun _ _ => .null }

def sampleChoice : PublishChoice :=
  { now := 0, newId := "new", commandId := "command", observation := { status := .valid } }

def sampleRequest : PublishRequest :=
  { accountId := sampleAccount, zoneId := sampleZone, hostname := "app.example.com",
    agentId := "agent", targetKind := "url", backend := "http://app:8080",
    accessMethod := .tunnel, connectorId := some sampleConnector, publicIpv4 := [],
    publicIpv6 := [] }

def sampleDb : PublishDb :=
  { base :=
      { agents := .single ⟨"agent", true, true⟩
        accounts := .single
          { id := sampleAccount, accountIdentifier := "0123abcd", enabled := true }
        connectors := .single
          { id := sampleConnector, name := "connector", token := "token", enabled := true,
            agentId := "agent", accountId := some sampleAccount, tunnelId := some "77aa",
            tokenAccountIdentifier := some "0123abcd", tokenTunnelId := some "77aa",
            identityStatus := .verified } }
    zones := .single
      { id := sampleZone, accountId := sampleAccount, zoneIdentifier := "ef45",
        name := "example.com", status := "active" }
    apiTokens := fun _ => some "token" }

def emptyTunnel : Json.Entries := putTunnelConfig [[("service", .str tunnelCatchAllService)]]

def sampleStart : PublishConfig :=
  { state := { world := { db := sampleDb, cloud := { configs := fun _ => emptyTunnel } } }
    thread := fun _ => .pure (.ok ()) }

def answered (i : PublishSlot) (s : PublishState) (c : PublishCall) :
    Except Failure c.Answer × PublishState :=
  let (r, u) := c.run sampleChoice i s
  (r, u.learn i (learned c r))

lemma exec_answered (i : PublishSlot) (s : PublishState) (c : PublishCall) :
    Exec i s c (answered i s c).1 (answered i s c).2 :=
  ⟨sampleChoice, _, rfl, Or.inl ⟨rfl, rfl⟩⟩

inductive Move where
  | publish (n : ℕ)
  | reconcile (n : ℕ)
  | tick (n : ℕ)
  /-- The next calls of a program, all answered. -/
  | answer (i : PublishSlot) (count : ℕ)
  /-- The agent has brought the route up. -/
  | activate

def begin (c : PublishConfig) (i : PublishSlot) (p : Prog PublishPlane (Except Failure Unit)) :
    PublishConfig :=
  { state := { c.state with known := Function.update c.state.known i none }
    thread := Function.update c.thread i p }

def activated (s : PublishState) : PublishState :=
  { s with world := { s.world with db := { s.world.db with base := { s.world.db.base with
      managedRoutes := s.world.db.base.managedRoutes.update (fun _ => true)
        (fun r => { r with status := .active }) fun _ => rfl } } } }

def Move.play (c : PublishConfig) : Move → PublishConfig
  | .publish n => begin c (.request n)
      (do let _ ← domainPublish sampleSettings "key" "user" sampleRequest :
        PublishHandler Unit).run
  | .reconcile n => begin c (.request n)
      (do let _ ← continueGuidedPublish sampleSettings "new" "user" : PublishHandler Unit).run
  | .tick n => begin c (.tick n) (verificationTick sampleSettings).run
  | .answer i count =>
      let (p, state) := (c.thread i).runFor (answered i) count c.state
      { state, thread := Function.update c.thread i p }
  | .activate => { c with state := activated c.state }

def play : List Move → PublishConfig → PublishConfig
  | [], c => c
  | m :: ms, c => play ms (m.play c)

def Move.ready (check : PublishSlot → PublishState → PublishCall → Bool) (c : PublishConfig) :
    Move → Bool
  | .publish n | .reconcile n => (c.thread (.request n)).next.isNone
  | .tick n => (c.thread (.tick n)).next.isNone
  | .answer i count => (c.thread i).checkFor (check i) (answered i) count c.state
  | .activate => true

def ready (check : PublishSlot → PublishState → PublishCall → Bool) :
    List Move → PublishConfig → Bool
  | [], _ => true
  | m :: ms, c => m.ready check c && ready check ms (m.play c)

section Playing

variable {effect : PublishSlot → PublishState → (c : PublishCall) → Except Failure c.Answer → Prop}
  {check : PublishSlot → PublishState → PublishCall → Bool} {init : PublishConfig → Prop}

lemma reach_begin {c : PublishConfig}
    (h : Reach ((system sampleSettings).within effect fun _ _ => True) init c) {i : PublishSlot}
    {p : Prog PublishPlane (Except Failure Unit)} (hp : Starts sampleSettings i p)
    (hidle : (c.thread i).next.isNone) :
    Reach ((system sampleSettings).within effect fun _ _ => True) init (begin c i p) := by
  cases hth : c.thread i with
  | op o k =>
    rw [hth] at hidle
    cases hidle
  | pure a => exact h.step (.start i hth ⟨rfl, hp⟩)

lemma reach_move (hcheck : ∀ i s c r, check i s c → effect i s c r) {c : PublishConfig}
    (h : Reach ((system sampleSettings).within effect fun _ _ => True) init c) {m : Move}
    (hm : m.ready check c) :
    Reach ((system sampleSettings).within effect fun _ _ => True) init (m.play c) := by
  cases m with
  | publish n => exact reach_begin h (.publish n _ _ _) hm
  | reconcile n => exact reach_begin h (.reconcile n _ _) hm
  | tick n => exact reach_begin h (.tick n) hm
  | answer i count =>
    exact reach_checkFor (S := system sampleSettings) (exec_answered i) (hcheck i) count h hm
  | activate =>
    exact h.step (.environment (S := (system sampleSettings).within effect fun _ _ => True) ()
      ⟨trivial, rfl, rfl, fun _ _ => Iff.rfl⟩)

lemma reach_play (hcheck : ∀ i s c r, check i s c → effect i s c r) {ms : List Move} :
    ∀ {c : PublishConfig},
      Reach ((system sampleSettings).within effect fun _ _ => True) init c → ready check ms c →
        Reach ((system sampleSettings).within effect fun _ _ => True) init (play ms c) := by
  induction ms with
  | nil => exact fun h _ => h
  | cons m ms ih =>
    intro c h hready
    obtain ⟨hm, hrest⟩ := Bool.and_eq_true_iff.mp hready
    exact ih (reach_move hcheck h hm) hrest

end Playing

lemma reach_play_any {init : PublishConfig → Prop} {c : PublishConfig} {ms : List Move}
    (h : Reach (system sampleSettings) init c) (hready : ready (fun _ _ _ => true) ms c) :
    Reach (system sampleSettings) init (play ms c) := by
  have hwithin : Reach ((system sampleSettings).within (fun _ _ _ _ => True) fun _ _ => True)
      init c := h.within (fun _ _ _ _ => trivial) fun _ _ => trivial
  exact (reach_play (fun _ _ _ _ _ => trivial) hwithin hready).of_within

lemma sampleStart_initial : Initial sampleStart := ⟨rfl, rfl, fun _ => rfl⟩

/-! ### No dead state -/

/-- What can be computed of whether an update finds its operation as the request knows it. -/
def isCurrent : PublishSlot → PublishState → PublishCall → Bool
  | .request n, s, .plane (.updateGuided id _) =>
      (s.world.db.guided.find? id).all fun g =>
        s.known (.request n) = some (g.status, g.stage)
  | _, _, _ => true

lemma upToDate_of_isCurrent {i : PublishSlot} {s : PublishState} {c : PublishCall}
    (h : isCurrent i s c) : UpToDate i s c := by
  cases i with
  | tick n => cases c <;> trivial
  | request n =>
    cases c with
    | plane c =>
      cases c with
      | updateGuided id values =>
        intro g hg
        have hall : ((s.world.db.guided.find? id).all fun g =>
            decide (s.known (.request n) = some (g.status, g.stage))) = true := h
        rw [hg] at hall
        exact of_decide_eq_true hall
      | _ => trivial
    | _ => trivial

/-- An operation that publishes is at the check of its certificate only as one that waits. -/
def NoDeadState (s : PublishState) : Prop :=
  ∀ g ∈ s.world.db.guided.rows, g.kind = .domainPublish →
    g.stage = "pending_https_verification" → g.status = .waiting

/-- An operation that has succeeded keeps its status, stage and result. -/
def SucceededStays (s t : PublishState) : Prop :=
  ∀ g ∈ s.world.db.guided.rows, g.kind = .domainPublish → g.status = .succeeded →
    ∃ g' ∈ t.world.db.guided.rows, g'.id = g.id ∧ g'.status = g.status ∧ g'.stage = g.stage ∧
      g'.result = g.result

/-- **No dead state.** In every run in which each update of a request finds its operation in
the status and stage the request was last told: an operation whose certificate is to be
checked waits for the check, and one that has succeeded stays as it is. -/
theorem publish_stages_sound
    {c : PublishConfig} (hc : Reach (currentSystem settings) Initial c) :
    NoDeadState c.state ∧
      ∀ d, Step (currentSystem settings) c d → SucceededStays c.state d.state := by
  have hsound := reach_sound keeps_current (fun _ h => sound_initial h) hc
  refine ⟨fun g hg hkind hstage => ?_, fun d hd g hg hkind hdone => ?_⟩
  · exact (hsound.1 g.id g (Table.find?_of_mem hg) hkind).waits hstage
  · obtain ⟨i, hrely⟩ := step_rely hsound hd
    obtain ⟨g', hg', hkept⟩ := hrely.rows g.id g (Table.find?_of_mem hg) hkind
    exact ⟨g', Table.mem_of_find? hg', Table.key_find? hg', hkept.final hdone⟩

def published : List Move :=
  [.publish 0, .answer (.request 0) 20, .activate, .reconcile 1, .answer (.request 1) 60]

theorem publish_stages_sound_sample :
    ∃ c, Reach (currentSystem sampleSettings) Initial c ∧
      (c.state.world.db.guided.rows.map fun g => (g.kind, g.stage)) =
        [(.domainPublish, "pending_https_verification")] ∧
      NoDeadState c.state ∧
        ∀ d, Step (currentSystem sampleSettings) c d → SucceededStays c.state d.state := by
  have hready : ready isCurrent published sampleStart := by decide +kernel
  have hreach : Reach (currentSystem sampleSettings) Initial (play published sampleStart) :=
    reach_play (fun _ _ _ _ => upToDate_of_isCurrent) (.init sampleStart_initial) hready
  exact ⟨_, hreach, by decide +kernel, publish_stages_sound hreach⟩

/-- A second request has read the operation when the first one publishes the access. -/
def overtaken : List Move :=
  [.publish 0, .answer (.request 0) 20, .activate, .reconcile 2, .answer (.request 2) 5,
    .reconcile 1, .answer (.request 1) 60]

/-- The tick finds the certificate fine, and the second request is about to record its
failure. -/
def verified : List Move :=
  overtaken ++ [.tick 0, .answer (.tick 0) 20, .answer (.request 2) 1]

/-- **A dead state.** Two requests continue one operation. The one that comes too late finds
the access made, and records that it has failed: at the check of the certificate, where no
tick looks at the operation any more, or after it, where it had succeeded. -/
theorem overtaken_request_fails :
    (∃ c, Reach (system sampleSettings) Initial c ∧ ¬NoDeadState c.state) ∧
      ∃ c d, Reach (system sampleSettings) Initial c ∧ Reach (system sampleSettings) (· = c) d ∧
        ¬SucceededStays c.state d.state := by
  have hdead : ready (fun _ _ _ => true) (overtaken ++ [.answer (.request 2) 60]) sampleStart ∧
      ((play (overtaken ++ [.answer (.request 2) 60]) sampleStart).state.world.db.guided.rows.map
        fun g => (g.kind, g.status, g.stage)) =
          [(.domainPublish, .failed, "pending_https_verification")] := by
    decide +kernel
  have hdone : ready (fun _ _ _ => true) verified sampleStart ∧
      ((play verified sampleStart).state.world.db.guided.rows.map
        fun g => (g.kind, g.status)) = [(.domainPublish, .succeeded)] := by
    decide +kernel
  let c := play verified sampleStart
  have hlater : ready (fun _ _ _ => true) [.answer (.request 2) 1] c ∧
      ((play [.answer (.request 2) 1] c).state.world.db.guided.rows.map (·.status)) =
        [.failed] := by
    decide +kernel
  have hc : Reach (system sampleSettings) Initial c :=
    reach_play_any (.init sampleStart_initial) hdone.1
  refine ⟨⟨_, reach_play_any (.init sampleStart_initial) hdead.1, fun h => ?_⟩, c,
    play [.answer (.request 2) 1] c, hc, reach_play_any (.init rfl) hlater.1, fun h => ?_⟩
  · obtain ⟨g, hrows, heq⟩ := List.map_eq_singleton_iff.mp hdead.2
    obtain ⟨hkind, hstatus, hstage⟩ := by simpa only [Prod.mk.injEq] using heq
    have hwaiting := h g (by rw [hrows]; exact List.mem_cons_self) hkind hstage
    rw [hstatus] at hwaiting
    cases hwaiting
  · obtain ⟨g, hrows, heq⟩ := List.map_eq_singleton_iff.mp hdone.2
    obtain ⟨hkind, hstatus⟩ := Prod.mk.inj heq
    obtain ⟨g', hg', -, hsame, -⟩ := h g (by rw [hrows]; exact List.mem_cons_self) hkind hstatus
    have hfailed := List.mem_map_of_mem (f := GuidedRow.status) hg'
    rw [hlater.2, List.mem_singleton, hsame, hstatus] at hfailed
    cases hfailed

end GatewayControl.GuidedRuns
