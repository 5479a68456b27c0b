import GatewayControl.ActiveSafety
import GatewayControl.Traces
import GatewayControl.TunnelContents

/-!
A verification tick goes through its whole batch, and asks for no status an access may not
have, as long as an access whose certificate is fine is enabled.
-/

namespace GatewayControl.TickSafety

open Database Store Publishing Cloudflare Calls Reconcile Verification Programs Traces
open ControlPlane AccessHistory TunnelRuns AccessTopology PublishedRecords TunnelContents
open ActiveAccesses ActiveSafety

/-! ### The contract -/

/-- Accesses stay. -/
def Stays (db db' : PublishDb) : Prop :=
  ∀ id h, db.accesses.find? id = some h → ∃ h', db'.accesses.find? id = some h' ∧ Later h h'

/-- An access for which a tick stores a usable certificate is enabled. -/
def Usable : Slot → State → Call → Prop
  | .tick _, s, .saveObservation accessId observation => certificateFine observation →
      ∀ h, s.world.db.accesses.find? accessId = some h → h.enabled
  | _, _, _ => True

/-- No answer to a tick is lost. -/
def Answered : Slot → State → (c : Call) → Except Failure c.Answer → Prop
  | .tick n, s, c, r => ∃ ch, r = (c.run ch (.tick n) s.world).1
  | _, _, _, _ => True

def allowed : Slot → State → Call → Prop
  | .tick _, s, .outcome id revision status _ =>
      ∀ h, atRevision s.world.db id revision = some h → coherent h.enabled status
  | _, _, _ => True

def contract : Contract Plane State Slot where
  exec := fun i s c r t => Exec i s c r t ∧ Usable i s c ∧ Answered i s c r
  inv := fun _ => True
  rely := fun _ s t => Stays s.world.db t.world.db
  allowed := allowed

lemma Stays.refl (db : PublishDb) : Stays db db := fun _ h hh => ⟨h, hh, .refl h⟩

lemma stays_same {db db' : PublishDb} (h : db'.accesses = db.accesses) : Stays db db' :=
  fun _ a ha => ⟨a, h ▸ ha, .refl a⟩

lemma lawful : contract.Lawful where
  refl := fun _ s => Stays.refl s.world.db
  trans := by
    intro _ s t u hst htu id h hh
    obtain ⟨h', hh', hlater⟩ := hst id h hh
    obtain ⟨h'', hh'', hlater'⟩ := htu id h' hh'
    exact ⟨h'', hh'', hlater.trans hlater'⟩

lemma create_stays (db : PublishDb) (newId : String) (values : AccessValues) :
    Stays db (createPendingDomainAccess db newId values).1 := by
  rcases createPendingDomainAccess_cases db newId values with
    hsame | ⟨row, accesses, hinsert, hnew, hdb⟩
  · rw [hsame]
    exact .refl db
  · rw [hdb]
    intro id h hh
    have hne : id ≠ row.id := by
      rintro rfl
      rw [Table.find?_new hinsert] at hh
      cases hh
    refine ⟨h, ?_, .refl h⟩
    change accesses.find? id = some h
    rw [Table.find?_insert hinsert, if_neg hne]
    exact hh

/-- No call takes an access away. -/
lemma exec_stays {i : Slot} {s t : State} {c : Call} {r : Except Failure c.Answer}
    (h : Exec i s c r t) : Stays s.world.db t.world.db := by
  by_cases hframe : isFrame c
  · exact stays_same (frame_exec hframe h).1
  · cases c with
    | outcome id revision status lastError => exact (outcome_frame h).1.forth
    | createAccess values =>
      obtain ⟨ch, ⟨-, heq⟩ | ⟨e, -, -, heq | heq⟩⟩ := h.world
      · rw [heq]
        exact create_stays _ _ _
      · rw [heq]
        exact .refl _
      · rw [heq]
        exact create_stays _ _ _
    | _ => exact absurd rfl hframe

/-! ### The knowledge of a tick -/

variable {n : Nat}

/-- A row that has been read. -/
def Known (access : AccessRow) (s : State) : Prop :=
  ∃ h, s.world.db.accesses.find? access.id = some h ∧ Later access h

/-- A row whose certificate has been found fine. -/
def Sure (access : AccessRow) (s : State) : Prop :=
  ∃ h, s.world.db.accesses.find? access.id = some h ∧ Later access h ∧
    (h.revision = access.revision → h.enabled)

lemma stable_known (access : AccessRow) : Stable contract (.tick n) (Known access) := by
  rintro s t - - hstays ⟨h, hh, hlater⟩
  obtain ⟨h', hh', hlater'⟩ := hstays access.id h hh
  exact ⟨h', hh', hlater.trans hlater'⟩

lemma stable_sure (access : AccessRow) : Stable contract (.tick n) (Sure access) := by
  rintro s t - - hstays ⟨h, hh, hlater, hen⟩
  obtain ⟨h', hh', hlater'⟩ := hstays access.id h hh
  refine ⟨h', hh', hlater.trans hlater', fun heq => ?_⟩
  have hfirst : h.revision = access.revision :=
    Nat.le_antisymm (heq ▸ hlater'.revision) hlater.revision
  exact (hlater'.enabled (heq.trans hfirst.symm)).trans (hen hfirst)

/-! ### The calls of a tick -/

/-- A call that succeeds where it is answered. -/
lemma tick_call {c : Call} {P : State → Prop} {K : c.Answer → State → Prop}
    (hP : Stable contract (.tick n) P) (hK : ∀ a, Stable contract (.tick n) (K a))
    (hok : ∀ s, P s → allowed (.tick n) s c)
    (hstep : ∀ s t ch, P s → Exec (.tick n) s c (c.run ch (.tick n) s.world).1 t →
      Usable (.tick n) s c → ∃ a, (c.run ch (.tick n) s.world).1 = .ok a ∧ K a t) :
    Triple contract (.tick n) P (call c).run (Exits K fun _ _ => False) := by
  refine triple_perform hP (fun r => ?_) (fun s _ hs => hok s hs) ?_
  · cases r
    · exact stable_const False
    · exact hK _
  · rintro s r t - hs ⟨hexec, husable, ⟨ch, rfl⟩⟩
    obtain ⟨a, ha, hKa⟩ := hstep s t ch hs hexec husable
    refine ⟨trivial, fun _ _ => exec_stays hexec, ?_⟩
    rw [ha]
    exact hKa

/-- Calls of which the tick learns nothing. -/
lemma plain_call {c : Call} {P : State → Prop} (hP : Stable contract (.tick n) P)
    (hok : ∀ s, P s → allowed (.tick n) s c)
    (hanswers : ∀ s ch, P s → ∃ a, (c.run ch (.tick n) s.world).1 = .ok a) :
    Triple contract (.tick n) P (call c).run (Exits (fun _ => P) fun _ _ => False) := by
  refine tick_call hP (fun _ => hP) hok fun s t ch hs hexec _ => ?_
  obtain ⟨a, ha⟩ := hanswers s ch hs
  exact ⟨a, ha, hP s t trivial trivial (exec_stays hexec) hs⟩

/-- A row at a coherent status is saved, one at another revision is left. -/
lemma outcome_answers {w : PlaneWorld} {id : String} {revision : Nat} {status : AccessStatus}
    {lastError : Option String} (ch : Choice)
    (h : ∀ row, atRevision w.db id revision = some row → coherent row.enabled status) :
    ∃ saved, ((Call.outcome id revision status lastError).run ch (Slot.tick n) w).1 =
      .ok saved := by
  change ∃ saved, (w.store (markDomainAccessOutcome w.db id revision status lastError)).1 =
    .ok saved
  unfold markDomainAccessOutcome
  split
  · exact ⟨none, rfl⟩
  · rename_i row hrow
    rw [if_neg (by simpa using h row hrow)]
    exact ⟨_, rfl⟩

lemma outcome_call {id : String} {revision : Nat} {status : AccessStatus}
    {lastError : Option String} {P : State → Prop} (hP : Stable contract (.tick n) P)
    (hok : ∀ s, P s → ∀ h, atRevision s.world.db id revision = some h →
      coherent h.enabled status) :
    Triple contract (.tick n) P (call (.outcome id revision status lastError)).run
      (Exits (fun _ => P) fun _ _ => False) :=
  plain_call hP hok fun s ch hs => outcome_answers ch (hok s hs)

lemma update_call {id : String} {values : GuidedChange} :
    Triple contract (.tick n) (fun _ => True) (call (.updateGuided id values)).run
      (Exits (fun _ _ => True) fun _ _ => False) :=
  plain_call stable_true (fun _ _ => trivial) fun _ _ _ => ⟨_, rfl⟩

variable (render : Render)

lemma succeed_triple (operation : GuidedRow) (route : RouteRow) (access : AccessRow) :
    Triple contract (.tick n) (Sure access) (succeed render operation route access).run
      (Exits (fun _ _ => True) fun _ _ => False) := by
  have hsave := @outcome_call n access.id access.revision .active none (Sure access)
    (stable_sure access) ?_
  · refine exits_bind lawful (fun _ => stable_const False) hsave fun active => ?_
    cases active with
    | none => exact exits_pure (stable_sure access) fun _ _ _ => trivial
    | some active =>
      refine exits_bind lawful (fun _ => stable_const False)
        (exits_conseq update_call (fun _ _ _ => trivial) (fun _ _ _ h => h) fun _ _ _ h => h)
        fun _ => exits_pure (K := fun _ _ => True) stable_true fun _ _ h => h
  · rintro s ⟨h, hh, -, hen⟩ row hrow
    obtain ⟨hfound, hrevision⟩ := atRevision_some.mp hrow
    obtain rfl := Option.some.inj (hh.symm.trans hfound)
    exact hen hrevision

lemma deadlinePassed_triple (operation : GuidedRow) :
    Triple contract (.tick n) (fun _ => True) (deadlinePassed operation).run
      (Exits (fun _ _ => True) fun _ _ => False) := by
  unfold deadlinePassed
  split
  · exact exits_pure stable_true fun _ _ h => h
  · refine exits_bind lawful (fun _ => stable_const False)
      (plain_call (c := .now) stable_true (fun _ _ => trivial) fun _ _ _ => ⟨_, rfl⟩)
      fun _ => exits_pure stable_true fun _ _ h => h

lemma failOrWait_triple (operation : GuidedRow) (access : AccessRow) (error : String) :
    Triple contract (.tick n) (fun _ => True) (failOrWait operation access error).run
      (Exits (fun _ _ => True) fun _ _ => False) := by
  have hdone : Triple contract (.tick n) (fun _ => True) (pure () : Handler Unit).run
      (Exits (fun _ _ => True) fun _ _ => False) := exits_pure stable_true fun _ _ h => h
  refine exits_bind lawful (fun _ => stable_const False) (deadlinePassed_triple operation)
    fun passed => ?_
  split
  · refine exits_bind lawful (fun _ => stable_const False)
      (outcome_call stable_true fun _ _ _ _ => rfl) fun _ => ?_
    exact exits_bind lawful (fun _ => stable_const False) update_call fun _ => hdone
  · exact exits_bind lawful (fun _ => stable_const False) update_call fun _ => hdone

lemma verifyAccess_triple (operation : GuidedRow) (route : RouteRow) (access : AccessRow) :
    Triple contract (.tick n) (Known access) (verifyAccess render operation route access).run
      (Exits (fun _ _ => True) fun _ _ => False) := by
  refine exits_bind lawful (fun _ => stable_const False)
    (plain_call (stable_known access) (fun _ _ => trivial) fun _ _ _ => ⟨_, rfl⟩)
    fun observation => ?_
  refine exits_bind lawful (fun _ => stable_const False)
    (tick_call (K := fun _ s => certificateFine observation → Sure access s)
      (stable_known access) (fun _ => (stable_sure access).imp) (fun _ _ => trivial)
      fun s t ch hs hexec husable => ?_) fun _ => ?_
  · refine ⟨(), rfl, fun hfine => ?_⟩
    obtain ⟨h, hh, hlater⟩ := hs
    exact stable_sure (n := n) access s t trivial trivial (exec_stays hexec)
      ⟨h, hh, hlater, fun _ => husable hfine h hh⟩
  · split
    · rename_i hfine
      exact exits_conseq (succeed_triple render operation route access)
        (fun _ _ h => h hfine) (fun _ _ _ h => h) fun _ _ _ h => h
    · exact exits_conseq (failOrWait_triple operation access _) (fun _ _ _ => trivial)
        (fun _ _ _ h => h) fun _ _ _ h => h

/-- **One turn.** It ends without an error. -/
lemma verifyOne_triple (operation : GuidedRow) :
    Triple contract (.tick n) (fun _ => True) (verifyOne render operation).run
      (Exits (fun _ _ => True) fun _ _ => False) := by
  have hdone {P : State → Prop} (hP : Stable contract (.tick n) P) :
      Triple contract (.tick n) P (pure () : Handler Unit).run
        (Exits (fun _ _ => True) fun _ _ => False) := exits_pure hP fun _ _ _ => trivial
  unfold verifyOne
  split
  · have hstable (accesses : List AccessRow) : Stable contract (.tick n)
        fun s => ∀ a ∈ accesses, Known a s := fun s t hs ht hst hp a ha =>
      stable_known a s t hs ht hst (hp a ha)
    refine exits_bind lawful (fun _ => stable_const False)
      (tick_call stable_true hstable (fun _ _ => trivial) fun s t ch _ hexec _ => ?_)
      fun accesses => ?_
    · refine ⟨s.world.db.accesses.rows, rfl, fun a ha => ?_⟩
      obtain ⟨h, hh, hlater⟩ := exec_stays hexec a.id a (Table.find?_of_mem ha)
      exact ⟨h, hh, hlater⟩
    · refine exits_bind lawful (fun _ => stable_const False)
        (plain_call (hstable accesses) (fun _ _ => trivial) fun _ _ _ => ⟨_, rfl⟩)
        fun route => ?_
      split
      · rename_i access route haccess
        split
        · exact hdone (hstable accesses)
        · exact exits_conseq (verifyAccess_triple render operation route access)
            (fun _ _ h => h access (List.mem_of_find?_eq_some haccess))
            (fun _ _ _ h => h) fun _ _ _ h => h
      · exact hdone (hstable accesses)
  · exact hdone stable_true

/-- **Run lemma.** Nor does a tick. -/
lemma reconcileGuidedVerifications_triple :
    Triple contract (.tick n) (fun _ => True) (reconcileGuidedVerifications render).run
      (Exits (fun _ _ => True) fun _ _ => False) := by
  refine exits_bind lawful (fun _ => stable_const False)
    (plain_call stable_true (fun _ _ => trivial) fun _ _ _ => ⟨_, rfl⟩) fun operations => ?_
  induction operations with
  | nil => exact exits_pure stable_true fun _ _ h => h
  | cons operation rest ih =>
    exact exits_bind lawful (fun _ => stable_const False) (verifyOne_triple render operation)
      fun _ => ih

/-! ### The system -/

/-- The system in the runs in which no answer to a tick is lost, and an access whose
certificate a tick finds fine is enabled. -/
def tickSystem : System Plane State Slot (Except Failure Unit) Act :=
  (system render).within (fun i s c r => Usable i s c ∧ Answered i s c r) fun _ _ => True

/-- A tick ends without an error. -/
def Finished : Slot → Except Failure Unit → State → Prop
  | .tick _, r, _ => r = .ok ()
  | .reconcile _ _, _, _ => True

lemma act_stays (a : Act) (w : PlaneWorld) : Stays w.db (a.run w).db := by
  cases a with
  | request id enabled => exact (evolves_update fun r => later_pendingRow enabled r).forth
  | create newId values => exact create_stays w.db newId values
  | account id values =>
    refine stays_same ?_
    cases hupdate : updateCloudflareAccount w.db id values with
    | none => rw [Act.run, hupdate, Option.getD_none]
    | some db =>
      rw [Act.run, hupdate, Option.getD_some]
      exact account_accesses hupdate
  | tables base zones apiTokens => exact .refl _
  | operations guided => exact .refl _
  | records edited nextRecord => exact .refl _
  | tunnel address config => exact .refl _

lemma any_triple {id : String} {p : Prog Plane (Except Failure Unit)} :
    Triple contract (.reconcile id n) (fun _ => True) p fun _ _ => True := by
  refine triple_only p.only_true stable_true (fun _ _ _ _ _ => trivial) ?_
  rintro s c r t - - - ⟨hexec, -⟩
  exact ⟨trivial, fun _ _ => exec_stays hexec, trivial⟩

lemma keeps_tickSystem : Keeps (tickSystem render) contract Finished where
  lawful := lawful
  exec := fun i s c r t ⟨⟨husable, hanswered⟩, hexec⟩ => ⟨hexec, husable, hanswered⟩
  start := by
    rintro i a s p t ⟨rfl, hp⟩ - -
    refine ⟨trivial, fun j _ => lawful.refl j t, ?_⟩
    cases hp with
    | reconcile id n requireHttpsObservation => exact any_triple t trivial trivial
    | tick n =>
      refine safe_mono (reconcileGuidedVerifications_triple render t trivial trivial) ?_
      intro r u _ hr
      cases r with
      | ok a => rfl
      | error e => exact hr.elim
  environment := by
    rintro a s t ⟨-, -, rfl⟩ -
    exact ⟨trivial, fun _ => act_stays a s.world⟩
  crash := by
    rintro i s t p ⟨rfl, rfl⟩ -
    refine ⟨trivial, fun _ _ => Stays.refl _, fun _ _ _ => ?_⟩
    cases i with
    | tick n => rfl
    | reconcile id n => trivial

lemma sound_initial {c : PlaneConfig} (h : Initial c) : Sound contract Finished c := by
  refine ⟨trivial, fun i => ?_⟩
  rw [h.thread i]
  intro t _ _
  cases i with
  | tick n => rfl
  | reconcile id n => trivial

/-! ### The batch -/

/-- A turn for an operation, in full. -/
def Turn (operation : GuidedRow) (es : List (Event Plane)) : Prop :=
  Returns (verifyOne render operation).run es (.ok ())

variable {render}

lemma verifyAll_turns {operations : List GuidedRow} {es : List (Event Plane)}
    (h : Returns (verifyAll render operations).run es (.ok ())) :
    ∃ turns, es = turns.flatten ∧ List.Forall₂ (Turn render) operations turns := by
  induction operations generalizing es with
  | nil => exact ⟨[], (returns_pure h).1, .nil⟩
  | cons operation rest ih =>
    obtain ⟨turn, es', _, rfl, hturn, hrest⟩ := returns_ok_bind h
    obtain ⟨turns, rfl, hturns⟩ := ih hrest
    exact ⟨turn :: turns, rfl, .cons hturn hturns⟩

/-- A tick that ends without an error has taken up all of its batch. -/
lemma tick_turns {es : List (Event Plane)}
    (h : Returns (reconcileGuidedVerifications render).run es (.ok ())) :
    ∃ operations turns,
      es = ⟨Call.pendingVerifications 5, .ok operations⟩ :: List.flatten turns ∧
        List.Forall₂ (Turn render) operations turns := by
  obtain ⟨es₁, es₂, operations, rfl, hread, hrest⟩ := returns_ok_bind h
  obtain ⟨r, es', rfl, hr⟩ := returns_op hread
  obtain ⟨rfl, heq⟩ := returns_pure hr
  obtain ⟨turns, rfl, hturns⟩ := verifyAll_turns hrest
  exact ⟨operations, turns, by rw [heq]; rfl, hturns⟩

/-- **The whole batch.** In every run in which no answer to a tick is lost, and an access
whose certificate a tick finds fine is enabled: a tick asks for no status the access may not
have, and one that has ended, and was not cut short, has ended without an error and has taken
up every operation of its batch. -/
theorem whole_batch
    {c : Config Plane (State × (Slot → Option (List (Event Plane)))) Slot (Except Failure Unit)}
    (hc : Reach (traced (tickSystem render)) (Fresh Initial) c) (n : Nat) :
    (∀ id revision status lastError k,
      c.thread (.tick n) = .op (Call.outcome id revision status lastError) k →
        ∀ h, atRevision c.state.1.world.db id revision = some h → coherent h.enabled status) ∧
    ∀ es r, c.state.2 (.tick n) = some es → c.thread (.tick n) = .pure r →
      r = .ok () ∧ ∃ operations turns,
        es = ⟨Call.pendingVerifications 5, .ok operations⟩ :: List.flatten turns ∧
          List.Forall₂ (Turn render) operations turns := by
  have hsound := reach_sound (keeps_tickSystem render) (fun c hinit => sound_initial hinit)
    (reach_untraced hc)
  refine ⟨fun id revision status lastError k hop => hsound.allowed lawful hop,
    fun es r hes hend => ?_⟩
  have hfinished : r = .ok () := by
    have hsafe := hsound.2 (.tick n)
    simp only [hend] at hsafe
    exact hsafe c.state.1 (lawful.refl _ _) hsound.1
  obtain ⟨-, -, p, -, ⟨-, hstart⟩, hperforms⟩ := traced_performs hc (.tick n) es hes
  rw [hend, hfinished] at hperforms
  cases hstart with
  | tick => exact ⟨hfinished, tick_turns hperforms⟩

/-! ### Examples -/

/-- The program has ended with an error. -/
def failed : Prog Plane (Except Failure Unit) → Bool
  | .pure (.error _) => true
  | _ => false

lemma ended_of_failed {p : Prog Plane (Except Failure Unit)} (h : failed p) :
    ∃ e, p = .pure (.error e) := by
  cases p with
  | op o k => cases h
  | pure r =>
    cases r with
    | ok a => cases h
    | error e => exact ⟨e, rfl⟩

/-- Every answer is given, and where it counts the access is enabled. -/
def answers (s : State) : Call → Bool
  | .saveObservation accessId observation =>
      !certificateFine observation || (s.world.db.accesses.find? accessId).all (·.enabled)
  | _ => true

lemma usable_of_answers {s : State} {c : Call} (h : answers s c) :
    Usable (.tick n) s c ∧
      Answered (.tick n) s c (ControlPlane.answered sampleChoice (.tick n) s c).1 := by
  refine ⟨?_, sampleChoice, rfl⟩
  cases c with
  | saveObservation accessId observation =>
    intro hfine a ha
    have hall : (!certificateFine observation ||
        (s.world.db.accesses.find? accessId).all (·.enabled)) = true := h
    rw [hfine, ha] at hall
    exact hall
  | _ => trivial

/-- The programs that no tick is. -/
def isReconcile : Slot → State → Call → Bool
  | .reconcile _ _, _, _ => true
  | .tick _, _, _ => false

lemma effect_of_isReconcile {i : Slot} {s : State} {c : Call} {r : Except Failure c.Answer}
    (h : isReconcile i s c) : Usable i s c ∧ Answered i s c r := by
  cases i with
  | reconcile id n => exact ⟨trivial, trivial⟩
  | tick n => cases h

theorem whole_batch_sample :
    ∃ c es, Reach (traced (tickSystem sampleRender)) (Fresh Initial) c ∧
      c.state.2 (.tick 0) = some es ∧
      (c.state.1.world.db.guided.find? "operation").map GuidedRow.status = some .succeeded ∧
      ∃ operations turns,
        es = ⟨Call.pendingVerifications 5, .ok operations⟩ :: List.flatten turns ∧
          List.Forall₂ (Turn sampleRender) operations turns := by
  let b := play sampleRender sampleChoice publication sampleStart
  have hbefore : Reach (tickSystem sampleRender) Initial b := by
    refine reach_play (fun _ _ _ _ => effect_of_isReconcile) (fun _ _ _ => trivial)
      (.init sampleStart_clean.1) ?_
      ⟨sampleTables_possible, ⟨sampleValues_distinct, rfl⟩, trivial, trivial, trivial, trivial⟩
    decide
  obtain ⟨es, htraced⟩ := reach_traced hbefore
  have hidle : b.thread (.tick 0) = .pure (.ok ()) :=
    play_thread _ _ (by simp [publication, sampleCreation, Move.slot, sampleSlot]) _
  have hstarted := htraced.step (.start (.tick 0) hidle
    (t := (b.state, Function.update es (.tick 0) (some []))) ⟨⟨rfl, .tick 0⟩, rfl⟩)
  obtain ⟨es', htrace, hreach⟩ := reach_traced_run
    (h := ControlPlane.answered sampleChoice (.tick 0)) (exec_answered sampleChoice (.tick 0))
    (fun _ _ => usable_of_answers) 10 (by simp) hstarted (by decide +kernel)
  rw [Function.update_self] at hreach
  have hend : (((reconcileGuidedVerifications sampleRender).run.runFor
        (ControlPlane.answered sampleChoice (.tick 0)) 10 b.state).1.next.isNone) ∧
      ((((reconcileGuidedVerifications sampleRender).run.runFor
        (ControlPlane.answered sampleChoice (.tick 0)) 10 b.state).2.world.db.guided.find?
          "operation").map GuidedRow.status) = some .succeeded := by
    decide +kernel
  generalize (reconcileGuidedVerifications sampleRender).run.runFor
    (ControlPlane.answered sampleChoice (.tick 0)) 10 b.state = last at hreach hend
  obtain ⟨p, s⟩ := last
  obtain ⟨es'', hes''⟩ := Option.isSome_iff_exists.mp htrace
  cases p with
  | op o k => cases hend.1
  | pure r =>
    have hthread : Function.update (Function.update b.thread (.tick 0)
        (reconcileGuidedVerifications sampleRender).run) (.tick 0) (.pure r) (.tick 0) =
        .pure r := Function.update_self ..
    have hbatch := (whole_batch hreach 0).2 es'' r hes'' hthread
    exact ⟨_, es'', hreach, hes'', hend.2, hbatch.2⟩

def tunnelOperation (id routeId accessId : String) : GuidedRow :=
  { waitingOperation with
    id, idempotencyKey := id, routeId := some routeId, domainAccessId := some accessId }

def waitingOperations : Table GuidedRow String GuidedRow.id :=
  ⟨[tunnelOperation "earlier" "first" "one", tunnelOperation "later" "second" "two"], by decide⟩

lemma waitingOperations_pending {db : PublishDb} (h : db.guided = waitingOperations) :
    listGuidedOperationsPendingVerification db 5 = waitingOperations.rows := by
  have hall : (waitingOperations.rows.filter fun g => g.kind = .domainPublish &&
      g.status = .waiting && g.stage = "pending_https_verification") = waitingOperations.rows := by
    rfl
  have hsorted : waitingOperations.rows.Pairwise fun g h => g.updatedAt ≤ h.updatedAt := by
    simp [waitingOperations, tunnelOperation]
  unfold listGuidedOperationsPendingVerification
  rw [h, hall, List.mergeSort_of_pairwise (by simpa using hsorted)]
  rfl

/-- Both accesses are published up to their certificates, and the first is switched off
again. -/
def switchedOff : List Move :=
  [.act tunnelTables, .act (.create "one" (tunnelValues "first")),
    .act (.create "two" (tunnelValues "second")), .start firstSlot true, .answer firstSlot 20,
    .start secondSlot true, .answer secondSlot 20, .act (.request "one" (some false)),
    .start firstSlot true, .answer firstSlot 20]

/-- **A batch cut short.** Two operations wait. The certificate of the first is fine, its
access is switched off: the tick asks for it to be active, which the database refuses, and
ends without the second. -/
theorem batch_cut_short :
    ∃ b, Reach (system sampleRender) Initial b ∧
      listGuidedOperationsPendingVerification b.state.world.db 5 = waitingOperations.rows ∧
      (∃ c k h, Reach (system sampleRender) (· = b) c ∧
        c.thread (.tick 0) = .op (Call.outcome "one" 2 .active none) k ∧
        atRevision c.state.world.db "one" 2 = some h ∧ ¬coherent h.enabled .active) ∧
      ∃ c e, Reach (system sampleRender) (· = b) c ∧ c.thread (.tick 0) = .pure (.error e) ∧
        (c.state.world.db.guided.find? "later").map
          (fun g => (g.status, g.verificationAttempts)) = some (.waiting, 0) := by
  let a := play sampleRender sampleChoice switchedOff tunnelStart
  let b : PlaneConfig :=
    ⟨{ a.state with world := (Act.operations waitingOperations).run a.state.world }, a.thread⟩
  have ha : Reach (system sampleRender) Initial a := by
    refine reach_play_any (.init tunnelStart_initial) ?_
      ⟨tunnelTables_possible, ⟨tunnelValues_distinct _, rfl⟩, ⟨tunnelValues_distinct _, rfl⟩,
        trivial, trivial, trivial, trivial, trivial, trivial, trivial, trivial⟩
    decide
  have hbefore : Reach (system sampleRender) Initial b :=
    ha.step (.environment (.operations waitingOperations) ⟨trivial, rfl⟩)
  have hbatch : listGuidedOperationsPendingVerification b.state.world.db 5 =
      waitingOperations.rows := waitingOperations_pending rfl
  have hidle : a.thread (.tick 0) = .pure (.ok ()) :=
    play_thread _ _ (by simp [switchedOff, tunnelTables, Move.slot, firstSlot, secondSlot]) _
  let p := (verifyAll sampleRender waitingOperations.rows).run
  let b' : PlaneConfig := ⟨b.state, Function.update b.thread (.tick 0) p⟩
  have hread : Reach (system sampleRender) (· = b) b' := by
    have hstarted := (Reach.init rfl : Reach (system sampleRender) (· = b) b).step
      (.start (.tick 0) hidle (t := b.state) ⟨rfl, .tick 0⟩)
    have hexec : Exec (.tick 0) b.state (.pendingVerifications 5) (.ok waitingOperations.rows)
        b.state := ⟨⟨sampleChoice, Or.inl ⟨by rw [← hbatch]; rfl, rfl⟩⟩, rfl⟩
    have hstep := hstarted.step (.perform (S := system sampleRender) (.tick 0)
      (o := Call.pendingVerifications 5) (.ok waitingOperations.rows)
      (Function.update_self ..) hexec)
    rw [Function.update_idem] at hstep
    exact hstep
  let c := play sampleRender sampleChoice [.answer (.tick 0) 4] b'
  have hc : Reach (system sampleRender) (· = b) c := by
    refine reach_play_any hread ?_ ⟨trivial, trivial⟩
    decide
  have hasks : (c.thread (.tick 0)).next.bind ending = some ("one", 2, .active, none) ∧
      (atRevision c.state.world.db "one" 2).map AccessRow.enabled = some false := by
    decide
  let d := play sampleRender sampleChoice [.answer (.tick 0) 5] b'
  have hd : Reach (system sampleRender) (· = b) d := by
    refine reach_play_any hread ?_ ⟨trivial, trivial⟩
    decide
  have hfails : failed (d.thread (.tick 0)) ∧ (d.state.world.db.guided.find? "later").map
      (fun g => (g.status, g.verificationAttempts)) = some (.waiting, 0) := by
    decide
  clear_value c d
  obtain ⟨k, hk⟩ := next_ending hasks.1
  obtain ⟨h, hrow, hoff⟩ := Option.map_eq_some_iff.mp hasks.2
  obtain ⟨e, he⟩ := ended_of_failed hfails.1
  refine ⟨b, hbefore, hbatch, ⟨c, k, h, hc, hk, hrow, ?_⟩, d, e, hd, he, hfails.2⟩
  rw [hoff]
  decide

end GatewayControl.TickSafety
