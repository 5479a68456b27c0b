import GatewayControl.CommandResults

/-!
What the agent's programs promise of results, and what follows for the rows of commands: a
command that succeeded was executed once, and its row holds what that execution returned.
-/

namespace GatewayControl.CommandResults

open AgentTypes AgentStore AgentLoop AgentRoutes Database Programs Store Traces
open Transactions RouteQueue CommandQueue
open RouteDelivery (Holds)

variable {H : Interface} {W : Type} {x : Installation H W} {c : Command}

/-! ### Reporting -/

section Reporting

variable {result : CommandResult} {id : String}

lemma command_triple (id : String) {P : Plane H W → Prop} (hP : Rising x P) :
    Triple (contract x) () (fun s => P s.2) (eff (.command id))
      fun r s => (∀ record, r = some record → Carries x s.2 id record) ∧ P s.2 := by
  refine triple_effect (o := .command id) (R := fun (r : Option CommandRecord) w =>
      (∀ record, r = some record → Carries x w id record) ∧ P w) hP
    (fun r w w' h hw => ⟨fun record hr => (hw.1 record hr).grows h, hP w w' h hw.2⟩)
    (fun _ _ _ => trivial) fun s r t hi ht hs hexec => ?_
  obtain ⟨a, w⟩ := s
  obtain ⟨a', w'⟩ := t
  obtain ⟨u, ⟨hread, rfl, rfl⟩, hnoted⟩ := hexec
  obtain rfl : w' = _ := hnoted
  refine ⟨fun record hr => ?_, hs⟩
  exact ht.records _ (Or.inl rfl) id record (hread.symm.trans hr)

lemma submit_triple : Triple (contract x) () (fun s => Sendable x s.2 result)
    (eff (.submit result))
    (Outcome (fun _ s => Ended s.2.db result.commandId) fun _ _ => True) := by
  refine triple_conseq (triple_effect (o := .submit result)
    (R := fun r w => r = .ok () → Ended w.db result.commandId) (rising_sendable result)
    (fun r w w' h hw hr => h.ended _ (hw hr)) (fun _ _ h => h) ?_) (fun _ _ h => h) ?_
  · rintro ⟨a, w⟩ r ⟨a', w'⟩ - - - ⟨u, ⟨-, db', rfl, hsubmit⟩, hnoted⟩ rfl
    obtain rfl : w' = _ := hnoted
    rcases hsubmit with ⟨⟨e, herror⟩, -⟩ | ⟨now, answer, hroute, hok⟩
    · cases herror
    · obtain ⟨idempotent, rfl⟩ := hok rfl
      exact (reported_resultRoute hroute).2 idempotent rfl
  · rintro (e | _) s - h
    · trivial
    · exact h rfl

lemma markDelivered_triple : Tri (contract x) () (fun s => Ended s.2.db id) (markDelivered id)
    fun _ _ => True := by
  unfold markDelivered
  have hrising (r : Option CommandRecord) : Rising x fun w =>
      (∀ record, r = some record → Carries x w id record) ∧ Ended w.db id :=
    fun _ _ h hw => ⟨fun record hr => (hw.1 record hr).grows h, h.ended id hw.2⟩
  refine tri_bind lawful (tri_lift lawful (fun r => (hrising r).stable)
    (command_triple id (rising_ended id))) fun r => ?_
  cases r with
  | none => exact tri_throw (hrising none).stable
  | some record =>
    dsimp only
    split
    · exact tri_throw (hrising _).stable
    refine tri_conseq (record_triple (hrising (some record)) ?_) (fun _ _ h => h)
      fun _ _ _ _ => trivial
    rintro now w ⟨hcarries, hended⟩ r hr
    obtain ⟨kept, hkept, rfl⟩ := Option.map_eq_some_iff.mp hr
    obtain ⟨hid, -⟩ := hcarries record rfl kept hkept
    refine ⟨hid, Or.inr ?_⟩
    change Ended w.db kept.commandId
    rwa [hid]

lemma deliverResult_triple : Tri (contract x) () (fun s => Sendable x s.2 result)
    (deliverResult result) fun _ _ => True :=
  tri_bind lawful (K := fun _ s => Ended s.2.db result.commandId) submit_triple
    fun _ => markDelivered_triple

lemma saveResult_triple : Tri (contract x) () (fun s => Sendable x s.2 result)
    (saveResult result) fun _ s => Sendable x s.2 result := by
  refine record_triple (rising_sendable result) fun now w h r hr => ?_
  obtain rfl : result = r := Option.some.inj hr
  exact ⟨rfl, h⟩

lemma finish_triple : Tri (contract x) () (fun s => Sendable x s.2 result)
    (do saveResult result; deliverResult result) fun _ _ => True :=
  tri_bind lawful saveResult_triple fun _ => deliverResult_triple

lemma deliverAll_triple (results : List CommandResult) :
    Tri (contract x) () (fun s => ∀ r ∈ results, Sendable x s.2 r) (deliverAll results)
      fun _ _ => True := by
  induction results with
  | nil => exact tri_pure (fun _ _ _ _ _ _ r hr => absurd hr List.not_mem_nil) fun _ _ _ => trivial
  | cons result results ih =>
    have hrest : Rising x fun w => ∀ r ∈ results, Sendable x w r :=
      fun _ _ h hw r hr => (hw r hr).grows h
    refine tri_bind lawful (K := fun _ s => True ∧ ∀ r ∈ results, Sendable x s.2 r)
      (tri_conseq (tri_frame deliverResult_triple hrest) ?_ fun _ _ _ h => h) fun _ =>
        tri_conseq ih (fun s _ h => h.2) fun _ _ _ h => h
    exact fun s _ h => ⟨h result List.mem_cons_self, fun r hr => h r (List.mem_cons_of_mem _ hr)⟩

lemma pending_result {record : CommandRecord} {r : CommandResult}
    (h : record.pending = some r) : record.result = some r := by
  unfold CommandRecord.pending at h
  split at h
  · cases h
  · exact h

lemma deliverPending_triple : Tri (contract x) () (fun _ => True) (deliverPending (H := H))
    fun _ _ => True := by
  have hrising (results : List CommandResult) :
      Rising x fun w => ∀ r ∈ results, Sendable x w r :=
    fun _ _ h hw r hr => (hw r hr).grows h
  refine tri_bind lawful (K := fun results s => ∀ r ∈ results, Sendable x s.2 r)
    (tri_lift lawful (fun results => (hrising results).stable) ?_) deliverAll_triple
  refine triple_effect (o := .pendingResults)
    (R := fun (results : List CommandResult) w => ∀ r ∈ results, Sendable x w r)
    rising_true hrising (fun _ _ _ => trivial) ?_
  rintro ⟨a, w⟩ results ⟨a', w'⟩ hi ht - ⟨u, ⟨hperm, rfl, rfl⟩, hnoted⟩ r hr
  obtain rfl : w' = _ := hnoted
  obtain ⟨id, record, hrecord, hpending⟩ := Data.mem_pendingResults.mp (hperm.mem_iff.mp hr)
  exact (ht.records _ (Or.inl rfl) id record hrecord r (pending_result hpending)).2

end Reporting

/-! ### One execution -/

section Execution

variable {α : Type}

/-- The command is being executed, and its executor has come this far. -/
def Underway (x : Installation H W) (c : Command) (p : Prog H CommandResult)
    (s : Agent × Plane H W) : Prop :=
  s.2.command = some c ∧ Performs (x.executor c) s.2.trace p

lemma stable_underway {p : Prog H CommandResult} : Stable (contract x) () (Underway x c p) := by
  rintro s t - - ⟨-, -, hcommand, htrace⟩ ⟨hs, hp⟩
  exact ⟨hcommand.trans hs, htrace.symm ▸ hp⟩

lemma onHost_triple (p : Prog H CommandResult) : Triple (contract x) () (Underway x c p)
    (onHost p) fun result => Underway x c (.pure result) := by
  induction p with
  | pure result => exact triple_pure stable_underway fun _ _ h => h
  | op o k ih =>
    refine triple_op (R := fun r => Underway x c (k r)) stable_underway
      (fun _ _ _ => trivial) ?_ ih
    intro s r t hi hs hexec
    have hinv := inv_effect (o := .host o) hi trivial hexec
    refine ⟨hinv, fun j hj => absurd rfl hj, ?_⟩
    obtain ⟨a, w⟩ := s
    obtain ⟨a', w'⟩ := t
    obtain ⟨u, ⟨-, host, -, rfl⟩, hnoted⟩ := hexec
    obtain rfl : w' = { w with host, trace := w.trace ++ [⟨o, r⟩] } := hnoted
    exact ⟨hs.1, hs.2.snoc r⟩

lemma returns_ends {ψ : α → Prop} {p : Prog H α} {es : List (Event H)} {a : α}
    (hp : p.Ends ψ) (h : Returns p es a) : ψ a := by
  unfold Returns at h
  generalize hq : Prog.pure a = q at h
  induction h with
  | refl p =>
    subst hq
    exact hp
  | op _ ih => exact ih (hp _) hq

/-- What an execution returns is what its program returned. -/
lemma leave_triple (result : CommandResult) : Triple (contract x) ()
    (Underway x c (.pure result)) (eff .leave) fun _ s => Sendable x s.2 result := by
  refine triple_perform stable_underway (fun _ => (rising_sendable result).stable)
    (fun _ _ _ => trivial) fun s r t hi hs hexec => ?_
  have hinv := inv_effect (o := .leave) hi trivial hexec
  refine ⟨hinv, fun j hj => absurd rfl hj, Or.inl fun _ => ?_⟩
  obtain ⟨a, w⟩ := s
  obtain ⟨a', w'⟩ := t
  obtain ⟨u, ⟨-, rfl⟩, hnoted⟩ := hexec
  obtain rfl : w' = _ := hnoted
  obtain ⟨hcommand, hreturns⟩ := hs
  refine ⟨(c, u.trace), ?_, (returns_ends (x.keyed c) hreturns).symm, hreturns⟩
  refine List.mem_append_left _ (List.mem_map.mpr ⟨c, ?_, rfl⟩)
  exact Option.mem_toList.mpr hcommand

lemma execute_triple : Triple (contract x) () (fun s => c ∈ s.2.handed)
    (AgentLoop.execute x.executor c) fun result s => Sendable x s.2 result := by
  refine triple_bind lawful (Q := fun _ => Underway x c (x.executor c)) ?_ fun _ => ?_
  · refine triple_perform (rising_handed c).stable (fun _ => stable_underway)
      (fun _ _ h => h) fun s r t hi hs hexec => ?_
    have hinv := inv_effect (o := .enter c) hi hs hexec
    refine ⟨hinv, fun j hj => absurd rfl hj, ?_⟩
    obtain ⟨a, w⟩ := s
    obtain ⟨a', w'⟩ := t
    obtain ⟨u, ⟨-, rfl⟩, hnoted⟩ := hexec
    obtain rfl : w' = _ := hnoted
    exact ⟨rfl, .refl _⟩
  · refine triple_bind lawful (onHost_triple _) fun result => ?_
    exact triple_bind lawful (leave_triple result) fun _ =>
      triple_pure (rising_sendable result).stable fun _ _ h => h

end Execution

/-! ### The loop -/

section Loop

lemma markRunning_triple (id : String) : Tri (contract x) () (fun s => c ∈ s.2.handed)
    (markRunning id) fun _ s => c ∈ s.2.handed := by
  unfold markRunning
  have hread : Triple (contract x) () (fun s => c ∈ s.2.handed) (eff (.command id))
      fun _ s => c ∈ s.2.handed := triple_free (only_free rfl) (rising_handed c)
  refine tri_bind lawful (K := fun _ s => c ∈ s.2.handed)
    (tri_lift lawful (fun _ => (rising_handed c).stable) hread) fun r => ?_
  cases r with
  | some record => exact tri_throw (rising_handed c).stable
  | none => exact record_triple (rising_handed c) fun now w h r hr => by cases hr

lemma handleNew_triple : Tri (contract x) () (fun s => c ∈ s.2.handed)
    (handleNew x.executor c) fun _ _ => True := by
  refine tri_bind lawful (markRunning_triple c.id) fun _ => ?_
  refine tri_bind lawful (tri_lift lawful (fun result => (rising_sendable result).stable)
    execute_triple) fun result => ?_
  exact finish_triple

lemma handleRecorded_triple {record : CommandRecord} : Tri (contract x) ()
    (fun s => Carries x s.2 c.id record) (handleRecorded c record) fun _ _ => True := by
  unfold handleRecorded
  split
  · next result hresult =>
    exact tri_conseq deliverResult_triple (fun s _ h => (h result hresult).2) fun _ _ _ h => h
  · have hnow : Triple (contract x) () (fun _ => True) (eff .now) fun _ _ => True :=
      triple_free (only_free rfl) rising_true
    refine tri_bind lawful (K := fun _ _ => True) (tri_lift lawful (fun _ => stable_true)
      (triple_conseq hnow (fun _ _ _ => trivial) fun _ _ _ h => h)) fun now => ?_
    exact tri_conseq finish_triple (fun _ _ _ => Or.inl fun h => (by cases h)) fun _ _ _ h => h

lemma handleCommand_triple : Tri (contract x) () (fun s => c ∈ s.2.handed)
    (handleCommand x.executor c) fun _ _ => True := by
  unfold handleCommand
  split
  · exact tri_throw (rising_handed c).stable
  have hrising (r : Option CommandRecord) : Rising x fun w =>
      (∀ record, r = some record → Carries x w c.id record) ∧ c ∈ w.handed :=
    fun _ _ h hw => ⟨fun record hr => (hw.1 record hr).grows h, h.handed hw.2⟩
  refine tri_bind lawful (tri_lift lawful (fun r => (hrising r).stable)
    (command_triple c.id (rising_handed c))) fun r => ?_
  cases r with
  | none => exact tri_conseq handleNew_triple (fun _ _ h => h.2) fun _ _ _ h => h
  | some record =>
    exact tri_conseq handleRecorded_triple (fun _ _ h => h.1 record rfl) fun _ _ _ h => h

lemma processCommand_triple : Triple (contract x) () (fun s => c ∈ s.2.handed)
    (processCommand x.executor c) fun _ _ => True := by
  refine triple_bind lawful handleCommand_triple fun r => ?_
  cases r with
  | ok _ => exact triple_pure stable_true fun _ _ _ => trivial
  | error _ => exact triple_free (P := fun _ => True) (only_free rfl) rising_true

lemma processCommands_triple (commands : List Command) : Triple (contract x) ()
    (fun s => ∀ c ∈ commands, c ∈ s.2.handed) (processCommands x.executor commands)
      fun _ _ => True := by
  have hrising (commands : List Command) : Rising x fun w => ∀ c ∈ commands, c ∈ w.handed :=
    fun _ _ h hw c hc => h.handed (hw c hc)
  induction commands with
  | nil => exact triple_pure (hrising []).stable fun _ _ _ => trivial
  | cons command commands ih =>
    refine triple_bind lawful (Q := fun _ s => ∀ c ∈ command :: commands, c ∈ s.2.handed)
      (triple_free (only_free rfl) (hrising _)) fun stop => ?_
    split
    · exact triple_pure (hrising _).stable fun _ _ _ => trivial
    refine triple_bind lawful (Q := fun _ s => True ∧ ∀ c ∈ commands, c ∈ s.2.handed)
      (triple_conseq (triple_frame processCommand_triple (Prog.only_true _)
        (hrising commands).stable ?_) ?_ fun _ _ _ h => h) fun _ =>
        triple_conseq ih (fun _ _ h => h.2) fun _ _ _ h => h
    · exact fun s o r t _ _ hs hexec => hrising commands _ _ (grows_effect hexec) hs
    · exact fun s _ h => ⟨h command List.mem_cons_self, fun c hc => h c (List.mem_cons_of_mem _ hc)⟩

/-- What arrives has been handed out. -/
lemma poll_triple : Triple (contract x) () (fun _ => True) (eff .poll)
    (Outcome (fun commands s => ∀ c ∈ commands, c ∈ s.2.handed) fun _ _ => True) := by
  refine triple_conseq (triple_effect (o := .poll)
    (R := fun (r : Except String (List Command)) w => ∀ cs, r = .ok cs → ∀ c ∈ cs, c ∈ w.handed)
    rising_true (fun r w w' h hw cs hr c hc => h.handed (hw cs hr c hc)) (fun _ _ _ => trivial) ?_)
    (fun _ _ h => h) ?_
  · rintro ⟨a, w⟩ r ⟨a', w'⟩ - - - ⟨u, ⟨-, hpoll⟩, hnoted⟩ cs hr d hd
    obtain rfl : w' = u := hnoted
    rcases hpoll with ⟨-, e, herror⟩ | ⟨commands, ⟨now, locked, db', -, rfl⟩, hok⟩
    · rw [hr] at herror
      cases herror
    · obtain rfl := hok cs hr
      exact List.mem_append_left _ hd
  · rintro (e | commands) s - h
    · trivial
    · exact h commands rfl

lemma again_free (phase : Phase) : (again (H := H) phase).Only (isFree ·) :=
  .bind (only_free rfl) fun _ => trivial

lemma ensureEnrollment_free (token : String) :
    (ensureEnrollment (H := H) token).Only (isFree ·) := by
  unfold ensureEnrollment
  refine .bind (only_free rfl) fun c => ?_
  cases c with
  | some _ => trivial
  | none =>
    dsimp only
    split
    · trivial
    refine .bind (only_free rfl) fun r => ?_
    cases r with
    | error _ => exact again_free _
    | ok c =>
      refine .bind ?_ fun r => by cases r <;> trivial
      unfold saveCredentials
      split
      · trivial
      · exact only_bind (.lift (only_free rfl)) fun _ => persistLocked_free

lemma pass_triple (phase : Phase) : Triple (contract x) () (fun _ => True)
    (pass x.enrollmentToken x.executor phase) fun _ _ => True := by
  have hagain {P : Agent × Plane H W → Prop} (phase : Phase) :
      Triple (contract x) () P (again phase) fun _ _ => True :=
    triple_conseq (triple_free (again_free phase) rising_true) (fun _ _ _ => trivial)
      fun _ _ _ h => h
  cases phase with
  | enrolling => exact triple_free (ensureEnrollment_free _) rising_true
  | stopped => exact triple_pure stable_true fun _ _ _ => trivial
  | looping =>
    refine triple_bind lawful deliverPending_triple ?_
    rintro (_ | _)
    · exact hagain _
    refine triple_bind lawful poll_triple ?_
    rintro (_ | commands)
    · exact hagain _
    · exact triple_bind lawful (processCommands_triple commands) fun _ => hagain _

end Loop

/-! ### Every run -/

section Runs

variable {c : Config (Agent.interface H) (Agent × Plane H W) Unit Phase} {s : Agent × Plane H W}

lemma keeps_commandSystem : Keeps (commandSystem x) (contract x) fun _ _ _ => True where
  lawful := lawful
  exec := fun _ _ _ _ _ h => h
  start := by
    rintro _ phase s p t ⟨rfl, rfl⟩ hi -
    exact ⟨hi, fun j hj => absurd rfl hj, pass_triple phase t hi trivial⟩
  environment := by
    rintro act ⟨a, w⟩ ⟨a', w'⟩ ⟨hagent, hact⟩ hi
    obtain rfl : a' = a := hagent
    cases act with
    | transaction u =>
      obtain ⟨hsilent, db', hrun, hplane⟩ := hact
      obtain rfl : w' = { w with db := db', handed := [] ++ w.handed } := hplane
      have hmeanwhile : Meanwhile x.agentId w.db db' := meanwhile_run hsilent hrun
      exact ⟨inv_meanwhile hi hmeanwhile fun c hc => absurd hc List.not_mem_nil,
        fun _ => ⟨rfl, grows_meanwhile hmeanwhile, rfl, rfl⟩⟩
    | latePoll =>
      obtain ⟨commands, hanswered⟩ := hact
      refine ⟨inv_answered hi hanswered, fun _ => ⟨rfl, grows_answered hanswered, ?_⟩⟩
      obtain ⟨now, locked, db', -, hplane⟩ := hanswered
      obtain rfl : w' = { w with db := db', handed := commands.getD [] ++ w.handed } := hplane
      exact ⟨rfl, rfl⟩
    | lateReport result =>
      obtain ⟨hsent, now, db', answer, hroute, hplane⟩ := hact
      obtain rfl : w' = { w with db := db' } := hplane
      have hreported := (reported_resultRoute hroute).1
      exact ⟨inv_reported hi (hi.sent result hsent) hreported fun q hq => Or.inl hq,
        fun _ => ⟨rfl, grows_reported hreported, rfl, rfl⟩⟩
    | host =>
      obtain ⟨host, hplane⟩ := hact
      obtain rfl : w' = { w with host } := hplane
      have hgrows : Grows x w { w with host } := .of_db rfl rfl (List.Subset.refl _)
      exact ⟨inv_grows hi hgrows rfl rfl (fun c hc => Or.inl hc) (fun r hr => Or.inl hr)
        fun id row hrow hagent hstatus => (hi.rows id row hrow hagent hstatus).grows hgrows,
        fun _ => ⟨rfl, hgrows, rfl, rfl⟩⟩
  crash := by
    rintro _ ⟨a, w⟩ ⟨a', w'⟩ p ⟨hagent, hplane, rfl⟩ hi
    obtain rfl : a' = a.restart := hagent
    obtain rfl : w' = { w with command := none, trace := [] } := hplane
    exact ⟨inv_restart hi, fun j hj => absurd rfl hj,
      pass_triple .enrolling _ (inv_restart hi) trivial⟩

lemma inv_initial (h : Initial x c) : Inv x c.state := by
  obtain ⟨hrows, hhanded, hsent, hcommand, hfinished, ⟨file, hagent, hempty⟩, -⟩ := h
  exact
    { handed := fun d hd => by rw [hhanded] at hd; cases hd
      executed := fun id hid => by rw [hagent] at hid; cases hid
      command := fun d hd => by rw [hcommand] at hd; cases hd
      finished := fun e he => by rw [hfinished] at he; cases he
      entered := by rw [hcommand, hfinished]; exact List.nil_sublist _
      records := by
        intro d hd id record hr
        have hnone : d.commands = ∅ := by
          rw [hagent] at hd
          rcases hd with rfl | hd | hd
          · cases file with
            | none => rfl
            | some d => exact hempty d rfl
          · cases hd
          · exact hempty d hd
        unfold Data.command at hr
        rw [hnone] at hr
        cases hr
      sent := fun r hr => by rw [hsent] at hr; cases hr
      rows := by
        intro id row hrow hours hstatus
        rw [hrows id row hrow hours] at hstatus
        cases hstatus }

lemma inv_reach (hc : Reach (commandSystem x) (Initial x) c) : Inv x c.state := by
  refine (reach_sound keeps_commandSystem (fun c h => ⟨inv_initial h, fun j => ?_⟩) hc).1
  rw [show j = () from rfl, h.thread]
  exact pass_triple .enrolling _ (inv_initial h) trivial

/-- Surroundings that may answer anything. -/
def anything : Surroundings H Unit where
  enroll := fun _ _ _ => True
  poll := fun _ _ _ => True
  submit := fun _ _ _ _ => True
  host := fun _ _ _ _ => True

lemma effect_anything {S : Surroundings H W} {a a' : Agent} {w w' : W} {o : AgentOp H}
    {r : o.Res} (h : effect S a w o r a' w') : effect anything a () o r a' () := by
  cases o with
  | writeTemporary | rename => exact ⟨rfl, h.2⟩
  | command _ | pendingResults | credentials => exact ⟨h.1, h.2.1, rfl⟩
  | enroll | poll | submit _ | host _ => exact ⟨h.1, trivial⟩
  | assign _ _ | assignCredentials _ | chmod | syncDirectory | now | cancelled | logFailure _
  | enter _ | leave => exact ⟨h.1, rfl⟩

/-- **Simulation.** The agent in it is one of those that execute at most once. -/
lemma reach_agent (hc : Reach (commandSystem x) (Initial x) c) :
    Reach (AtMostOnce.agentSystem anything x.enrollmentToken x.executor)
      (AtMostOnce.Fresh x.enrollmentToken x.executor) ⟨(c.state.1, ()), c.thread⟩ := by
  induction hc with
  | init h =>
    obtain ⟨file, hagent, -⟩ := h.agent
    exact .init ⟨⟨file, hagent⟩, h.thread⟩
  | step _ hs ih =>
    refine ih.step ?_
    cases hs with
    | perform i r at_op run =>
      obtain ⟨w, heffect, -⟩ := run
      exact .perform i r at_op (effect_anything heffect)
    | start i at_end next =>
      obtain ⟨hp, rfl⟩ := next
      exact .start i at_end ⟨hp, rfl⟩
    | environment a run => exact .environment () run.1
    | crash i run => exact .crash i ⟨run.1, run.2.2⟩

lemma recorded_reach (hc : Reach (commandSystem x) (Initial x) c) :
    AtMostOnce.Recorded c.state.1 := by
  have hsound : Sound (AtMostOnce.contract anything) (fun _ _ _ => True)
      ⟨(c.state.1, ()), c.thread⟩ := by
    refine reach_sound (AtMostOnce.keeps_agentSystem x.enrollmentToken x.executor) ?_
      (reach_agent hc)
    rintro d ⟨⟨file, hfile⟩, hthread⟩
    have hi : AtMostOnce.Recorded d.state.1 := hfile ▸ AtMostOnce.recorded_fresh file
    refine ⟨hi, fun i => ?_⟩
    rw [show i = () from rfl, hthread]
    exact AtMostOnce.pass_triple x.enrollmentToken x.executor .enrolling d.state hi trivial
  exact hsound.1

lemma finished_nodup (hs : Inv x s) (honce : s.1.executions.Nodup) :
    (s.2.finished.map (·.1.id)).Nodup :=
  honce.sublist ((List.sublist_append_right _ _).trans hs.entered)

/-- **What succeeded was executed, once.** In every run of an agent and its control plane, with
requests, answers and reports that are lost, repeated or late, and the agent cut short anywhere:
it executes nothing twice, and nothing that was not handed out to it; and where a row says that
its command succeeded, one execution of it has ended, and the row holds what that returned. -/
theorem succeeded_as_executed (hc : Reach (commandSystem x) (Initial x) c) :
    c.state.1.executions.Nodup ∧
      (∀ id ∈ c.state.1.executions, ∃ command ∈ c.state.2.handed, command.id = id ∧
        Handed c.state.2.db x.agentId command) ∧
      ∀ id row, c.state.2.db.commands.find? id = some row → row.agentId = x.agentId →
        row.status = .succeeded → ∃ command es result, command ∈ c.state.2.handed ∧
          command.id = id ∧ (command, es) ∈ c.state.2.finished ∧
          (∀ e ∈ c.state.2.finished, e.1.id = id → e = (command, es)) ∧
          Returns (x.executor command) es result ∧ result.success = true ∧
          row.result = some (commandResult row.work (Wire.encodeResult result)) := by
  have hinv := inv_reach hc
  have honce := (recorded_reach hc).once
  refine ⟨honce, fun id hid => ?_, fun id row hrow hagent hstatus => ?_⟩
  · obtain ⟨command, hhanded, heq⟩ := hinv.executed id hid
    exact ⟨command, hhanded, heq, hinv.handed command hhanded⟩
  · obtain ⟨r, hid, hsuccess, ⟨⟨command, es⟩, hfinished, hcommand, hreturns⟩, hresult⟩ :=
      hinv.rows id row hrow hagent hstatus
    have hsame : command.id = id := hcommand.trans (hid.trans (Table.key_find? hrow))
    refine ⟨command, es, r, hinv.finished _ hfinished, hsame, hfinished, fun e he heid => ?_,
      hreturns, hsuccess, hresult⟩
    exact List.inj_on_of_nodup_map (finished_nodup hinv honce) he hfinished (heid.trans hsame.symm)

end Runs

/-! ### A ping that is created, handed out, executed and reported -/

section Sample

open AtMostOnce (noHost ping pong)

def sampleInstallation : Installation noHost Unit where
  settings := ⟨fun s => s, []⟩
  agentId := "edge"
  enrollmentToken := ""
  executor := pong
  host := fun _ _ _ _ => True
  keyed := fun _ => rfl

/-- Every request is answered, and no row is locked. -/
def sampleAnswers : Answers noHost (Plane noHost Unit) where
  now := 1
  enroll := fun w => (.error "", w)
  poll := fun w =>
    let (db, commands) := pollRoute sampleInstallation.settings w.db 1 "edge" fun _ => false
    (match commands with
      | none => .error ""
      | some cs => .ok cs, { w with db, handed := commands.getD [] ++ w.handed })
  submit := fun result w =>
    let (db, answer) := resultRoute w.db 1 "edge" result
    (match answer with
      | .accepted _ => .ok ()
      | .refused _ error => .error error, { w with db, sent := result :: w.sent })
  host := fun w o => ((), { w with trace := w.trace ++ [⟨o, ()⟩] })

lemma sampleAnswers_for : sampleAnswers.For (surroundings sampleInstallation) where
  enroll := fun _ => rfl
  poll := by
    intro w
    rcases hpoll : pollRoute sampleInstallation.settings w.db 1 "edge" fun _ => false with
      ⟨db, commands⟩
    dsimp only [sampleAnswers]
    rw [hpoll]
    refine Or.inr ⟨commands, ⟨1, _, db, hpoll, rfl⟩, fun cs hcs => ?_⟩
    cases commands with
    | none => cases hcs
    | some cs' => exact congrArg some (Except.ok.inj hcs)
  submit := by
    intro result w
    rcases hroute : resultRoute w.db 1 "edge" result with ⟨db, answer⟩
    dsimp only [sampleAnswers]
    rw [hroute]
    refine ⟨db, rfl, Or.inr ⟨1, answer, hroute, fun hok => ?_⟩⟩
    cases answer with
    | accepted idempotent => exact ⟨idempotent, rfl⟩
    | refused status error => cases hok
  host := fun w _ => ⟨w.host, trivial, rfl⟩

/-- A step of the agent. -/
def sampleStep (s : Agent × Plane noHost Unit) (o : AgentOp noHost) :
    o.Res × (Agent × Plane noHost Unit) :=
  let (r, a, w) := succeed sampleAnswers s.1 s.2 o
  (r, a, noted w o)

lemma sampleStep_exec (s : Agent × Plane noHost Unit) (o : AgentOp noHost) :
    (commandSystem sampleInstallation).exec () s o (sampleStep s o).1 (sampleStep s o).2 :=
  ⟨_, effect_succeed sampleAnswers_for s.1 s.2 o, rfl⟩

def samplePlane : Plane noHost Unit where
  db := { agents := .single { id := "edge", enabled := true, enrolled := true } }
  host := ()

def sampleAgent : Agent := Agent.restart { file := some { credentials := some ⟨"edge", "key"⟩ } }

def sampleCreated : Option (Db × Creation) :=
  createCommand samplePlane.db 1 ping.id "edge" "ping" "\x7b\x7d"

def sampleDb : Db := sampleCreated.elim {} (·.1)

/-- The pass of the loop after the command has been created. -/
def samplePass : AgentProg noHost Phase × (Agent × Plane noHost Unit) :=
  (pass "" pong .looping).runFor sampleStep 40 (sampleAgent, { samplePlane with db := sampleDb })

def commandEnd : Config (Agent.interface noHost) (Agent × Plane noHost Unit) Unit Phase :=
  ⟨samplePass.2, fun _ => samplePass.1⟩

lemma reach_commandEnd :
    Reach (commandSystem sampleInstallation) (Initial sampleInstallation) commandEnd := by
  have hinit : Reach (commandSystem sampleInstallation) (Initial sampleInstallation)
      ⟨(sampleAgent, samplePlane), fun _ => pass "" pong .enrolling⟩ :=
    .init ⟨by rintro id row ⟨⟩, rfl, rfl, rfl, rfl, ⟨_, rfl, by rintro d ⟨⟩; rfl⟩, rfl⟩
  have hcreated : ∃ answer, sampleCreated = some (sampleDb, answer) := by
    have hsome : sampleCreated.isSome := by decide +kernel
    unfold sampleDb
    cases hcreated : sampleCreated with
    | none =>
      rw [hcreated] at hsome
      cases hsome
    | some created => exact ⟨created.2, rfl⟩
  have hcommand := hinit.step (.environment
    (t := (sampleAgent, { samplePlane with db := sampleDb }))
    (.transaction (.createCommand 1 ping.id "edge" "ping" "\x7b\x7d"))
    ⟨rfl, trivial, sampleDb, hcreated, rfl⟩)
  have hlooping := (reach_runFor sampleStep_exec 1 hcommand).step
    (.start () (a := .looping) rfl ⟨rfl, rfl⟩)
  simp only [Function.update_eq_const_of_subsingleton] at hlooping
  have hpass := reach_runFor sampleStep_exec 40 hlooping
  simp only [Function.update_eq_const_of_subsingleton] at hpass
  exact hpass

lemma commandEnd_row : ∃ row, commandEnd.state.2.db.commands.find? ping.id = some row ∧
    row.agentId = "edge" ∧ row.status = .succeeded := by
  have hrow : (commandEnd.state.2.db.commands.find? ping.id).any
      (fun row => row.agentId == "edge" && row.status == .succeeded) := by decide +kernel
  cases hfound : commandEnd.state.2.db.commands.find? ping.id with
  | none =>
    rw [hfound] at hrow
    cases hrow
  | some row =>
    rw [hfound, Option.any_some, Bool.and_eq_true, beq_iff_eq, beq_iff_eq] at hrow
    exact ⟨row, rfl, hrow⟩

theorem succeeded_as_executed_sample :
    ∃ c row, Reach (commandSystem sampleInstallation) (Initial sampleInstallation) c ∧
      c.state.2.db.commands.find? ping.id = some row ∧ row.status = .succeeded ∧
      c.state.1.executions.Nodup ∧
      ∃ command es result, command ∈ c.state.2.handed ∧ command.id = ping.id ∧
        (∀ e ∈ c.state.2.finished, e.1.id = ping.id → e = (command, es)) ∧
        Returns (pong command) es result ∧
        row.result = some (commandResult row.work (Wire.encodeResult result)) := by
  obtain ⟨row, hrow, hagent, hstatus⟩ := commandEnd_row
  obtain ⟨honce, -, hsucceeded⟩ := succeeded_as_executed reach_commandEnd
  obtain ⟨command, es, result, hhanded, hid, -, hsole, hreturns, -, hresult⟩ :=
    hsucceeded ping.id row hrow hagent hstatus
  exact ⟨commandEnd, row, reach_commandEnd, hrow, hstatus, honce, command, es, result,
    hhanded, hid, hsole, hreturns, hresult⟩

end Sample

end GatewayControl.CommandResults
