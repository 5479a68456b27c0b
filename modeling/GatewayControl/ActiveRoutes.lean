import GatewayControl.DeliveryPrograms

/-!
A route that the control plane shows as active is applied: in every run of one agent and its
control plane, whatever is lost or comes late, the dynamic directory holds what the row says.
-/

namespace GatewayControl.RouteDelivery

open Text AgentTypes AgentPayloads AgentStore AgentLoop AgentRoutes Database Programs
open RouteSync RouteDirectory RouteQueue RouteHandouts

variable {x : Installation} {c : Command} {s t : Agent × Site}

/-! ### One execution -/

section Execution

/-- The command is being executed. -/
def Begun (x : Installation) (c : Command) (s : Agent × Site) : Prop :=
  On (Unsaid x c) s ∧ s.2.route.command = accepted x c

lemma stable_begun : Stable (contract x) () (Begun x c) :=
  stable_unsaid.and fun _ _ _ _ hr h => hr.host.command.trans h

lemma unsaid_route {d : Data} {w : Site} (h : Unsaid x c d w) (route : RouteState) :
    Unsaid x c d { w with route } :=
  ⟨⟨h.1.listed, h.1.reported, h.1.sync, h.1.other⟩, h.2⟩

lemma enter_triple : Triple (contract x) () (On (Unsaid x c)) (eff (.enter c))
    fun _ s => Begun x c s ∧ s.2.route.history = s.2.route.before := by
  refine triple_perform stable_unsaid (fun _ => stable_begun.and ?_) (fun _ _ _ => trivial)
    fun s r t hi hs hexec => ?_
  · intro s t _ _ hr h
    exact hr.host.history.trans (h.trans hr.host.before.symm)
  obtain ⟨a, w⟩ := s
  obtain ⟨a', w'⟩ := t
  obtain ⟨u, ⟨rfl, rfl⟩, hnoted⟩ := hexec
  obtain rfl : w' = noted x u (.enter c) := hnoted
  refine ⟨?_, fun j hj => absurd rfl hj, ⟨unsaid_route hs _, rfl⟩, rfl⟩
  exact inv_same (inv_enter hi fun h hh => (hs.1.sync h hh).1) rfl rfl rfl

/-- The contract as the executor meets it. -/
abbrev hostContract (x : Installation) : Contract Host.interface (Agent × Site) Unit :=
  (contract x).under AgentOp.host fun _ r => r

lemma onHost_eq {α : Type} (p : Host.HostProg α) :
    onHost p = p.embed (G := Agent.interface Host.interface) AgentOp.host fun _ r => r := by
  induction p with
  | pure a => rfl
  | op o k ih => exact congrArg (Prog.op _) (funext ih)

/-- **Step lemma.** What an effect on the host keeps, when it keeps the dynamic directory. -/
lemma begun_host {o : Host.HostOp} {r : o.Res} (hi : Inv x s) (hs : Begun x c s)
    (h : (hostContract x).exec () s o r t) :
    RouteDirectory.Exec x.links s.2.route o r t.2.route ∧
      (RouteDirectory.Inv x.executor x.links t.2.route → Inv x t ∧ Begun x c t) := by
  obtain ⟨a, w⟩ := s
  obtain ⟨a', w'⟩ := t
  obtain ⟨_, rfl, u, ⟨rfl, route, hexec, rfl⟩, hnoted⟩ := h
  obtain rfl : w' = { w with route } := hnoted
  exact ⟨hexec, fun hdirectory => ⟨inv_host hi hexec hdirectory, unsaid_route hs.1 _,
    hexec.command.trans hs.2⟩⟩

lemma sync_triple {p : RouteSyncPayload} (hpayload : c.payload = .routeSync p) :
    Triple (hostContract x) () (fun s => Begun x c s ∧ s.2.route.history = s.2.route.before)
      (execute x c) fun result s => Told result s.2.route ∧ Begun x c s := by
  intro s hi ⟨hbegun, hhistory⟩
  have haccepted : accepted x c = (x.executor.decode (x.wire p)).toOption := by
    unfold accepted
    rw [hpayload]
  have hprogram : Triple (RouteDirectory.contract x.executor x.links) ()
      (fun s => s.command = (x.executor.decode (x.wire p)).toOption ∧ s.history = s.before)
      (execute x c) Told := by
    have hghost : Ghost fun s => s.command = (x.executor.decode (x.wire p)).toOption ∧
        s.history = s.before := by
      rintro s t hcommand hhistory hbefore ⟨hc, hh⟩
      exact ⟨hcommand.trans hc, by rw [hhistory, hbefore, hh]⟩
    unfold execute
    rw [hpayload]
    exact triple_bind RouteDirectory.lawful
      (RouteDirectory.triple_still (Host.only_eff rfl) hghost) fun startedAt =>
        executeRouteSync_triple rfl rfl
  refine safe_part (C := hostContract x) (D := RouteDirectory.contract x.executor x.links)
    (fun s => s.2.route) (fun s h => h.directory) (fun s t h => h.host) stable_begun
    (fun _ _ _ _ _ => trivial) ?_
    (hprogram s.2.route hi.directory ⟨hbegun.2.trans haccepted, hhistory⟩) hi hbegun
  intro s o r t hi hs hexec
  obtain ⟨hroute, hkeep⟩ := begun_host hi hs hexec
  exact ⟨hroute, fun hdirectory => ⟨(hkeep hdirectory).1, fun j hj => absurd rfl hj,
    (hkeep hdirectory).2⟩⟩

lemma effect_file {path : String} {o : Host.HostOp} {r : o.Res} {h h' : Host.HostState Unit}
    (ho : o ≠ .rename path ∧ o ≠ .remove path)
    (hexec : Host.hostEffect x.links (fun _ _ _ _ => True) h o r h') :
    h'.files path = h.files path := by
  by_cases hrename : ∃ other, o = .rename other
  · obtain ⟨other, rfl⟩ := hrename
    have hne : path ≠ other := by
      rintro rfl
      exact ho.1 rfl
    rcases hexec with ⟨-, rfl⟩ | ⟨-, rfl⟩
    · unfold Host.HostState.renamed
      split
      · exact Function.update_of_ne hne ..
      · rfl
    · rfl
  by_cases hremove : ∃ other, o = .remove other
  · obtain ⟨other, rfl⟩ := hremove
    have hne : path ≠ other := by
      rintro rfl
      exact ho.2 rfl
    rcases hexec with ⟨-, rfl⟩ | ⟨-, -, rfl⟩ | ⟨-, rfl⟩
    · exact Function.update_of_ne hne ..
    · rfl
    · rfl
  · rw [HostRuns.effect_files (fun other h => hrename ⟨other, h⟩)
      (fun other h => hremove ⟨other, h⟩) hexec]

lemma other_triple (hnone : accepted x c = none) :
    Triple (hostContract x) () (Begun x c) (x.others c) fun _ => Begun x c := by
  refine triple_only (x.elsewhere c) stable_begun (fun _ _ _ _ _ => trivial)
    fun s o r t ho hi hs hexec => ?_
  obtain ⟨hroute, hkeep⟩ := begun_host hi hs hexec
  have hhistory : t.2.route.history = s.2.route.history := by
    rw [hroute.history]
    rcases noted_cases s.2.route o r with h | h
    · exact h
    · rw [h, hs.2, hnone]
      exact List.append_nil _
  obtain ⟨hinv, hbegun⟩ := hkeep (hi.directory.congr (fun name => effect_file (ho name) hroute.host)
    hroute.command hhistory hroute.before)
  exact ⟨hinv, fun j hj => absurd rfl hj, hbegun⟩

lemma sync_ends {e : Executor} {result : CommandResult} {raw : Bytes} {id : String}
    (hid : result.commandId = id) : (executeRouteSync e result raw).Ends (·.commandId = id) := by
  have hfailure (summary : String) :
      (safeSyncFailure result summary).Ends (·.commandId = id) := fun _ => hid
  have hsuccess (summary : String) :
      (safeSyncSuccess result summary).Ends (·.commandId = id) := fun _ => hid
  unfold executeRouteSync
  split
  · exact hfailure _
  unfold syncRoute
  refine .bind (Prog.ends_true _) fun r _ => ?_
  cases r with
  | error err => exact hfailure _
  | ok directory =>
    dsimp only
    split
    · refine .bind (Prog.ends_true _) fun r _ => ?_
      cases r with
      | error err => exact hfailure _
      | ok _ => exact hsuccess _
    · refine .bind (Prog.ends_true _) fun reachable _ => ?_
      split
      · refine .bind (Prog.ends_true _) fun r _ => ?_
        cases r with
        | error err => exact hfailure _
        | ok _ => exact hsuccess _
      · exact .bind (hfailure _) fun _ h => h

lemma execute_ends : (execute x c).Ends (·.commandId = c.id) := by
  unfold execute
  split
  · exact .bind (Prog.ends_true (Host.eff .now)) fun startedAt _ => sync_ends rfl
  · exact x.answers c

/-- What a result tells of the command's sync. -/
def Ended (x : Installation) (c : Command) (result : CommandResult) (d : Data) (w : Site) : Prop :=
  result.commandId = c.id ∧ Unsaid x c d w ∧
    (result.success = true → ∀ h, syncOf c = some h → Effective w h.2.routeId (revision h.2))

lemma stable_ended {result : CommandResult} : Stable (contract x) () (On (Ended x c result)) := by
  refine (stable_const _).and (stable_unsaid.and ?_)
  exact fun _ _ _ _ hr h hsuccess p hp => hr.effective (h hsuccess p hp)

lemma executor_triple : Triple (hostContract x) ()
    (fun s => Begun x c s ∧ s.2.route.history = s.2.route.before) (execute x c)
    fun result => On (Ended x c result) := by
  have hends : (execute x c).Ends (·.commandId = c.id) := execute_ends
  cases hsync : syncOf c with
  | none =>
    have hnone : accepted x c = none := by
      cases haccepted : accepted x c with
      | none => rfl
      | some p =>
        rw [(accepted_sync haccepted).1] at hsync
        cases hsync
    have hother : execute x c = x.others c := by
      unfold execute
      split
      · next p hp =>
        unfold syncOf at hsync
        rw [hp] at hsync
        cases hsync
      · rfl
    rw [hother] at hends ⊢
    refine triple_conseq (triple_ends (other_triple hnone) hends) (fun _ _ h => h.1) ?_
    rintro result s - ⟨hid, hbegun⟩
    refine ⟨hid, hbegun.1, fun _ h hh => ?_⟩
    rw [hsync] at hh
    cases hh
  | some h =>
    obtain ⟨p, hpayload⟩ : ∃ p, c.payload = .routeSync p := by
      unfold syncOf at hsync
      split at hsync
      · next p hp => exact ⟨p, hp⟩
      · cases hsync
    refine triple_conseq (triple_ends (sync_triple hpayload) hends) (fun _ _ h => h) ?_
    rintro result s - ⟨hid, htold, hbegun⟩
    refine ⟨hid, hbegun.1, fun hsuccess h' hh => ?_⟩
    obtain ⟨q, hcommand, hhistory⟩ := htold.success hsuccess
    obtain ⟨hq, -⟩ := accepted_sync (hbegun.2.symm.trans hcommand)
    obtain rfl := Option.some.inj (hq.symm.trans hh)
    refine ⟨q, ?_, rfl, rfl⟩
    rw [hhistory]
    exact List.mem_append_right _ (List.mem_singleton_self q)

lemma execute_triple : Triple (contract x) () (On (Unsaid x c))
    (AgentLoop.execute (execute x) c) fun result => On (Ended x c result) := by
  refine triple_bind lawful enter_triple fun _ => ?_
  refine triple_bind lawful (Q := fun result => On (Ended x c result)) ?_ fun result => ?_
  · rw [onHost_eq]
    exact triple_embed executor_triple
  · refine triple_bind lawful (Q := fun _ => On (Ended x c result))
      (triple_still (only_still rfl) stable_ended) fun _ => ?_
    exact triple_pure stable_ended fun _ _ h => h

end Execution

/-! ### Handling a command -/

section Handling

variable {result : CommandResult}

lemma syncOf_id {h : String × RouteSyncPayload} (hsync : syncOf c = some h) : h.1 = c.id := by
  unfold syncOf at hsync
  split at hsync
  · exact Option.some.inj hsync ▸ rfl
  · cases hsync

lemma received_of_hand {d : Data} {w : Site} {routeId : String} (h : InHand x c d w)
    (ho : Open w.db c.id routeId) : ∃ p, (c.id, p) ∈ w.received := by
  cases hsync : syncOf c with
  | none => exact absurd ho (h.other hsync routeId)
  | some p =>
    have hmem : p ∈ w.received := List.mem_of_mem_head? (h.sync p hsync).1
    rw [← syncOf_id hsync]
    exact ⟨p.2, hmem⟩

lemma markRunning_triple :
    Tri (contract x) () (On (InHand x c)) (markRunning c.id) fun _ => On (Unsaid x c) := by
  unfold markRunning
  have hread (r : Option CommandRecord) :
      Stable (contract x) () (On fun d w => r = d.command c.id ∧ InHand x c d w) :=
    (stable_data fun d => r = d.command c.id).and stable_inHand
  refine tri_bind lawful (tri_lift lawful hread (command_triple c.id stable_inHand)) fun r => ?_
  cases r with
  | some record => exact tri_throw (hread _)
  | none =>
    refine record_triple (hread none) stable_unsaid ?_ ?_
    · rintro now s hi ⟨hnone, hhand⟩
      have hunsaid : ¬Says s.1.data c.id true := by
        rintro ⟨record, -, hrecord, -⟩
        rw [hrecord] at hnone
        cases hnone
      exact ⟨hhand.listed, fun result h => (by cases h),
        fun routeId ho => received_of_hand hhand ho, fun h => (by cases h),
        fun h => absurd h hunsaid, fun result h => (by cases h)⟩
    · rintro now s hi ⟨hnone, hhand⟩
      have hnew (b : Bool) : ¬Says (s.1.data.assign c.id (runningRecord now)) c.id b := by
        rw [says_assign]
        rintro ⟨result, hresult, -⟩
        cases hresult
      refine ⟨⟨hhand.listed, fun id b htells => ?_, hhand.sync, hhand.other⟩, hnew⟩
      by_cases hid : id = c.id
      · subst hid
        exact absurd htells (hnew b)
      · exact hhand.reported id b ((says_assign_ne hid).mp htells)

lemma saveResult_triple : Tri (contract x) () (On (Ended x c result)) (saveResult result)
    fun _ => On (Due [result]) := by
  refine record_triple stable_ended stable_due ?_ ?_
  · rintro now s hi ⟨hid, ⟨hhand, hunsaid⟩, heffective⟩
    rw [hid]
    refine ⟨hhand.listed, fun r hr => ?_, fun routeId ho => received_of_hand hhand ho,
      fun h => (by cases h), fun h => absurd h (hunsaid true), fun r hr hsuccess => Or.inr ?_⟩
    · exact Option.some.inj hr ▸ hid
    · intro routeId ho
      obtain rfl : result = r := Option.some.inj hr
      cases hsync : syncOf c with
      | none => exact absurd ho (hhand.other hsync routeId)
      | some h =>
        obtain ⟨hhead, hlevel⟩ := hhand.sync h hsync
        refine ⟨h.2, ?_, heffective hsuccess h hsync, hlevel⟩
        rw [hhead, ← syncOf_id hsync]
  · rintro now s hi ⟨hid, ⟨hhand, -⟩, -⟩
    have hsaid (b : Bool) : Says (s.1.data.assign result.commandId (completedRecord result now))
        result.commandId b ↔ result.success = b := by
      rw [says_assign]
      constructor
      · rintro ⟨r, hr, hb⟩
        rwa [← Option.some.inj hr] at hb
      · exact fun hb => ⟨result, rfl, hb⟩
    refine ⟨fun r hr => ?_, fun id b htells => ?_⟩
    · obtain rfl := List.mem_singleton.mp hr
      exact (hsaid r.success).mpr rfl
    · by_cases hsame : id = result.commandId
      · refine ⟨?_, Or.inr ⟨result, List.mem_singleton_self result, hsame.symm⟩⟩
        rw [hsame, hid]
        exact hhand.listed
      · obtain ⟨hlisted, hclosed⟩ := hhand.reported id b ((says_assign_ne hsame).mp htells)
        exact ⟨hlisted, Or.inl hclosed⟩

lemma finish_triple : Tri (contract x) () (On (Ended x c result))
    (do saveResult result; deliverResult result) fun _ _ => True :=
  tri_bind lawful saveResult_triple fun _ =>
    tri_conseq deliverResult_triple (fun _ _ h => h) fun _ _ _ _ => trivial

lemma handleNew_triple : Triple (contract x) () (On (InHand x c))
    (handleNew (execute x) c).run fun _ _ => True := by
  refine triple_conseq (Q := Outcome (fun _ _ => True) fun _ _ => True) ?_ (fun _ _ h => h)
    fun _ _ _ _ => trivial
  refine tri_bind lawful markRunning_triple fun _ => ?_
  exact tri_bind lawful (tri_lift lawful (fun _ => stable_ended) execute_triple) fun _ =>
    finish_triple

lemma handleRecorded_triple {record : CommandRecord} : Triple (contract x) ()
    (On fun d w => some record = d.command c.id ∧ InHand x c d w)
    (handleRecorded c record).run fun _ _ => True := by
  unfold handleRecorded
  split
  · next result hresult =>
    have hdeliver : Tri (contract x) () (On (Due [result])) (deliverResult result)
        fun _ => On (Due []) := deliverResult_triple
    refine triple_conseq hdeliver ?_ fun _ _ _ _ => trivial
    rintro s hi ⟨hrecord, hhand⟩
    have hid := (hi.truthful _ (Or.inl rfl)).keyed c.id record result hrecord.symm hresult
    refine ⟨fun r hr => ?_, fun id b htells => ?_⟩
    · obtain rfl := List.mem_singleton.mp hr
      exact ⟨record, r, hid ▸ hrecord.symm, hresult, rfl⟩
    · obtain ⟨hlisted, hclosed⟩ := hhand.reported id b htells
      exact ⟨hlisted, Or.inl hclosed⟩
  · next hnone =>
    have hunsaid : Stable (contract x) () (On (Unsaid x c)) := stable_unsaid
    have hnow : Triple (contract x) ()
        (On fun d w => some record = d.command c.id ∧ InHand x c d w) (eff .now)
        fun _ => On (Unsaid x c) := by
      refine triple_conseq (triple_still (only_still rfl) stable_unsaid) ?_ fun _ _ _ h => h
      rintro s hi ⟨hrecord, hhand⟩
      refine ⟨hhand, fun b htells => ?_⟩
      obtain ⟨r, result, hr, hresult, -⟩ := htells
      obtain rfl := Option.some.inj (hrecord.trans hr)
      rw [hnone] at hresult
      cases hresult
    refine triple_conseq (Q := Outcome (fun _ _ => True) fun _ _ => True) ?_ (fun _ _ h => h)
      fun _ _ _ _ => trivial
    refine tri_bind lawful (K := fun _ => On (Unsaid x c))
      (tri_lift lawful (fun _ => hunsaid) hnow) fun now => ?_
    have hended (s : Agent × Site) (h : On (Unsaid x c) s) :
        On (Ended x c (interruptedResult c now)) s := ⟨rfl, h, fun h => (by cases h)⟩
    exact tri_conseq finish_triple (fun s _ h => hended s h) fun _ _ _ h => h

lemma handleCommand_triple : Triple (contract x) () (On (InHand x c))
    (handleCommand (execute x) c).run fun _ _ => True := by
  unfold handleCommand
  split
  · exact triple_pure stable_inHand fun _ _ _ => trivial
  have hread (r : Option CommandRecord) :
      Stable (contract x) () (On fun d w => r = d.command c.id ∧ InHand x c d w) :=
    (stable_data fun d => r = d.command c.id).and stable_inHand
  refine triple_bind lawful (p := ExceptT.run (lift (eff (.command c.id))))
    (tri_lift lawful hread (command_triple c.id stable_inHand)) ?_
  rintro (_ | _ | record)
  · exact triple_pure stable_true fun _ _ _ => trivial
  · exact triple_conseq handleNew_triple (fun _ _ h => h.2) fun _ _ _ h => h
  · exact handleRecorded_triple

lemma processCommand_triple : Triple (contract x) () (On (InHand x c))
    (processCommand (execute x) c) fun _ _ => True := by
  refine triple_bind lawful handleCommand_triple fun r => ?_
  cases r with
  | ok _ => exact triple_pure stable_true fun _ _ _ => trivial
  | error _ => exact triple_still (P := fun _ _ => True) (only_still rfl) stable_true

lemma processCommands_triple {commands : List Command} :
    Triple (contract x) () (On (Polled x commands)) (processCommands (execute x) commands)
      fun _ _ => True := by
  intro s hi hs
  rcases hs with rfl | ⟨c, rfl, hhand⟩
  · exact triple_pure stable_true (fun _ _ _ => trivial) s hi trivial
  refine triple_bind lawful (Q := fun _ => On (InHand x c))
    (triple_still (only_still rfl) stable_inHand) (fun stop => ?_) s hi hhand
  split
  · exact triple_pure stable_inHand fun _ _ _ => trivial
  · exact triple_bind lawful processCommand_triple fun _ =>
      triple_pure stable_true fun _ _ _ => trivial

end Handling

/-! ### Every run -/

/-- The effects that change no record of a command and say nothing of one. -/
def IsCalm (o : AgentOp Host.interface) : Prop := isStill o ∨ ∃ c, o = .assignCredentials c

lemma triple_calm {α : Type} {p : AgentProg Host.interface α} (hp : p.Only IsCalm) :
    Triple (contract x) () (fun _ => True) p fun _ _ => True := by
  refine triple_only hp stable_true (fun _ _ _ _ _ => trivial) fun s o r t ho hi _ hexec => ?_
  rcases ho with ho | ⟨c, rfl⟩
  · exact ⟨(inv_still ho hi hexec).1, fun j hj => absurd rfl hj, trivial⟩
  · obtain ⟨a, w⟩ := s
    obtain ⟨a', w'⟩ := t
    obtain ⟨u, ⟨rfl, rfl⟩, hnoted⟩ := hexec
    obtain rfl : w' = _ := hnoted
    exact ⟨inv_same hi rfl rfl rfl, fun j hj => absurd rfl hj, trivial⟩

lemma again_calm (phase : Phase) : (again (H := Host.interface) phase).Only IsCalm :=
  .bind ((only_still rfl).mono fun _ ho => Or.inl ho) fun _ => trivial

lemma ensureEnrollment_calm (token : String) :
    (ensureEnrollment (H := Host.interface) token).Only IsCalm := by
  have hstill {o : AgentOp Host.interface} (ho : isStill o) : (eff o).Only IsCalm :=
    (only_still ho).mono fun _ h => Or.inl h
  unfold ensureEnrollment
  refine .bind (hstill rfl) fun c => ?_
  cases c with
  | some _ => trivial
  | none =>
    dsimp only
    split
    · trivial
    · refine .bind (hstill rfl) fun r => ?_
      cases r with
      | error _ => exact again_calm .enrolling
      | ok c =>
        refine .bind ?_ fun r => by cases r <;> trivial
        unfold saveCredentials
        split
        · trivial
        · exact only_bind (.lift ⟨Or.inr ⟨c, rfl⟩, fun _ => trivial⟩) fun _ =>
            persistLocked_still.mono fun _ h => Or.inl h

lemma pass_triple (phase : Phase) : Triple (contract x) () (fun _ => True)
    (pass x.enrollmentToken (execute x) phase) fun _ _ => True := by
  have hagain {P : Agent × Site → Prop} (phase : Phase) :
      Triple (contract x) () P (again phase) fun _ _ => True :=
    triple_conseq (triple_calm (again_calm phase)) (fun _ _ _ => trivial) fun _ _ _ h => h
  cases phase with
  | enrolling => exact triple_calm (ensureEnrollment_calm _)
  | stopped => exact triple_pure stable_true fun _ _ _ => trivial
  | looping =>
    refine triple_bind lawful deliverPending_triple ?_
    rintro (_ | _)
    · exact hagain _
    refine triple_bind lawful poll_triple ?_
    rintro (_ | commands)
    · exact hagain _
    · exact triple_bind lawful processCommands_triple fun _ => hagain _

lemma inv_elsewhere {a : Agent} {w : Site} {route : RouteState} (hs : Inv x (a, w))
    (h : Elsewhere x.executor x.links w.route route) : Inv x (a, { w with route }) :=
  inv_ghosts hs (hs.directory.congr h.files h.command h.history h.before) h.history h.command

lemma keeps_delivery : Keeps (deliverySystem x) (contract x) fun _ _ _ => True where
  lawful := lawful
  exec := fun _ _ _ _ _ h => h
  start := by
    rintro _ phase s p t ⟨rfl, rfl⟩ hi -
    exact ⟨hi, fun j hj => absurd rfl hj, pass_triple phase t hi trivial⟩
  environment := by
    rintro act ⟨a, w⟩ ⟨a', w'⟩ ⟨hagent, hact⟩ hi
    obtain rfl : a' = a := hagent
    cases act with
    | transaction u =>
      obtain ⟨hforeign, db', hrun, hsite⟩ := hact
      obtain rfl : w' = { w with db := db' } := hsite
      have hf : Foreign x.agentId w.db db' := foreign_run hforeign hrun
      have hnone : ∀ h ∈ ([] : List (String × RouteSyncPayload)), Fresh x db' h :=
        fun h hh => absurd hh List.not_mem_nil
      exact ⟨inv_foreign hi hf hnone, fun _ => rely_foreign hi hf hnone⟩
    | latePoll =>
      obtain ⟨commands, hanswered⟩ := hact
      obtain ⟨hinv, hrely, -⟩ := answered_spec hi hanswered
      exact ⟨hinv, fun _ => hrely⟩
    | lateReport result =>
      obtain ⟨htells, now, db', answer, hroute, hsite⟩ := hact
      obtain rfl : w' = { w with db := db' } := hsite
      exact ⟨inv_report hi htells hroute, fun _ => rely_report htells hroute⟩
    | host =>
      obtain ⟨route, helsewhere, hsite⟩ := hact
      obtain rfl : w' = { w with route } := hsite
      exact ⟨inv_elsewhere hi helsewhere, fun _ => rely_elsewhere helsewhere⟩
  crash := by
    rintro _ ⟨a, w⟩ ⟨a', w'⟩ p ⟨hagent, hsite, rfl⟩ hi
    obtain rfl : a' = a.restart := hagent
    obtain rfl : w' = { w with route := { w.route with host := w.route.host.crashed } } := hsite
    have hinv : Inv x (a.restart, { w with route :=
        { w.route with host := w.route.host.crashed } }) :=
      inv_ghosts (inv_restart hi) (hi.directory.congr (fun _ => rfl) rfl rfl rfl) rfl rfl
    exact ⟨hinv, fun j hj => absurd rfl hj, pass_triple .enrolling _ hinv trivial⟩

lemma inv_initial {c : Config (Agent.interface Host.interface) (Agent × Site) Unit Phase}
    (h : Initial x c) : Inv x c.state := by
  obtain ⟨hcommands, hroutes, hhanded, hreceived, hfiles, ⟨hhistory, hbefore, hcommand⟩,
    ⟨file, hagent, hempty⟩, -⟩ := h
  have hno (routeId : String) (r : RouteRow) :
      c.state.2.db.managedRoutes.find? routeId ≠ some r := by
    rw [hroutes]
    rintro ⟨⟩
  have hline : c.state.2.line = [] := by
    unfold Site.line
    rw [hhistory, hcommand]
    rfl
  have hheld (d : Data) (hd : Holds c.state.1 d) : d.commands = ∅ := by
    rw [hagent] at hd
    rcases hd with rfl | hd | hd
    · cases file with
      | none => rfl
      | some d => exact hempty d rfl
    · cases hd
    · exact hempty d hd
  exact
    { directory := by
        refine ⟨fun name config => iff_of_false (hfiles name config) ?_,
          Or.inl (hhistory.trans hbefore.symm), ?_⟩
        · rw [hhistory]
          rintro ⟨id, route, hroute, -⟩
          cases hroute
        · rw [hhistory, hcommand]
          exact fun p hp => absurd hp List.not_mem_nil
      canonical := fun routeId r hr => absurd hr (hno routeId r)
      handed := fun h hh => by rw [hhanded] at hh; cases hh
      received := fun h hh => by rw [hreceived] at hh; cases hh
      falling := by rw [hreceived]; exact List.Pairwise.nil
      line := fun p hp => by rw [hline] at hp; cases hp
      rising := by rw [hline]; exact List.Pairwise.nil
      quiet := fun routeId r hr => absurd hr (hno routeId r)
      truthful := fun d hd => truthful_empty (hheld d hd)
      kept := fun d hd id htells => absurd htells (not_says_empty (hheld d hd))
      routes := fun routeId r hr => absurd hr (hno routeId r) }

lemma inv_reach {c : Config (Agent.interface Host.interface) (Agent × Site) Unit Phase}
    (hc : Reach (deliverySystem x) (Initial x) c) : Inv x c.state := by
  refine (reach_sound keeps_delivery (fun c h => ⟨inv_initial h, fun j => ?_⟩) hc).1
  rw [show j = () from rfl, h.thread]
  exact pass_triple .enrolling _ (inv_initial h) trivial

/-- No sync of the route is under way to the agent. -/
def Settled (x : Installation) (db : Db) (routeId : String) : Prop :=
  ∀ id c, db.commands.find? id = some c → c.agentId = x.agentId →
    c.work = .routeSync routeId → ¬Outstanding c

lemma reads_sample (p q : RouteSyncPayload) (rest : List Char)
    (h : sampleExecutor.schema.decode (text (if p = sampleRoute then sampleRaw else [])) =
      .ok (q, rest)) : q = p := by
  split at h
  · next hp =>
    subst hp
    have hread : (sampleExecutor.schema.decode (text sampleRaw)).toOption =
        some (sampleRoute, []) := by decide +kernel
    rw [h] at hread
    exact (Prod.mk.inj (Option.some.inj hread)).1
  · have hread : (sampleExecutor.schema.decode (text [])).toOption = none := by decide +kernel
    rw [h] at hread
    cases hread

def sampleInstallation : Installation where
  settings := ⟨fun s => s, []⟩
  agentId := "edge"
  enrollmentToken := ""
  executor := sampleExecutor
  links := sampleLinks
  wire := fun p => if p = sampleRoute then sampleRaw else []
  others := fun c => .pure
    { commandId := c.id, type := c.type, exitCode := -1, startedAt := 1, finishedAt := 1 }
  reads := reads_sample
  elsewhere := fun _ => trivial
  answers := fun _ => rfl

/-- Every request is answered, and no row is locked. -/
def sampleAnswers : Answers Host.interface Site where
  now := 1
  enroll := fun w => (.error "", w)
  poll := fun w =>
    let (db, commands) := pollRoute sampleInstallation.settings w.db 1 "edge" fun _ => false
    let w := { w with db, handed := (commands.getD []).filterMap syncOf ++ w.handed }
    match commands with
    | none => (.error "", w)
    | some cs => (.ok cs, { w with received := cs.filterMap syncOf ++ w.received })
  submit := fun result w =>
    let (db, answer) := resultRoute w.db 1 "edge" result
    (match answer with
      | .accepted _ => .ok ()
      | .refused _ error => .error error, { w with db })
  host := fun w o => ((sampleAnswer w.route o).1, { w with route := (sampleAnswer w.route o).2 })

lemma sampleAnswers_for : sampleAnswers.For (surroundings sampleInstallation) where
  enroll := fun _ => rfl
  poll := by
    intro w
    rcases hpoll : pollRoute sampleInstallation.settings w.db 1 "edge" fun _ => false with
      ⟨db, commands⟩
    have hanswered : Answered sampleInstallation w
        { w with db, handed := (commands.getD []).filterMap syncOf ++ w.handed } commands :=
      ⟨1, _, db, hpoll, rfl⟩
    dsimp only [sampleAnswers]
    rw [hpoll]
    cases commands with
    | none => exact ⟨_, none, Or.inr hanswered, Or.inl ⟨⟨_, rfl⟩, rfl⟩⟩
    | some cs => exact ⟨_, some cs, Or.inr hanswered, Or.inr ⟨cs, rfl, rfl, rfl⟩⟩
  submit := by
    intro result w
    rcases hroute : resultRoute w.db 1 "edge" result with ⟨db, answer⟩
    dsimp only [sampleAnswers]
    rw [hroute]
    refine Or.inr ⟨1, db, answer, hroute, rfl, fun hok => ?_⟩
    cases answer with
    | accepted idempotent => exact ⟨idempotent, rfl⟩
    | refused status error => cases hok
  host := fun w o => ⟨_, exec_sample w.route o, rfl⟩

/-- A step of the agent. -/
def sampleStep (s : Agent × Site) (o : AgentOp Host.interface) : o.Res × (Agent × Site) :=
  let (r, a, w) := succeed sampleAnswers s.1 s.2 o
  (r, a, noted sampleInstallation w o)

def sampleSite : Site where
  db := { agents := .single { id := "edge", enabled := true, enrolled := true } }
  route := ⟨⟨fun _ => none, none, ()⟩, none, [], []⟩

def sampleState : Agent × Site :=
  (Agent.restart { file := some { credentials := some ⟨"edge", "key"⟩ } }, sampleSite)

def sampleValues : Placement.RouteValues where
  gatewayAgentId := "edge"
  name := "app"
  hostname := "app.example.com"
  exposure := "public"
  backends := ["http://app:8080"]
  enabled := true

def sampleCreated : Option (Db × Option RouteRow) :=
  Placement.createRoute sampleSite.db 1 sampleRoute.routeId
    "9b2e4f10-4f89-41d3-9a0c-0305e82c3302" sampleValues

def sampleDb : Db := sampleCreated.elim {} (·.1)

/-- The pass of the loop after the route has been created. -/
def samplePass : AgentProg Host.interface Phase × (Agent × Site) :=
  (pass "" (execute sampleInstallation) .looping).runFor sampleStep 60
    (sampleState.1, { sampleSite with db := sampleDb })

lemma sampleStep_exec (s : Agent × Site) (o : AgentOp Host.interface) :
    (deliverySystem sampleInstallation).exec () s o (sampleStep s o).1 (sampleStep s o).2 :=
  ⟨_, effect_succeed sampleAnswers_for s.1 s.2 o, rfl⟩

end GatewayControl.RouteDelivery
