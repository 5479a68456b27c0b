import GatewayControl.Acceptance
import GatewayControl.RouteHandouts

/-!
The queue of an agent's commands in the control plane's database: what becomes of their rows
while the agent reports nothing, what a poll hands out, and what a report writes.

Whatever the others do, a command that has ended stays so, one that has been handed out stays what
it is, and none of the agent's comes to have succeeded.
-/

namespace GatewayControl.CommandQueue

open AgentTypes AgentRoutes Database Json Store Transactions RouteQueue RouteHandouts Wire

variable {db db' db'' : Db} {now : Database.Time} {agentId : String}

/-- The command has come to its end. -/
def Ended (db : Db) (id : String) : Prop := ∃ c, db.commands.find? id = some c ∧ ¬Outstanding c

/-! ### Rows and what becomes of them -/

/-- A result as a purge leaves it. -/
def purged (result : Option Json) : Json := (result.map (without "logs")).getD (.obj [])

lemma without_without (key : String) (v : Json) : without key (without key v) = without key v := by
  cases v with
  | obj es => simp only [without, List.filter_filter, Bool.and_self]
  | _ => rfl

lemma purged_purged (result : Option Json) : purged (some (purged result)) = purged result := by
  cases result with
  | none => rfl
  | some v => exact without_without "logs" v

/-- Of a log command a purge finds nothing to remove. -/
lemma purged_commandResult {work : Work} (h : work.type = OperationKind.logs.type)
    (result : Json) : purged (some (commandResult work result)) = commandResult work result := by
  unfold commandResult
  rw [if_pos h]
  rfl

/-- A row and what it is later. -/
structure Later (agentId : String) (c c' : CommandRow) : Prop where
  agent : c'.agentId = c.agentId
  ended : ¬Outstanding c → ¬Outstanding c'
  handed : c.status ≠ .pending → c'.status ≠ .pending ∧ c'.work = c.work
  succeeded : c.agentId = agentId → c'.status = .succeeded → c.status = .succeeded ∧
    (c'.result = c.result ∨
      c.work.type = OperationKind.logs.type ∧ c'.result = some (purged c.result))

namespace Later

variable {c c' c'' : CommandRow}

lemma refl (c : CommandRow) : Later agentId c c :=
  ⟨rfl, id, fun h => ⟨h, rfl⟩, fun _ h => ⟨h, Or.inl rfl⟩⟩

lemma trans (h : Later agentId c c') (h' : Later agentId c' c'') : Later agentId c c'' where
  agent := h'.agent.trans h.agent
  ended := fun hc => h'.ended (h.ended hc)
  handed := by
    intro hc
    obtain ⟨hstatus, hwork⟩ := h.handed hc
    obtain ⟨hstatus', hwork'⟩ := h'.handed hstatus
    exact ⟨hstatus', hwork'.trans hwork⟩
  succeeded := by
    intro ha hs
    obtain ⟨hs', hresult'⟩ := h'.succeeded (h.agent.trans ha) hs
    obtain ⟨hs'', hresult⟩ := h.succeeded ha hs'
    have hwork : c'.work = c.work := (h.handed (by rw [hs'']; rintro ⟨⟩)).2
    refine ⟨hs'', ?_⟩
    rcases hresult' with heq' | ⟨hlogs, heq'⟩ <;> rcases hresult with heq | ⟨hlogs', heq⟩
    · exact Or.inl (heq'.trans heq)
    · exact Or.inr ⟨hlogs', heq'.trans heq⟩
    · exact Or.inr ⟨hwork ▸ hlogs, by rw [heq', heq]⟩
    · exact Or.inr ⟨hlogs', by rw [heq', heq, purged_purged]⟩

/-- A row that is still outstanding and was is all that the others care for. -/
lemma of_outstanding (hagent : c'.agentId = c.agentId) (hwork : c'.work = c.work)
    (ho : Outstanding c) (hstatus : c'.status = .claimed ∨ c'.status = .failed) :
    Later agentId c c' where
  agent := hagent
  ended := fun hc => absurd ho hc
  handed := fun _ => ⟨by rcases hstatus with h | h <;> rw [h] <;> rintro ⟨⟩, hwork⟩
  succeeded := fun _ hs => by rcases hstatus with h | h <;> cases hs.symm.trans h

end Later

/-! ### What the others do -/

/-- What happens to the queue while the agent reports nothing. -/
structure Meanwhile (agentId : String) (db db' : Db) : Prop where
  kept : ∀ id c, db.commands.find? id = some c →
    ∃ c', db'.commands.find? id = some c' ∧ Later agentId c c'
  known : ∀ id c', db'.commands.find? id = some c' → c'.agentId = agentId →
    c'.status = .succeeded → (db.commands.find? id).isSome

namespace Meanwhile

lemma of_eq (h : db'.commands = db.commands) : Meanwhile agentId db db' where
  kept := fun id c hc => ⟨c, by rw [h, hc], .refl c⟩
  known := fun id c' hc' _ _ => by rw [← h, hc']; rfl

lemma succeeded (h : Meanwhile agentId db db') {id : String} {c' : CommandRow}
    (hc' : db'.commands.find? id = some c') (ha : c'.agentId = agentId)
    (hs : c'.status = .succeeded) :
    ∃ c, db.commands.find? id = some c ∧ c.agentId = agentId ∧ Later agentId c c' := by
  obtain ⟨c, hc⟩ := Option.isSome_iff_exists.mp (h.known id c' hc' ha hs)
  obtain ⟨d, hd, hlater⟩ := h.kept id c hc
  obtain rfl := Option.some.inj (hc'.symm.trans hd)
  exact ⟨c, hc, hlater.agent.symm.trans ha, hlater⟩

lemma trans (h : Meanwhile agentId db db') (h' : Meanwhile agentId db' db'') :
    Meanwhile agentId db db'' where
  kept := by
    intro id c hc
    obtain ⟨c', hc', hlater⟩ := h.kept id c hc
    obtain ⟨c'', hc'', hlater'⟩ := h'.kept id c' hc'
    exact ⟨c'', hc'', hlater.trans hlater'⟩
  known := by
    intro id c'' hc'' ha hs
    obtain ⟨c', hc', ha', hlater⟩ := h'.succeeded hc'' ha hs
    exact h.known id c' hc' ha' (hlater.succeeded ha' hs).1

/-- Every row is replaced by a later one. -/
lemma of_map {F : CommandRow → CommandRow}
    (h : ∀ id, db'.commands.find? id = (db.commands.find? id).map F)
    (hF : ∀ c ∈ db.commands.rows, Later agentId c (F c)) : Meanwhile agentId db db' where
  kept := by
    intro id c hc
    exact ⟨F c, by rw [h, hc, Option.map_some], hF c (Table.mem_of_find? hc)⟩
  known := by
    intro id c' hc' _ _
    rw [h] at hc'
    obtain ⟨c, hc, -⟩ := Option.map_eq_some_iff.mp hc'
    rw [hc]
    rfl

end Meanwhile

section Others

lemma meanwhile_queued (h : Queued db db') : Meanwhile agentId db db' where
  kept := by
    intro id c hc
    rcases h.kept id c hc with hsame | ⟨hpending, -, c', hc', hagent, hpending', -⟩
    · exact ⟨c, hsame, .refl c⟩
    · refine ⟨c', hc', hagent, fun hended => absurd (Or.inl hpending) hended,
        fun hne => absurd hpending hne, fun _ hs => ?_⟩
      cases hpending'.symm.trans hs
  known := by
    intro id c' hc' _ hs
    rcases h.queued id c' hc' with hold | ⟨hpending, -⟩
    · rw [hold]
      rfl
    · cases hpending.symm.trans hs

lemma meanwhile_creates (h : LockStep.Creates db db') : Meanwhile agentId db db' := by
  rcases h with rfl | ⟨op, c, h⟩
  · exact .of_eq rfl
  refine ⟨fun id d hd => ⟨d, ?_, .refl d⟩, fun id d hd _ hs => ?_⟩
  · rw [h.commands, if_neg ?_, hd]
    rintro rfl
    rw [h.newCommand] at hd
    cases hd
  · rw [h.commands] at hd
    split_ifs at hd
    · obtain rfl := Option.some.inj hd
      cases h.status.1.symm.trans hs
    · rw [hd]
      rfl

lemma meanwhile_claimCommands {limit : Nat} {locked : String → Bool} {ofAgent : String} :
    Meanwhile agentId db (claimCommands db now ofAgent limit locked).1 := by
  refine .of_map (find?_claimCommands db now ofAgent limit locked) fun c hc => ?_
  split_ifs with hselected
  · have hmem := (selected_contains hc).mp hselected
    exact .of_outstanding rfl rfl (eligible_status (mem_selected hmem).2).2 (Or.inl rfl)
  · exact .refl c

lemma meanwhile_failStaleCommands {staleBefore : Database.Time} :
    Meanwhile agentId db (failStaleCommands db now staleBefore) := by
  refine .of_map (find?_failStaleCommands db now staleBefore) fun c _ => ?_
  split_ifs with hstale
  · exact .of_outstanding rfl rfl (isStale_status hstale) (Or.inr rfl)
  · exact .refl c

lemma meanwhile_purgeRuntimeLogResults {completedBefore : Database.Time} :
    Meanwhile agentId db (purgeRuntimeLogResults db completedBefore) := by
  set ids := (db.operations.rows.filter (expired completedBefore)).filterMap (·.commandId)
  have hpurged := Table.find?_update db.commands
    (fun c => ids.contains c.id && c.work.type == OperationKind.logs.type)
    (fun c => { c with result := some (purged c.result) }) fun _ => rfl
  refine .of_map hpurged fun c _ => ?_
  split_ifs with hlogs
  · rw [Bool.and_eq_true, beq_iff_eq] at hlogs
    exact ⟨rfl, fun h => h, fun h => ⟨h, rfl⟩, fun _ hs => ⟨hs, Or.inr ⟨hlogs.2, rfl⟩⟩⟩
  · exact .refl c

/-- The end of a command of another agent, or a failure. -/
lemma meanwhile_completed {ofAgent commandId : String} {ending : Ending} {current : CommandRow}
    (h : Completed db db' ofAgent commandId ending current)
    (hother : ofAgent ≠ agentId ∨ ending = .failed) : Meanwhile agentId db db' where
  kept := by
    intro id c hc
    obtain ⟨c', hc', rfl | ⟨rfl, now, kept, rfl⟩⟩ := h.rows hc
    · exact ⟨c', hc', .refl c'⟩
    · have hclaimed : c.status = .claimed := h.claimed
      refine ⟨_, hc', rfl, fun hended => absurd (Or.inr hclaimed) hended,
        fun _ => ⟨?_, rfl⟩, fun ha hs => ?_⟩
      · exact fun hp => Completed.ended_status now ending kept c (Or.inl hp)
      · rcases hother with hne | rfl
        · exact absurd (h.agent.symm.trans ha) hne
        · cases hs
  known := by
    intro id c' hc' _ _
    by_cases hid : id = commandId
    · subst hid
      rw [h.found]
      rfl
    · rw [← h.others id hid, hc']
      rfl

/-- A transaction that is not the agent's report. -/
def silent (agentId : String) : Transaction → Prop
  | .completeCommand _ ofAgent _ _ _ => ofAgent ≠ agentId
  | _ => True

lemma meanwhile_run {t : Transaction} (ht : silent agentId t) (h : t.run db db') :
    Meanwhile agentId db db' := by
  cases t with
  | createBackup =>
    obtain ⟨_, h⟩ := h
    exact meanwhile_creates (LockStep.creates_createBackup h)
  | createRestore =>
    obtain ⟨_, h⟩ := h
    exact meanwhile_creates (LockStep.creates_createRestore h)
  | createRuntimeOperation =>
    obtain ⟨_, h⟩ := h
    exact meanwhile_creates (LockStep.creates_createRuntimeOperation h)
  | createRuntimeLogRequest =>
    obtain ⟨_, h⟩ := h
    exact meanwhile_creates (LockStep.creates_createRuntimeLogRequest h)
  | createDeploymentRun =>
    obtain ⟨_, h⟩ := h
    exact meanwhile_creates (LockStep.creates_createDeploymentRun h)
  | createCommand =>
    obtain ⟨_, h⟩ := h
    exact meanwhile_queued (queued_createCommand h)
  | createConnector =>
    obtain ⟨_, h⟩ := h
    exact meanwhile_queued (queued_createConnector h)
  | updateConnector =>
    obtain ⟨_, h⟩ := h
    exact meanwhile_queued (queued_updateConnector h)
  | createRoute =>
    obtain ⟨_, h⟩ := h
    exact meanwhile_queued (queued_createRoute h)
  | updateRoute =>
    obtain ⟨_, h⟩ := h
    exact meanwhile_queued (queued_updateRoute h)
  | queueStackSync => exact meanwhile_queued (queued_queueStackSync h)
  | claimCommands =>
    obtain rfl := h
    exact meanwhile_claimCommands
  | completeCommand =>
    obtain ⟨_, h⟩ := h
    rcases completed_of h with rfl | ⟨current, hcompleted⟩
    · exact .of_eq rfl
    · exact meanwhile_completed hcompleted (Or.inl ht)
  | failStaleCommands =>
    obtain rfl := h
    exact meanwhile_failStaleCommands
  | purgeRuntimeLogResults =>
    obtain rfl := h
    exact meanwhile_purgeRuntimeLogResults
  | other => exact .of_eq h.1

end Others

/-! ### Polls -/

/-- The command is the agent's, and was handed out as what its row says. -/
def Handed (db : Db) (agentId : String) (command : Command) : Prop :=
  ∃ c, db.commands.find? command.id = some c ∧ c.agentId = agentId ∧ c.status ≠ .pending ∧
    c.work.type = command.type

lemma Handed.later {command : Command} (h : Handed db agentId command)
    (hm : Meanwhile agentId db db') : Handed db' agentId command := by
  obtain ⟨c, hc, hagent, hstatus, htype⟩ := h
  obtain ⟨c', hc', hlater⟩ := hm.kept _ c hc
  obtain ⟨hstatus', hwork⟩ := hlater.handed hstatus
  exact ⟨c', hc', hlater.agent.trans hagent, hstatus', by rw [hwork, htype]⟩

lemma Ended.later {id : String} (h : Ended db id) (hm : Meanwhile agentId db db') :
    Ended db' id := by
  obtain ⟨c, hc, hended⟩ := h
  obtain ⟨c', hc', hlater⟩ := hm.kept id c hc
  exact ⟨c', hc', hlater.ended hended⟩

lemma meanwhile_handOut {S : Settings} {rows : List CommandRow} {answer : Option (List Command)}
    (hrows : ∀ c ∈ rows, ∃ d, db.commands.find? c.id = some d ∧ d.agentId = agentId ∧
      d.status ≠ .pending ∧ d.work = c.work)
    (h : handOut S now agentId db rows = (db', answer)) : Meanwhile agentId db db' ∧
      ∀ commands, answer = some commands → ∀ c ∈ commands, Handed db' agentId c := by
  induction rows generalizing db db' answer with
  | nil =>
    obtain ⟨rfl, rfl⟩ := Prod.mk.inj h
    refine ⟨.of_eq rfl, fun commands hc c hmem => ?_⟩
    obtain rfl := Option.some.inj hc
    cases hmem
  | cons row rows ih =>
    have hrest : ∀ c ∈ rows, ∃ d, db.commands.find? c.id = some d ∧ d.agentId = agentId ∧
        d.status ≠ .pending ∧ d.work = c.work := fun c hc => hrows c (List.mem_cons_of_mem row hc)
    rw [handOut] at h
    cases hpayload : decorate S db agentId row with
    | ok payload =>
      rw [hpayload] at h
      dsimp only at h
      rcases hrec : handOut S now agentId db rows with ⟨db₁, commands₁⟩
      rw [hrec] at h
      obtain ⟨rfl, rfl⟩ := Prod.mk.inj h
      obtain ⟨hmeanwhile, hanswer⟩ := ih hrest hrec
      refine ⟨hmeanwhile, fun commands hc c hmem => ?_⟩
      obtain ⟨others, rfl, rfl⟩ := Option.map_eq_some_iff.mp hc
      rcases List.mem_cons.mp hmem with rfl | hmem
      · obtain ⟨d, hd, hagent, hstatus, hwork⟩ := hrows row List.mem_cons_self
        exact Handed.later ⟨d, hd, hagent, hstatus, by rw [hwork]⟩ hmeanwhile
      · exact hanswer others rfl c hmem
    | error text =>
      rw [hpayload] at h
      dsimp only at h
      cases hcomplete : completeCommand db now agentId row.id .failed (undeliverable text) with
      | none =>
        rw [hcomplete] at h
        obtain ⟨rfl, rfl⟩ := Prod.mk.inj h
        exact ⟨.of_eq rfl, by rintro commands ⟨⟩⟩
      | some ended =>
        obtain ⟨db₁, completion⟩ := ended
        rw [hcomplete] at h
        have hfailed : Meanwhile agentId db db₁ := by
          rcases completed_of hcomplete with rfl | ⟨current, hcompleted⟩
          · exact .of_eq rfl
          · exact meanwhile_completed hcompleted (Or.inr rfl)
        have hstill : ∀ c ∈ rows, ∃ d, db₁.commands.find? c.id = some d ∧ d.agentId = agentId ∧
            d.status ≠ .pending ∧ d.work = c.work := by
          intro c hc
          obtain ⟨d, hd, hagent, hstatus, hwork⟩ := hrest c hc
          obtain ⟨d', hd', hlater⟩ := hfailed.kept _ d hd
          obtain ⟨hstatus', hwork'⟩ := hlater.handed hstatus
          exact ⟨d', hd', hlater.agent.trans hagent, hstatus', hwork'.trans hwork⟩
        obtain ⟨hmeanwhile, hanswer⟩ := ih hstill h
        exact ⟨hfailed.trans hmeanwhile, hanswer⟩

/-- **A poll.** It ends no command with success, and hands out claimed commands of the agent. -/
lemma meanwhile_pollRoute {S : Settings} {locked : String → Bool}
    {answer : Option (List Command)} (h : pollRoute S db now agentId locked = (db', answer)) :
    Meanwhile agentId db db' ∧
      ∀ commands, answer = some commands → ∀ c ∈ commands, Handed db' agentId c := by
  have hclaimed : Meanwhile agentId db (claimCommands db now agentId 1 locked).1 :=
    meanwhile_claimCommands
  change handOut S now agentId (claimCommands db now agentId 1 locked).1
    ((selected db now agentId 1 locked).map (claimRow now)) = (db', answer) at h
  have hrows : ∀ c ∈ (selected db now agentId 1 locked).map (claimRow now),
      ∃ d, (claimCommands db now agentId 1 locked).1.commands.find? c.id = some d ∧
        d.agentId = agentId ∧ d.status ≠ .pending ∧ d.work = c.work := by
    intro c hc
    obtain ⟨d, hd, rfl⟩ := List.mem_map.mp hc
    obtain ⟨hrow, heligible⟩ := mem_selected hd
    refine ⟨claimRow now d, ?_, (eligible_status heligible).1, by rintro ⟨⟩, rfl⟩
    rw [show (claimRow now d).id = d.id from rfl, find?_claimCommands, Table.find?_of_mem hrow,
      Option.map_some, if_pos ((selected_contains hrow).mpr hd)]
  obtain ⟨hmeanwhile, hanswer⟩ := meanwhile_handOut hrows h
  exact ⟨hclaimed.trans hmeanwhile, hanswer⟩

/-! ### Reports -/

/-- The row takes the result that is reported. -/
structure Reported (db db' : Db) (agentId : String) (r : CommandResult) : Prop where
  row : ∃ c c', db.commands.find? r.commandId = some c ∧ c.agentId = agentId ∧
    Outstanding c ∧ db'.commands.find? r.commandId = some c' ∧ c'.agentId = agentId ∧
    c'.work = c.work ∧ c'.status = (Acceptance.ending r).command ∧
    c'.result = some (commandResult c.work (encodeResult r))
  others : ∀ id, id ≠ r.commandId → db'.commands.find? id = db.commands.find? id

lemma reported_of {r : CommandResult} {answer : Completion}
    (h : completeCommand db now agentId r.commandId (Acceptance.ending r) (encodeResult r) =
      some (db', answer)) : db' = db ∨ Reported db db' agentId r := by
  unfold completeCommand at h
  cases hfound : (db.commands.find? r.commandId).filter (·.agentId = agentId) with
  | none =>
    rw [hfound] at h
    exact Or.inl (Prod.mk.inj (Option.some.inj h)).1.symm
  | some current =>
    rw [hfound] at h
    rw [Option.filter_eq_some_iff, decide_eq_true_eq] at hfound
    dsimp only at h
    split_ifs at h with hcast hsame hclaimed
    · exact Or.inl (Prod.mk.inj (Option.some.inj h)).1.symm
    · exact Or.inl (Prod.mk.inj (Option.some.inj h)).1.symm
    obtain ⟨kept, hkept, h⟩ := Option.bind_eq_some_iff.mp h
    obtain ⟨db₁, hfinish, h⟩ := Option.bind_eq_some_iff.mp h
    obtain rfl := (Prod.mk.inj (Option.some.inj h)).1
    have hresult : kept = commandResult current.work (encodeResult r) := by
      unfold jsonParameter at hkept
      split_ifs at hkept
      exact (Option.some.inj hkept).symm
    have hcommands := (LockStep.moves_finishWork hfinish).commands
    have hupdate := Table.find?_update db.commands
      (fun c => c.id = r.commandId && c.agentId = agentId)
      (completeRow now (Acceptance.ending r) kept) fun _ => rfl
    have hid : current.id = r.commandId := Table.key_find? hfound.1
    refine Or.inr ⟨⟨current, completeRow now (Acceptance.ending r) kept current, hfound.1,
      hfound.2, Or.inr (not_not.mp hclaimed), ?_, hfound.2, rfl, rfl, ?_⟩, fun id hne => ?_⟩
    · refine (hcommands r.commandId).trans ((hupdate r.commandId).trans ?_)
      rw [hfound.1, Option.map_some, if_pos (by simp [hid, hfound.2])]
    · rw [← hresult]
      rfl
    · refine (hcommands id).trans ((hupdate id).trans ?_)
      cases hother : db.commands.find? id with
      | none => rfl
      | some c =>
        have hc := Table.key_find? hother
        rw [Option.map_some, if_neg (by simp [hc, hne])]

/-- **A report.** It does nothing, or writes the result to the row of an outstanding command; when
it is taken, the command has ended. -/
lemma reported_resultRoute {r : CommandResult} {answer : Answer}
    (h : resultRoute db now agentId r = (db', answer)) :
    (db' = db ∨ Reported db db' agentId r) ∧
      ∀ b, answer = .accepted b → Ended db' r.commandId := by
  have hrefused {status : Nat} {error : String}
      (h : (db, Answer.refused status error) = (db', answer)) :
      (db' = db ∨ Reported db db' agentId r) ∧
        ∀ b, answer = .accepted b → Ended db' r.commandId := by
    obtain ⟨rfl, rfl⟩ := Prod.mk.inj h
    exact ⟨Or.inl rfl, by rintro b ⟨⟩⟩
  unfold resultRoute at h
  split_ifs at h
  · exact hrefused h
  unfold resultHandler at h
  rw [Acceptance.parseStatus_status] at h
  dsimp only at h
  split_ifs at h
  · exact hrefused h
  · exact hrefused h
  cases hcomplete : completeCommand db now agentId r.commandId (Acceptance.ending r)
      (encodeResult r) with
  | none =>
    rw [hcomplete] at h
    exact hrefused h
  | some completed =>
    obtain ⟨db₁, completion⟩ := completed
    rw [hcomplete] at h
    cases completion with
    | updated =>
      obtain ⟨rfl, rfl⟩ := Prod.mk.inj h
      exact ⟨reported_of hcomplete, fun _ _ => ended_of_accepted hcomplete (Or.inl rfl)⟩
    | idempotent =>
      obtain ⟨rfl, rfl⟩ := Prod.mk.inj h
      exact ⟨reported_of hcomplete, fun _ _ => ended_of_accepted hcomplete (Or.inr rfl)⟩
    | conflict | missing =>
      obtain ⟨rfl, rfl⟩ := Prod.mk.inj h
      exact ⟨reported_of hcomplete, by rintro b ⟨⟩⟩

lemma ended_of_reported {r : CommandResult} (h : Reported db db' agentId r) {id : String}
    (hended : Ended db id) : Ended db' id := by
  obtain ⟨c, hc, hout⟩ := hended
  by_cases hid : id = r.commandId
  · subst hid
    obtain ⟨d, -, hd, -, ho, -⟩ := h.row
    obtain rfl := Option.some.inj (hc.symm.trans hd)
    exact absurd ho hout
  · exact ⟨c, (h.others id hid).trans hc, hout⟩

lemma handed_of_reported {r : CommandResult} (h : Reported db db' agentId r) {command : Command}
    (hhanded : Handed db agentId command) : Handed db' agentId command := by
  obtain ⟨c, hc, hagent, hstatus, htype⟩ := hhanded
  by_cases hid : command.id = r.commandId
  · obtain ⟨d, d', hd, -, -, hd', hagent', hwork, hstatus', -⟩ := h.row
    rw [hid] at hc
    obtain rfl := Option.some.inj (hc.symm.trans hd)
    refine ⟨d', hid ▸ hd', hagent', ?_, by rw [hwork, htype]⟩
    rw [hstatus']
    cases Acceptance.ending r <;> rintro ⟨⟩
  · exact ⟨c, (h.others _ hid).trans hc, hagent, hstatus, htype⟩

end GatewayControl.CommandQueue
