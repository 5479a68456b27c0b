import GatewayControl.AtMostOnce
import GatewayControl.CommandQueue
import GatewayControl.RouteDelivery
import GatewayControl.Traces

/-!
One agent and the control plane together, for any executor: what the database says of a command
that succeeded is what its one execution returned.

Polls and reports may be lost, come late or be repeated, and the agent may be cut short and
started again at any step. The state keeps, beside the database, what was handed out, what was
ever sent, and what each execution did on the host.
-/

namespace GatewayControl.CommandResults

open AgentTypes AgentStore AgentLoop AgentRoutes Database Programs Store Traces
open Transactions RouteQueue CommandQueue
open RouteDelivery (Holds)

variable {H : Interface} {W : Type}

/-! ### The system -/

/-- An agent and the control plane it works for; every result has its command's id. -/
structure Installation (H : Interface) (W : Type) where
  settings : Settings
  agentId : String
  enrollmentToken : String
  executor : Command → Prog H CommandResult
  host : W → (o : H.Op) → H.Res o → W → Prop
  keyed : ∀ c, (executor c).Ends (·.commandId = c.id)

/-- The control plane's database and the agent's host. -/
structure Plane (H : Interface) (W : Type) where
  db : Db
  host : W
  /-- The commands handed out, and the results sent, whether they arrived or not. -/
  handed : List Command := []
  sent : List CommandResult := []
  /-- The command under execution with what it has done so far, and the executions that ended,
  the latest first. -/
  command : Option Command := none
  trace : List (Event H) := []
  finished : List (Command × List (Event H)) := []

/-- What the plane notes where an execution begins and ends. -/
def noted (w : Plane H W) : AgentOp H → Plane H W
  | .enter c => { w with command := some c, trace := [] }
  | .leave => { w with
      command := none
      finished := w.command.toList.map (·, w.trace) ++ w.finished }
  | _ => w

variable (x : Installation H W)

/-- The control plane has answered a poll; whether the answer arrives is another matter. -/
def Answered (w w' : Plane H W) (commands : Option (List Command)) : Prop :=
  ∃ now locked db', pollRoute x.settings w.db now x.agentId locked = (db', commands) ∧
    w' = { w with db := db', handed := commands.getD [] ++ w.handed }

def surroundings : Surroundings H (Plane H W) where
  enroll := fun w _ w' => w' = w
  poll := fun w r w' => (w' = w ∧ ∃ e, r = .error e) ∨
    ∃ commands, Answered x w w' commands ∧ ∀ cs, r = .ok cs → commands = some cs
  submit := fun result w r w' => ∃ db', w' = { w with db := db', sent := result :: w.sent } ∧
    ((∃ e, r = .error e) ∧ db' = w.db ∨
      ∃ now answer, resultRoute w.db now x.agentId result = (db', answer) ∧
        (r = .ok () → ∃ idempotent, answer = .accepted idempotent))
  host := fun w o r w' => ∃ host, x.host w.host o r host ∧
    w' = { w with host, trace := w.trace ++ [⟨o, r⟩] }

inductive Other where
  | transaction (t : Transaction)
  /-- A poll that the control plane answers after the agent has given it up. -/
  | latePoll
  /-- A result that arrives after the agent has given its request up, or once more. -/
  | lateReport (result : CommandResult)
  | host

def commandSystem : System (Agent.interface H) (Agent × Plane H W) Unit Phase Other where
  exec := fun _ s o r t => ∃ w, effect (surroundings x) s.1 s.2 o r t.1 w ∧ t.2 = noted w o
  start := fun _ phase s p t => p = pass x.enrollmentToken x.executor phase ∧ t = s
  environment := fun a s t => t.1 = s.1 ∧ match a with
    | .transaction u => silent x.agentId u ∧ ∃ db', u.run s.2.db db' ∧ t.2 = { s.2 with db := db' }
    | .latePoll => ∃ commands, Answered x s.2 t.2 commands
    | .lateReport result => result ∈ s.2.sent ∧ ∃ now db' answer,
        resultRoute s.2.db now x.agentId result = (db', answer) ∧ t.2 = { s.2 with db := db' }
    | .host => ∃ host, t.2 = { s.2 with host }
  crash := fun _ s t p => t.1 = s.1.restart ∧ t.2 = { s.2 with command := none, trace := [] } ∧
    p = pass x.enrollmentToken x.executor .enrolling

/-- Nothing has been handed out to the agent yet, and it has nothing on record. -/
structure Initial (c : Config (Agent.interface H) (Agent × Plane H W) Unit Phase) : Prop where
  rows : ∀ id row, c.state.2.db.commands.find? id = some row → row.agentId = x.agentId →
    row.status = .pending
  handed : c.state.2.handed = []
  sent : c.state.2.sent = []
  command : c.state.2.command = none
  finished : c.state.2.finished = []
  agent : ∃ file : Option Data, c.state.1 = Agent.restart { file } ∧
    ∀ d, file = some d → d.commands = ∅
  thread : c.thread () = pass x.enrollmentToken x.executor .enrolling

/-! ### What holds throughout -/

/-- The result is what an execution of its command returned. -/
def Exact (w : Plane H W) (r : CommandResult) : Prop :=
  ∃ e ∈ w.finished, e.1.id = r.commandId ∧ Returns (x.executor e.1) e.2 r

/-- A result that may arrive at any time: its success is what an execution returned, or its
command has ended. -/
def Sendable (w : Plane H W) (r : CommandResult) : Prop :=
  (r.success = true → Exact x w r) ∨ Ended w.db r.commandId

def Carries (w : Plane H W) (id : String) (record : CommandRecord) : Prop :=
  ∀ r, record.result = some r → r.commandId = id ∧ Sendable x w r

/-- The row holds what an execution of its command returned. -/
def Stores (w : Plane H W) (row : CommandRow) : Prop :=
  ∃ r, r.commandId = row.id ∧ r.success = true ∧ Exact x w r ∧
    row.result = some (commandResult row.work (Wire.encodeResult r))

structure Inv (s : Agent × Plane H W) : Prop where
  handed : ∀ c ∈ s.2.handed, Handed s.2.db x.agentId c
  executed : ∀ id ∈ s.1.executions, ∃ c ∈ s.2.handed, c.id = id
  command : ∀ c, s.2.command = some c → c ∈ s.2.handed
  finished : ∀ e ∈ s.2.finished, e.1 ∈ s.2.handed
  entered : (s.2.command.toList.map (·.id) ++ s.2.finished.map (·.1.id)).Sublist s.1.executions
  records : ∀ d, Holds s.1 d → ∀ id record, d.command id = some record → Carries x s.2 id record
  sent : ∀ r ∈ s.2.sent, Sendable x s.2 r
  rows : ∀ id row, s.2.db.commands.find? id = some row → row.agentId = x.agentId →
    row.status = .succeeded → Stores x s.2 row

/-- What only becomes more. -/
structure Grows (w w' : Plane H W) : Prop where
  handed : w.handed ⊆ w'.handed
  finished : w.finished ⊆ w'.finished
  ended : ∀ id, Ended w.db id → Ended w'.db id
  queue : ∀ c, Handed w.db x.agentId c → Handed w'.db x.agentId c

variable {x} {w w' w'' : Plane H W} {a a' : Agent} {s t : Agent × Plane H W}

lemma Grows.refl (w : Plane H W) : Grows x w w :=
  ⟨List.Subset.refl _, List.Subset.refl _, fun _ h => h, fun _ h => h⟩

lemma Grows.trans (h : Grows x w w') (h' : Grows x w' w'') : Grows x w w'' :=
  ⟨List.Subset.trans h.handed h'.handed, List.Subset.trans h.finished h'.finished,
    fun id hid => h'.ended id (h.ended id hid), fun c hc => h'.queue c (h.queue c hc)⟩

/-- The database stays as it is. -/
lemma Grows.of_db (hdb : w'.db = w.db) (hhanded : w'.handed = w.handed)
    (hfinished : w.finished ⊆ w'.finished) : Grows x w w' := by
  refine ⟨?_, hfinished, ?_, ?_⟩
  · rw [hhanded]
    exact List.Subset.refl _
  · rw [hdb]
    exact fun _ h => h
  · rw [hdb]
    exact fun _ h => h

lemma Exact.grows {r : CommandResult} (hr : Exact x w r) (h : Grows x w w') : Exact x w' r := by
  obtain ⟨e, he, hid, hreturns⟩ := hr
  exact ⟨e, h.finished he, hid, hreturns⟩

lemma Sendable.grows {r : CommandResult} (hr : Sendable x w r) (h : Grows x w w') :
    Sendable x w' r :=
  hr.imp (fun hexact hs => (hexact hs).grows h) (h.ended _)

lemma Carries.grows {id : String} {record : CommandRecord} (hc : Carries x w id record)
    (h : Grows x w w') : Carries x w' id record := by
  intro r hr
  obtain ⟨hid, hsend⟩ := hc r hr
  exact ⟨hid, hsend.grows h⟩

lemma Stores.grows {row : CommandRow} (hr : Stores x w row) (h : Grows x w w') :
    Stores x w' row := by
  obtain ⟨r, hid, hsuccess, hexact, hresult⟩ := hr
  exact ⟨r, hid, hsuccess, hexact.grows h, hresult⟩

/-! ### Steps of the control plane -/

section Control

variable {db' : Db} {fresh : List Command}

/-- **Step lemma.** The plane grows around the agent. -/
lemma inv_grows (hs : Inv x (a, w)) (h : Grows x w w') (hcommand : w'.command = w.command)
    (hfinished : w'.finished = w.finished)
    (hhanded : ∀ c ∈ w'.handed, c ∈ w.handed ∨ Handed w'.db x.agentId c)
    (hsent : ∀ r ∈ w'.sent, r ∈ w.sent ∨ Sendable x w r)
    (hrows : ∀ id row, w'.db.commands.find? id = some row → row.agentId = x.agentId →
      row.status = .succeeded → Stores x w' row) : Inv x (a, w') where
  handed := fun c hc => (hhanded c hc).elim (fun hc => h.queue c (hs.handed c hc)) id
  executed := by
    intro id hid
    obtain ⟨c, hc, heq⟩ := hs.executed id hid
    exact ⟨c, h.handed hc, heq⟩
  command := fun c hc => h.handed (hs.command c (hcommand ▸ hc))
  finished := fun e he => h.handed (hs.finished e (hfinished ▸ he))
  entered := by
    change (w'.command.toList.map (·.id) ++ w'.finished.map (·.1.id)).Sublist a.executions
    rw [hcommand, hfinished]
    exact hs.entered
  records := fun d hd id record hr => (hs.records d hd id record hr).grows h
  sent := by
    intro r hr
    rcases hsent r hr with hr | hr
    · exact (hs.sent r hr).grows h
    · exact hr.grows h
  rows := hrows

lemma grows_meanwhile (h : Meanwhile x.agentId w.db db') :
    Grows x w { w with db := db', handed := fresh ++ w.handed } :=
  ⟨List.subset_append_right _ _, List.Subset.refl _, fun _ hid => hid.later h,
    fun _ hc => hc.later h⟩

lemma inv_meanwhile (hs : Inv x (a, w)) (h : Meanwhile x.agentId w.db db')
    (hfresh : ∀ c ∈ fresh, Handed db' x.agentId c) :
    Inv x (a, { w with db := db', handed := fresh ++ w.handed }) := by
  refine inv_grows hs (grows_meanwhile h) rfl rfl
    (fun c hc => (List.mem_append.mp hc).symm.imp_right (hfresh c)) (fun r hr => Or.inl hr) ?_
  intro id row' hrow' hagent hstatus
  obtain ⟨row, hrow, hours, hlater⟩ := h.succeeded hrow' hagent hstatus
  obtain ⟨hbefore, hresult⟩ := hlater.succeeded hours hstatus
  obtain ⟨r, hid, hsuccess, hexact, hstored⟩ := hs.rows id row hrow hours hbefore
  have hwork : row'.work = row.work := (hlater.handed (by rw [hbefore]; rintro ⟨⟩)).2
  have hids : row'.id = row.id := (Table.key_find? hrow').trans (Table.key_find? hrow).symm
  refine ⟨r, hid.trans hids.symm, hsuccess, hexact, ?_⟩
  rcases hresult with heq | ⟨hlogs, heq⟩
  · rw [heq, hstored, hwork]
  · rw [heq, hstored, purged_commandResult hlogs, hwork]

lemma grows_reported {r : CommandResult} {sent : List CommandResult}
    (h : db' = w.db ∨ Reported w.db db' x.agentId r) : Grows x w { w with db := db', sent } := by
  rcases h with rfl | h
  · exact .of_db rfl rfl (List.Subset.refl _)
  · exact ⟨List.Subset.refl _, List.Subset.refl _, fun _ => ended_of_reported h,
      fun _ => handed_of_reported h⟩

/-- **Step lemma.** A result that may arrive arrives, or does not. -/
lemma inv_reported {r : CommandResult} {sent : List CommandResult} (hs : Inv x (a, w))
    (hsend : Sendable x w r) (h : db' = w.db ∨ Reported w.db db' x.agentId r)
    (hsent : ∀ q ∈ sent, q ∈ w.sent ∨ Sendable x w q) : Inv x (a, { w with db := db', sent }) := by
  refine inv_grows hs (grows_reported h) rfl rfl (fun c hc => Or.inl hc) hsent ?_
  intro id row hrow hagent hstatus
  rcases h with rfl | h
  · exact (hs.rows id row hrow hagent hstatus).grows (grows_reported (Or.inl rfl) (r := r))
  by_cases hid : id = r.commandId
  · subst hid
    obtain ⟨c, c', hc, -, ho, hc', -, hwork, hended, hresult⟩ := h.row
    obtain rfl := Option.some.inj (hrow.symm.trans hc')
    have hsuccess : r.success = true := by
      rw [hended] at hstatus
      unfold Acceptance.ending at hstatus
      by_contra hfailed
      rw [if_neg hfailed] at hstatus
      cases hstatus
    refine ⟨r, (Table.key_find? hrow).symm, hsuccess, ?_, by rw [hresult, hwork]⟩
    rcases hsend with hexact | ⟨d, hd, hout⟩
    · exact hexact hsuccess
    · obtain rfl := Option.some.inj (hc.symm.trans hd)
      exact absurd ho hout
  · rw [show ({ w with db := db', sent } : Plane H W).db = db' from rfl, h.others id hid] at hrow
    exact hs.rows id row hrow hagent hstatus

end Control

/-! ### Steps of the agent -/

section Agents

variable {d : Data} {id : String} {record : CommandRecord}

/-- **Step lemma.** Every record the agent holds may be sent. -/
lemma inv_agent (hs : Inv x (a, w)) (hexecutions : a'.executions = a.executions)
    (hrecords : ∀ d, Holds a' d → ∀ id record, d.command id = some record →
      Carries x w id record) : Inv x (a', w) where
  handed := hs.handed
  executed := fun id hid => hs.executed id (hexecutions ▸ hid)
  command := hs.command
  finished := hs.finished
  entered := hexecutions ▸ hs.entered
  records := hrecords
  sent := hs.sent
  rows := hs.rows

lemma inv_held (hs : Inv x (a, w)) (hexecutions : a'.executions = a.executions)
    (hholds : ∀ d', Holds a' d' → ∃ d, Holds a d ∧ d'.commands = d.commands) :
    Inv x (a', w) := by
  refine inv_agent hs hexecutions fun d' hd' id record hr => ?_
  obtain ⟨d, hd, heq⟩ := hholds d' hd'
  refine hs.records d hd id record ?_
  unfold Data.command at hr ⊢
  rw [← heq, hr]

/-- The agent's records and its files stay as they are. -/
lemma inv_same (hs : Inv x (a, w)) (hexecutions : a'.executions = a.executions)
    (hdata : a'.data.commands = a.data.commands) (htemporary : a'.temporary = a.temporary)
    (hfile : a'.file = a.file) : Inv x (a', w) := by
  refine inv_held hs hexecutions fun d hd => ?_
  rcases hd with rfl | hd | hd
  · exact ⟨a.data, Or.inl rfl, hdata⟩
  · exact ⟨d, Or.inr (Or.inl (htemporary ▸ hd)), rfl⟩
  · exact ⟨d, Or.inr (Or.inr (hfile ▸ hd)), rfl⟩

lemma inv_assign (hs : Inv x (a, w)) (h : Carries x w id record) :
    Inv x ({ a with data := a.data.assign id record }, w) := by
  refine inv_agent hs rfl fun d hd k r hr => ?_
  rcases hd with rfl | hd | hd
  · by_cases hk : k = id
    · subst hk
      rw [Data.command_assign] at hr
      exact Option.some.inj hr ▸ h
    · rw [Data.command_assign_ne _ _ hk] at hr
      exact hs.records a.data (Or.inl rfl) k r hr
  · exact hs.records d (Or.inr (Or.inl hd)) k r hr
  · exact hs.records d (Or.inr (Or.inr hd)) k r hr

lemma inv_written (hs : Inv x (a, w)) : Inv x ({ a with temporary := some a.data }, w) := by
  refine inv_held hs rfl fun d hd => ?_
  rcases hd with rfl | hd | hd
  · exact ⟨a.data, Or.inl rfl, rfl⟩
  · exact ⟨a.data, Or.inl rfl, by rw [Option.some.inj hd]⟩
  · exact ⟨d, Or.inr (Or.inr hd), rfl⟩

lemma inv_dropped (hs : Inv x (a, w)) : Inv x ({ a with temporary := none }, w) := by
  refine inv_held hs rfl fun d hd => ?_
  rcases hd with rfl | hd | hd
  · exact ⟨a.data, Or.inl rfl, rfl⟩
  · cases hd
  · exact ⟨d, Or.inr (Or.inr hd), rfl⟩

lemma inv_renamed (hs : Inv x (a, w)) : Inv x (a.renamed, w) := by
  unfold Agent.renamed
  split
  · next temporary htemporary =>
    refine inv_held hs rfl fun d hd => ?_
    rcases hd with rfl | hd | hd
    · exact ⟨a.data, Or.inl rfl, rfl⟩
    · cases hd
    · exact ⟨d, Or.inr (Or.inl (htemporary.trans hd)), rfl⟩
  · exact hs

/-- **Step lemma.** An execution begins. -/
lemma inv_enter {c : Command} (hs : Inv x (a, w)) (hc : c ∈ w.handed) :
    Inv x ({ a with executing := some c.id, executions := c.id :: a.executions },
      { w with command := some c, trace := [] }) := by
  have hgrows : Grows x w { w with command := some c, trace := [] } :=
    .of_db rfl rfl (List.Subset.refl _)
  have hentered : (w.finished.map (·.1.id)).Sublist a.executions :=
    (List.sublist_append_right _ _).trans hs.entered
  refine ⟨hs.handed, fun id hid => ?_, fun d hd => ?_, hs.finished, hentered.cons_cons c.id,
    fun d hd id record hr => (hs.records d hd id record hr).grows hgrows,
    fun q hq => (hs.sent q hq).grows hgrows,
    fun id row hrow hagent hstatus => (hs.rows id row hrow hagent hstatus).grows hgrows⟩
  · rcases List.mem_cons.mp hid with rfl | hid
    · exact ⟨c, hc, rfl⟩
    · exact hs.executed id hid
  · obtain rfl := Option.some.inj hd
    exact hc

/-- **Step lemma.** An execution ends: it is finished, with what it has done. -/
lemma inv_leave (hs : Inv x (a, w)) : Inv x ({ a with executing := none },
    { w with
      command := none
      finished := w.command.toList.map (·, w.trace) ++ w.finished }) := by
  have hgrows : Grows x w { w with
      command := none
      finished := w.command.toList.map (·, w.trace) ++ w.finished } :=
    .of_db rfl rfl (List.subset_append_right _ _)
  refine ⟨hs.handed, hs.executed, by rintro d ⟨⟩, fun e he => ?_, ?_,
    fun d hd id record hr => (hs.records d hd id record hr).grows hgrows,
    fun q hq => (hs.sent q hq).grows hgrows,
    fun id row hrow hagent hstatus => (hs.rows id row hrow hagent hstatus).grows hgrows⟩
  · rcases List.mem_append.mp he with he | he
    · obtain ⟨c, hc, rfl⟩ := List.mem_map.mp he
      exact hs.command c (Option.mem_toList.mp hc)
    · exact hs.finished e he
  · have hentered := hs.entered
    change ((w.command.toList.map (·, w.trace) ++ w.finished).map (·.1.id)).Sublist a.executions
    rw [List.map_append, List.map_map]
    exact hentered

/-- A process that starts again has what its file held, and no execution under way. -/
lemma inv_restart (hs : Inv x (a, w)) :
    Inv x (a.restart, { w with command := none, trace := [] }) := by
  have hagent : Inv x (a.restart, w) := by
    refine inv_agent hs rfl fun d hd id record hr => ?_
    obtain rfl : d = a.file.getD {} := by
      rcases hd with rfl | hd | hd
      · rfl
      · cases hd
      · exact (congrArg (Option.getD · {}) hd).symm
    cases hfile : a.file with
    | none =>
      rw [hfile] at hr
      cases hr
    | some d =>
      rw [hfile] at hr
      exact hs.records d (Or.inr (Or.inr hfile)) id record hr
  have hentered : (w.finished.map (·.1.id)).Sublist a.executions :=
    (List.sublist_append_right _ _).trans hs.entered
  exact ⟨hagent.handed, hagent.executed, by rintro c ⟨⟩, hagent.finished, hentered,
    hagent.records, hagent.sent, hagent.rows⟩

end Agents

/-! ### The contract -/

/-- What the agent may send, record and execute. -/
def contract (x : Installation H W) :
    Contract (Agent.interface H) (Agent × Plane H W) Unit where
  exec := fun _ s o r t => ∃ w, effect (surroundings x) s.1 s.2 o r t.1 w ∧ t.2 = noted w o
  inv := Inv x
  rely := fun _ s t => t.1 = s.1 ∧ Grows x s.2 t.2 ∧ t.2.command = s.2.command ∧
    t.2.trace = s.2.trace
  allowed := fun _ s o => match o with
    | .assign id record => Carries x s.2 id record
    | .submit result => Sendable x s.2 result
    | .enter c => c ∈ s.2.handed
    | _ => True

lemma lawful : (contract x).Lawful where
  refl := fun _ s => ⟨rfl, .refl s.2, rfl, rfl⟩
  trans := fun _ _ _ _ ⟨ha, hg, hc, ht⟩ ⟨ha', hg', hc', ht'⟩ =>
    ⟨ha'.trans ha, hg.trans hg', hc'.trans hc, ht'.trans ht⟩

lemma grows_answered {commands : Option (List Command)} (h : Answered x w w' commands) :
    Grows x w w' := by
  obtain ⟨now, locked, db', hpoll, rfl⟩ := h
  exact grows_meanwhile (meanwhile_pollRoute hpoll).1

lemma inv_answered {commands : Option (List Command)} (hs : Inv x (a, w))
    (h : Answered x w w' commands) : Inv x (a, w') := by
  obtain ⟨now, locked, db', hpoll, rfl⟩ := h
  obtain ⟨hmeanwhile, hcommands⟩ := meanwhile_pollRoute hpoll
  refine inv_meanwhile hs hmeanwhile fun c hc => ?_
  cases commands with
  | none => cases hc
  | some cs => exact hcommands cs rfl c hc

lemma reported_submit {db' : Db} {result : CommandResult} {r : Except String Unit}
    (h : (∃ e, r = .error e) ∧ db' = w.db ∨
      ∃ now answer, resultRoute w.db now x.agentId result = (db', answer) ∧
        (r = .ok () → ∃ idempotent, answer = .accepted idempotent)) :
    db' = w.db ∨ Reported w.db db' x.agentId result := by
  rcases h with ⟨-, rfl⟩ | ⟨now, answer, hroute, -⟩
  · exact Or.inl rfl
  · exact (reported_resultRoute hroute).1

/-- No effect takes anything away. -/
lemma grows_effect {o : AgentOp H} {r : o.Res} (h : (contract x).exec () s o r t) :
    Grows x s.2 t.2 := by
  obtain ⟨a, w⟩ := s
  obtain ⟨a', w'⟩ := t
  obtain ⟨u, heffect, hnoted⟩ := h
  obtain rfl : w' = noted u o := hnoted
  cases o with
  | poll =>
    obtain ⟨-, ⟨rfl, -⟩ | ⟨commands, hanswered, -⟩⟩ := heffect
    · exact .refl _
    · exact grows_answered hanswered
  | submit result =>
    obtain ⟨-, db', rfl, hsubmit⟩ := heffect
    exact grows_reported (reported_submit hsubmit)
  | enter c =>
    obtain ⟨-, rfl⟩ := heffect
    exact .of_db rfl rfl (List.Subset.refl _)
  | leave =>
    obtain ⟨-, rfl⟩ := heffect
    exact .of_db rfl rfl (List.subset_append_right _ _)
  | host o =>
    obtain ⟨-, host, -, rfl⟩ := heffect
    exact .of_db rfl rfl (List.Subset.refl _)
  | command _ | pendingResults | credentials =>
    obtain ⟨-, -, rfl⟩ := heffect
    exact .refl _
  | writeTemporary | rename =>
    obtain ⟨rfl, -⟩ := heffect
    exact .refl _
  | assign _ _ | assignCredentials _ | chmod | syncDirectory | now | cancelled | logFailure _
  | enroll =>
    obtain ⟨-, rfl⟩ := heffect
    exact .refl _

/-- **Step lemma.** Every effect that is allowed keeps the invariant. -/
lemma inv_effect {o : AgentOp H} {r : o.Res} (hs : Inv x s) (hallowed : (contract x).allowed () s o)
    (h : (contract x).exec () s o r t) : Inv x t := by
  obtain ⟨a, w⟩ := s
  obtain ⟨a', w'⟩ := t
  obtain ⟨u, heffect, hnoted⟩ := h
  cases o with
  | assign id record =>
    obtain ⟨rfl, rfl⟩ := heffect
    obtain rfl : w' = _ := hnoted
    exact inv_assign hs hallowed
  | assignCredentials c =>
    obtain ⟨rfl, rfl⟩ := heffect
    obtain rfl : w' = _ := hnoted
    exact inv_same hs rfl rfl rfl rfl
  | writeTemporary =>
    obtain ⟨rfl, ⟨-, rfl⟩ | ⟨-, rfl⟩⟩ := heffect
    · obtain rfl : w' = _ := hnoted
      exact inv_written hs
    · obtain rfl : w' = _ := hnoted
      exact inv_dropped hs
  | rename =>
    obtain ⟨rfl, ⟨-, rfl⟩ | ⟨-, rfl⟩⟩ := heffect
    · obtain rfl : w' = _ := hnoted
      exact inv_renamed hs
    · obtain rfl : w' = _ := hnoted
      exact hs
  | logFailure id =>
    obtain ⟨rfl, rfl⟩ := heffect
    obtain rfl : w' = _ := hnoted
    exact inv_same hs rfl rfl rfl rfl
  | enroll =>
    obtain ⟨rfl, rfl⟩ := heffect
    obtain rfl : w' = _ := hnoted
    exact hs
  | poll =>
    obtain ⟨rfl, hpoll⟩ := heffect
    obtain rfl : w' = u := hnoted
    have hinv : Inv x (a, w') := by
      rcases hpoll with ⟨rfl, -⟩ | ⟨commands, hanswered, -⟩
      · exact hs
      · exact inv_answered hs hanswered
    cases r with
    | ok _ => exact inv_same hinv rfl rfl rfl rfl
    | error _ => exact hinv
  | submit result =>
    obtain ⟨rfl, db', rfl, hsubmit⟩ := heffect
    obtain rfl : w' = _ := hnoted
    have hsent : ∀ q ∈ result :: w.sent, q ∈ w.sent ∨ Sendable x w q := by
      intro q hq
      rcases List.mem_cons.mp hq with rfl | hq
      · exact Or.inr hallowed
      · exact Or.inl hq
    have hinv := inv_reported hs hallowed (reported_submit hsubmit) hsent
    cases r with
    | ok _ => exact inv_same hinv rfl rfl rfl rfl
    | error _ => exact hinv
  | enter c =>
    obtain ⟨rfl, rfl⟩ := heffect
    obtain rfl : w' = _ := hnoted
    exact inv_enter hs hallowed
  | leave =>
    obtain ⟨rfl, rfl⟩ := heffect
    obtain rfl : w' = _ := hnoted
    exact inv_leave hs
  | host o =>
    obtain ⟨hagent, host, -, hsite⟩ := heffect
    obtain rfl : a' = a := hagent
    obtain rfl : u = { w with host, trace := w.trace ++ [⟨o, r⟩] } := hsite
    obtain rfl : w' = { w with host, trace := w.trace ++ [⟨o, r⟩] } := hnoted
    exact ⟨hs.handed, hs.executed, hs.command, hs.finished, hs.entered, hs.records, hs.sent,
      hs.rows⟩
  | command _ | pendingResults | credentials =>
    obtain ⟨-, rfl, rfl⟩ := heffect
    obtain rfl : w' = _ := hnoted
    exact hs
  | chmod | syncDirectory | now | cancelled =>
    obtain ⟨rfl, rfl⟩ := heffect
    obtain rfl : w' = _ := hnoted
    exact hs

/-! ### Rules -/

section Rules

variable {α : Type} {P Q : Plane H W → Prop}

/-- An assertion that more of everything does not falsify. -/
def Rising (x : Installation H W) (P : Plane H W → Prop) : Prop :=
  ∀ w w', Grows x w w' → P w → P w'

lemma Rising.stable (h : Rising x P) : Stable (contract x) () fun s => P s.2 :=
  fun _ _ _ _ hr hs => h _ _ hr.2.1 hs

lemma rising_true : Rising x fun _ => True := fun _ _ _ _ => trivial

lemma rising_sendable (r : CommandResult) : Rising x fun w => Sendable x w r :=
  fun _ _ h hr => hr.grows h

lemma rising_ended (id : String) : Rising x fun w => Ended w.db id := fun _ _ h => h.ended id

lemma rising_handed (c : Command) : Rising x fun w => c ∈ w.handed := fun _ _ h hc => h.handed hc

/-- The rule for one effect. -/
lemma triple_effect {o : AgentOp H} {R : o.Res → Plane H W → Prop} (hP : Rising x P)
    (hR : ∀ r, Rising x (R r)) (hok : ∀ s, Inv x s → P s.2 → (contract x).allowed () s o)
    (hstep : ∀ s r t, Inv x s → Inv x t → P s.2 → (contract x).exec () s o r t → R r t.2) :
    Triple (contract x) () (fun s => P s.2) (eff o) fun r s => R r s.2 := by
  refine triple_perform hP.stable (fun r => (hR r).stable) hok fun s r t hi hs hexec => ?_
  have hinv := inv_effect hi (hok s hi hs) hexec
  exact ⟨hinv, fun j hj => absurd rfl hj, hstep s r t hi hinv hs hexec⟩

/-- Effects that are allowed everywhere. -/
def isFree : AgentOp H → Bool
  | .assign _ _ | .submit _ | .enter _ => false
  | _ => true

lemma allowed_free {o : AgentOp H} (ho : isFree o) : (contract x).allowed () s o := by
  cases o <;> trivial

lemma triple_free {p : AgentProg H α} (hp : p.Only (isFree ·)) (hP : Rising x P) :
    Triple (contract x) () (fun s => P s.2) p fun _ s => P s.2 := by
  refine triple_only hp hP.stable (fun _ _ ho _ _ => allowed_free ho) ?_
  intro s o r t ho hi hs hexec
  exact ⟨inv_effect hi (allowed_free ho) hexec, fun j hj => absurd rfl hj,
    hP _ _ (grows_effect hexec) hs⟩

lemma tri_free {p : AgentFallible H α} (hp : p.run.Only (isFree ·)) (hP : Rising x P) :
    Tri (contract x) () (fun s => P s.2) p fun _ s => P s.2 := by
  refine triple_conseq (triple_free hp hP) (fun _ _ h => h) fun r s _ h => ?_
  cases r with
  | ok a => exact h
  | error e => trivial

/-- What no step takes away may be added to what a program promises. -/
lemma tri_frame {p : AgentFallible H α} {P : Agent × Plane H W → Prop}
    {K : α → Agent × Plane H W → Prop} (h : Tri (contract x) () P p K) (hQ : Rising x Q) :
    Tri (contract x) () (fun s => P s ∧ Q s.2) p fun a s => K a s ∧ Q s.2 := by
  refine triple_conseq (triple_frame h (Prog.only_true p.run) hQ.stable
    fun s o r t _ _ hs hexec => hQ _ _ (grows_effect hexec) hs) (fun _ _ h => h) fun r s _ h => ?_
  cases r with
  | ok a => exact h
  | error e => trivial

lemma only_free {o : AgentOp H} (ho : isFree o) : (eff o).Only (isFree ·) := ⟨ho, fun _ => trivial⟩

lemma persistLocked_free : (persistLocked (H := H)).run.Only (isFree ·) := by
  refine only_bind (only_free rfl) fun _ => ?_
  refine only_bind (only_free rfl) fun _ => ?_
  refine only_bind (only_free rfl) fun _ => ?_
  exact only_free rfl

/-- A record is made, and the file written. -/
lemma record_triple {id : String} {f : AgentTypes.Time → CommandRecord} (hP : Rising x P)
    (hcarries : ∀ now w, P w → Carries x w id (f now)) :
    Tri (contract x) () (fun s => P s.2)
      (do lift (eff (.assign id (f (← lift (eff .now))))); persistLocked) fun _ s => P s.2 := by
  refine tri_bind lawful (K := fun _ s => P s.2)
    (tri_lift lawful (fun _ => hP.stable) (triple_free (only_free rfl) hP)) fun now => ?_
  refine tri_bind lawful (K := fun _ s => P s.2) (tri_lift lawful (fun _ => hP.stable) ?_)
    fun _ => tri_free persistLocked_free hP
  refine triple_effect (R := fun _ => P) hP (fun _ => hP) (fun s _ hs => hcarries now s.2 hs)
    fun s r t hi _ hs hexec => ?_
  exact hP _ _ (grows_effect hexec) hs

end Rules

end GatewayControl.CommandResults
