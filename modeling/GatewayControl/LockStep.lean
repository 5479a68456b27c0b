import GatewayControl.Transactions
import Mathlib.Logic.Relation

/-!
Commands and operations in lock-step. Every operation has one command, and their statuses
are images of each other.

Each transaction maps the rows it finds, so one lemma says what a pair of maps has to do to
keep the invariant, and each transaction is shown to be such a pair. The transactions that
create add one linked pair.
-/

namespace GatewayControl.LockStep

open Database Store Transactions

/-- The operation's command: it names it, and the command names the operation. -/
structure Linked (db : Db) (op : OperationRow) (c : CommandRow) : Prop where
  id : op.commandId = some c.id
  found : db.commands.find? c.id = some c
  work : c.work = .operation op.kind op.id
  agent : c.agentId = op.agentId
  status : c.status = op.status.command

/-- Both tables in step; backups and restores are of stacks that exist. -/
structure InStep (db : Db) : Prop where
  command : ∀ op ∈ db.operations.rows, ∃ c, Linked db op c
  operation : ∀ c ∈ db.commands.rows, ∀ kind id, c.work = .operation kind id →
    ∃ op, db.operations.find? (kind, id) = some op ∧ op.commandId = some c.id
  stack : ∀ op ∈ db.operations.rows, ∀ id, op.subject.stackId = some id →
    (db.managedStacks.find? id).isSome

def CommandStatus.terminal (s : CommandStatus) : Prop := s = .succeeded ∨ s = .failed

def OperationStatus.terminal (s : OperationStatus) : Prop := s = .succeeded ∨ s = .failed

/-- No row is lost, and a terminal status stays. -/
structure Settles (db db' : Db) : Prop where
  commands : ∀ id c, db.commands.find? id = some c → ∃ c', db'.commands.find? id = some c' ∧
    (CommandStatus.terminal c.status → c'.status = c.status)
  operations : ∀ key op, db.operations.find? key = some op →
    ∃ op', db'.operations.find? key = some op' ∧
      (OperationStatus.terminal op.status → op'.status = op.status)

lemma Settles.refl (db : Db) : Settles db db where
  commands := fun _ c h => ⟨c, h, fun _ => rfl⟩
  operations := fun _ op h => ⟨op, h, fun _ => rfl⟩

lemma Settles.trans {db₁ db₂ db₃ : Db} (h : Settles db₁ db₂) (h' : Settles db₂ db₃) :
    Settles db₁ db₃ where
  commands := by
    intro id c hc
    obtain ⟨c₂, hc₂, hs₂⟩ := h.commands id c hc
    obtain ⟨c₃, hc₃, hs₃⟩ := h'.commands id c₂ hc₂
    refine ⟨c₃, hc₃, ?_⟩
    intro ht
    rw [hs₃ (by rwa [hs₂ ht]), hs₂ ht]
  operations := by
    intro key op hop
    obtain ⟨op₂, hop₂, hs₂⟩ := h.operations key op hop
    obtain ⟨op₃, hop₃, hs₃⟩ := h'.operations key op₂ hop₂
    refine ⟨op₃, hop₃, ?_⟩
    intro ht
    rw [hs₃ (by rwa [hs₂ ht]), hs₂ ht]

lemma InStep.unique {db : Db} (h : InStep db) {op : OperationRow} {c c' : CommandRow}
    (hop : op ∈ db.operations.rows) (hc : Linked db op c) (hc' : c' ∈ db.commands.rows)
    (hwork : c'.work = .operation op.kind op.id) : c' = c := by
  obtain ⟨op', hop', hid⟩ := h.operation c' hc' _ _ hwork
  have hsame : db.operations.find? (op.kind, op.id) = some op := Table.find?_of_mem hop
  obtain rfl : op' = op := Option.some.inj (hop'.symm.trans hsame)
  have hids : c'.id = c.id := Option.some.inj (hid.symm.trans hc.id)
  have hfound := Table.find?_of_mem hc'
  rw [hids, hc.found] at hfound
  exact (Option.some.inj hfound).symm

/-! ### Transactions that map rows -/

/-- The rows of `db'` are those of `db` under `F` and `G`, which leave alone what links
them. -/
structure Mapped (db db' : Db) (F : CommandRow → CommandRow)
    (G : OperationRow → OperationRow) : Prop where
  commands : ∀ id, db'.commands.find? id = (db.commands.find? id).map F
  operations : ∀ key, db'.operations.find? key = (db.operations.find? key).map G
  managedStacks : ∀ id, (db.managedStacks.find? id).isSome → (db'.managedStacks.find? id).isSome
  command : ∀ c, (F c).id = c.id ∧ (F c).work = c.work ∧ (F c).agentId = c.agentId
  operation : ∀ op, (G op).id = op.id ∧ (G op).subject = op.subject ∧
    (G op).agentId = op.agentId ∧ (G op).commandId = op.commandId

lemma Mapped.mem_commands {db db' : Db} {F G} (h : Mapped db db' F G) {c : CommandRow}
    (hc : c ∈ db'.commands.rows) : ∃ c₀ ∈ db.commands.rows, c = F c₀ := by
  have hfound := Table.find?_of_mem hc
  rw [h.commands] at hfound
  obtain ⟨c₀, hc₀, rfl⟩ := Option.map_eq_some_iff.mp hfound
  exact ⟨c₀, Table.mem_of_find? hc₀, rfl⟩

lemma Mapped.mem_operations {db db' : Db} {F G} (h : Mapped db db' F G) {op : OperationRow}
    (hop : op ∈ db'.operations.rows) : ∃ op₀ ∈ db.operations.rows, op = G op₀ := by
  have hfound := Table.find?_of_mem hop
  rw [h.operations] at hfound
  obtain ⟨op₀, hop₀, rfl⟩ := Option.map_eq_some_iff.mp hfound
  exact ⟨op₀, Table.mem_of_find? hop₀, rfl⟩

/-- **Step lemma.** Maps that move linked rows together keep them in step. -/
lemma inStep_mapped {db db' : Db} {F G} (hdb : InStep db) (h : Mapped db db' F G)
    (hstatus : ∀ op ∈ db.operations.rows, ∀ c, Linked db op c →
      (F c).status = (G op).status.command) : InStep db' where
  command := by
    intro op hop
    obtain ⟨op₀, hop₀, rfl⟩ := h.mem_operations hop
    obtain ⟨c, hc⟩ := hdb.command op₀ hop₀
    obtain ⟨hid, hwork, hagent⟩ := h.command c
    obtain ⟨goid, gosubject, goagent, gocommand⟩ := h.operation op₀
    refine ⟨F c, ⟨?_, ?_, ?_, ?_, ?_⟩⟩
    · rw [gocommand, hid, hc.id]
    · rw [hid, h.commands, hc.found, Option.map_some]
    · rw [hwork, hc.work, OperationRow.kind, OperationRow.kind, gosubject, goid]
    · rw [hagent, goagent, hc.agent]
    · exact hstatus op₀ hop₀ c hc
  operation := by
    intro c hc kind id hwork
    obtain ⟨c₀, hc₀, rfl⟩ := h.mem_commands hc
    obtain ⟨hcid, hcwork, -⟩ := h.command c₀
    rw [hcwork] at hwork
    obtain ⟨op, hop, hopid⟩ := hdb.operation c₀ hc₀ kind id hwork
    refine ⟨G op, ?_, ?_⟩
    · rw [h.operations, hop, Option.map_some]
    · rw [(h.operation op).2.2.2, hcid, hopid]
  stack := by
    intro op hop id hid
    obtain ⟨op₀, hop₀, rfl⟩ := h.mem_operations hop
    rw [(h.operation op₀).2.1] at hid
    exact h.managedStacks id (hdb.stack op₀ hop₀ id hid)

lemma settles_mapped {db db' : Db} {F G} (h : Mapped db db' F G)
    (hcommand : ∀ c ∈ db.commands.rows, CommandStatus.terminal c.status →
      (F c).status = c.status)
    (hoperation : ∀ op ∈ db.operations.rows, OperationStatus.terminal op.status →
      (G op).status = op.status) : Settles db db' where
  commands := by
    intro id c hc
    refine ⟨F c, by rw [h.commands, hc, Option.map_some], ?_⟩
    exact hcommand c (Table.mem_of_find? hc)
  operations := by
    intro key op hop
    refine ⟨G op, by rw [h.operations, hop, Option.map_some], ?_⟩
    exact hoperation op (Table.mem_of_find? hop)

/-! ### Building pairs of maps -/

lemma Mapped.trans {db₁ db₂ db₃ : Db} {F F' G G'} (h : Mapped db₁ db₂ F G)
    (h' : Mapped db₂ db₃ F' G') : Mapped db₁ db₃ (F' ∘ F) (G' ∘ G) where
  commands := by
    intro id
    rw [h'.commands, h.commands, Option.map_map]
  operations := by
    intro key
    rw [h'.operations, h.operations, Option.map_map]
  managedStacks := fun id hid => h'.managedStacks id (h.managedStacks id hid)
  command := by
    intro c
    obtain ⟨hid, hwork, hagent⟩ := h.command c
    obtain ⟨hid', hwork', hagent'⟩ := h'.command (F c)
    exact ⟨hid'.trans hid, hwork'.trans hwork, hagent'.trans hagent⟩
  operation := by
    intro op
    obtain ⟨hid, hsubject, hagent, hcommand⟩ := h.operation op
    obtain ⟨hid', hsubject', hagent', hcommand'⟩ := h'.operation (G op)
    exact ⟨hid'.trans hid, hsubject'.trans hsubject, hagent'.trans hagent,
      hcommand'.trans hcommand⟩

lemma mapped_same {db db' : Db} (hc : db'.commands = db.commands)
    (ho : db'.operations = db.operations)
    (hs : ∀ id, (db.managedStacks.find? id).isSome → (db'.managedStacks.find? id).isSome) :
    Mapped db db' id id where
  commands := by
    intro k
    rw [hc, Option.map_id, id_eq]
  operations := by
    intro k
    rw [ho, Option.map_id, id_eq]
  managedStacks := hs
  command := fun _ => ⟨rfl, rfl, rfl⟩
  operation := fun _ => ⟨rfl, rfl, rfl, rfl⟩

lemma mapped_updateCommands (db : Db) (p : CommandRow → Bool) (f : CommandRow → CommandRow)
    (hf : ∀ c, (f c).id = c.id) (hwork : ∀ c, (f c).work = c.work)
    (hagent : ∀ c, (f c).agentId = c.agentId) :
    Mapped db (db.updateCommands p f hf) (fun c => if p c then f c else c) id where
  commands := fun k => Table.find?_update _ _ _ hf k
  operations := by
    intro key
    rw [Option.map_id]
    rfl
  managedStacks := fun _ h => h
  command := by
    intro c
    by_cases hp : p c
    · simp [hp, hf, hwork, hagent]
    · simp [hp]
  operation := fun _ => ⟨rfl, rfl, rfl, rfl⟩

lemma mapped_updateOperations (db : Db) (p : OperationRow → Bool)
    (f : OperationRow → OperationRow) (hf : ∀ op, (f op).key = op.key)
    (hid : ∀ op, (f op).id = op.id) (hsubject : ∀ op, (f op).subject = op.subject)
    (hagent : ∀ op, (f op).agentId = op.agentId)
    (hcommand : ∀ op, (f op).commandId = op.commandId) :
    Mapped db (db.updateOperations p f hf) id (fun op => if p op then f op else op) where
  commands := by
    intro id
    rw [Option.map_id]
    rfl
  operations := fun k => Table.find?_update _ _ _ hf k
  managedStacks := fun _ h => h
  command := fun _ => ⟨rfl, rfl, rfl⟩
  operation := by
    intro op
    by_cases hp : p op
    · simp [hp, hid, hsubject, hagent, hcommand]
    · simp [hp]

/-- Operations move as `move` says and commands stay, which is what a statement about the
thing of a command does. -/
def Moves (db db' : Db) (move : OperationRow → OperationStatus) : Prop :=
  ∃ G, Mapped db db' id G ∧ ∀ op ∈ db.operations.rows, (G op).status = move op

lemma moves_same (db db' : Db) (hc : db'.commands = db.commands)
    (ho : db'.operations = db.operations)
    (hs : ∀ id, (db.managedStacks.find? id).isSome → (db'.managedStacks.find? id).isSome) :
    Moves db db' (·.status) :=
  ⟨id, mapped_same hc ho hs, fun _ _ => rfl⟩

lemma Moves.commands {db db' : Db} {move} (h : Moves db db' move) (id : String) :
    db'.commands.find? id = db.commands.find? id := by
  obtain ⟨G, hG, -⟩ := h
  rw [hG.commands, Option.map_id, id_eq]

/-- What follows a statement and touches neither table is no move of its own. -/
lemma Moves.andThen {db db' db'' : Db} {move} (h : Moves db db' move)
    (hc : db''.commands = db'.commands) (ho : db''.operations = db'.operations)
    (hs : db''.managedStacks = db'.managedStacks) : Moves db db'' move := by
  obtain ⟨G, hG, hmove⟩ := h
  exact ⟨G, hG.trans (mapped_same hc ho fun _ h => by rwa [hs]), hmove⟩

lemma moves_updateOperations (db : Db) (p : OperationRow → Bool)
    (f : OperationRow → OperationRow) (hf : ∀ op, (f op).key = op.key)
    (hid : ∀ op, (f op).id = op.id) (hsubject : ∀ op, (f op).subject = op.subject)
    (hagent : ∀ op, (f op).agentId = op.agentId)
    (hcommand : ∀ op, (f op).commandId = op.commandId)
    {move} (hmove : ∀ op ∈ db.operations.rows, (if p op then f op else op).status = move op) :
    Moves db (db.updateOperations p f hf) move :=
  ⟨_, mapped_updateOperations db p f hf hid hsubject hagent hcommand, hmove⟩

/-! ### Claims -/

/-- The guard under which a claim starts the operation of a command. -/
def starts (agentId : String) (c : CommandRow) (op : OperationRow) : Bool :=
  c.work = .operation op.kind op.id &&
    (op.kind == .backup || op.kind == .restore || op.agentId == agentId)

def started (agentId : String) (l : List CommandRow) (op : OperationRow) : OperationStatus :=
  if l.any (starts agentId · op) && op.status == .pending then .running else op.status

lemma moves_startOperation (db : Db) (now : Time) (agentId : String) (c : CommandRow)
    (kind : OperationKind) (id : String) (ofAgent : OperationRow → Bool)
    (hwork : c.work = .operation kind id)
    (hguard : ∀ op, op.kind = kind →
      ofAgent op = (op.kind == .backup || op.kind == .restore || op.agentId == agentId)) :
    Moves db (startOperation db now kind id ofAgent) (started agentId [c]) := by
  unfold startOperation
  refine moves_updateOperations db _ _ _ ?_ ?_ ?_ ?_ ?_
  iterate 4 exact fun _ => rfl
  intro op _
  unfold started starts
  rw [List.any_cons, List.any_nil, Bool.or_false, hwork]
  by_cases hkey : op.key = (kind, id)
  · obtain ⟨hkind, hid⟩ := Prod.mk.injEq .. ▸ hkey
    rw [hguard op hkind]
    subst hkind hid
    by_cases hpending : op.status = .pending <;>
      by_cases hagent : (op.kind == .backup || op.kind == .restore || op.agentId == agentId) <;>
        simp [OperationRow.key, hpending, hagent]
  · have hne : ¬ (Work.operation kind id = .operation op.kind op.id) := by
      intro heq
      injection heq with hkind hid
      exact hkey (by rw [OperationRow.key, hkind, hid])
    simp [hkey, hne]

lemma moves_startWork (db : Db) (now : Time) (agentId : String) (c : CommandRow) :
    Moves db (startWork now agentId db c) (started agentId [c]) := by
  have hnothing : (∀ kind id, c.work ≠ .operation kind id) → ∀ op, started agentId [c] op =
      op.status := by
    intro hwork op
    simp [started, starts, hwork op.kind op.id]
  unfold startWork
  cases hwork : c.work with
  | operation kind id =>
    cases kind <;> refine moves_startOperation db now agentId c _ id _ hwork ?_ <;>
      intro op hkind <;> simp [hkind]
  | connectorSync connectorId revision =>
    obtain ⟨G, hG, hmove⟩ := moves_same db
      (deployingConnector db agentId connectorId revision) rfl rfl fun _ h => h
    refine ⟨G, hG, ?_⟩
    intro op hop
    rw [hmove op hop, hnothing (by simp [hwork])]
  | _ =>
    obtain ⟨G, hG, hmove⟩ := moves_same db db rfl rfl fun _ h => h
    refine ⟨G, hG, ?_⟩
    intro op hop
    rw [hmove op hop, hnothing (by simp [hwork])]

lemma moves_foldl_startWork (now : Time) (agentId : String) (l : List CommandRow) (db : Db) :
    Moves db (l.foldl (startWork now agentId) db) (started agentId l) := by
  induction l generalizing db with
  | nil =>
    obtain ⟨G, hG, hmove⟩ := moves_same db db rfl rfl fun _ h => h
    refine ⟨G, hG, ?_⟩
    intro op hop
    rw [hmove op hop]
    simp [started]
  | cons c l ih =>
    obtain ⟨G, hG, hmove⟩ := moves_startWork db now agentId c
    obtain ⟨G', hG', hmove'⟩ := ih (startWork now agentId db c)
    refine ⟨G' ∘ G, hG.trans hG', ?_⟩
    intro op hop
    have hmem : G op ∈ (startWork now agentId db c).operations.rows := by
      have hfound := Table.find?_of_mem hop
      apply Table.mem_of_find? (k := op.key)
      rw [hG.operations, hfound, Option.map_some]
    obtain ⟨hid, hsubject, hagent, -⟩ := hG.operation op
    have hstarts : ∀ c, starts agentId c (G op) = starts agentId c op := by
      intro c
      unfold starts OperationRow.kind
      rw [hid, hsubject, hagent]
    rw [Function.comp_apply, hmove' _ hmem]
    unfold started at hmove ⊢
    rw [List.any_cons]
    simp only [hstarts, hmove op hop, List.any_cons, List.any_nil, Bool.or_false]
    by_cases hpending : op.status = .pending <;> by_cases hhead : starts agentId c op <;>
      simp [hpending, hhead]

lemma command_pending {s : OperationStatus} : s.command = .pending ↔ s = .pending := by
  cases s <;> simp [OperationStatus.command]

lemma command_claimed {s : OperationStatus} : s.command = .claimed ↔ s = .running := by
  cases s <;> simp [OperationStatus.command]

lemma Linked.mem {db : Db} {op : OperationRow} {c : CommandRow} (h : Linked db op c) :
    c ∈ db.commands.rows :=
  Table.mem_of_find? h.found

/-- A transaction and what it keeps. -/
def Good (db db' : Db) : Prop := InStep db → InStep db' ∧ Settles db db'

lemma mapped_claimCommands (db : Db) (now : Time) (agentId : String) (limit : Nat)
    (locked : String → Bool) : ∃ G, Mapped db (claimCommands db now agentId limit locked).1
      (fun c => if ((selected db now agentId limit locked).map (·.id)).contains c.id then
        claimRow now c else c) G ∧
      ∀ op ∈ db.operations.rows, (G op).status =
        started agentId ((selected db now agentId limit locked).map (claimRow now)) op := by
  set l := selected db now agentId limit locked
  have hF := mapped_updateCommands db (fun c => (l.map (·.id)).contains c.id) (claimRow now)
    (fun _ => rfl) (fun _ => rfl) fun _ => rfl
  obtain ⟨G, hG, hmove⟩ := moves_foldl_startWork now agentId (l.map (claimRow now))
    (db.updateCommands (fun c => (l.map (·.id)).contains c.id) (claimRow now) fun _ => rfl)
  exact ⟨G, hF.trans hG, hmove⟩

lemma good_claimCommands (db : Db) (now : Time) (agentId : String) (limit : Nat)
    (locked : String → Bool) : Good db (claimCommands db now agentId limit locked).1 := by
  intro hdb
  obtain ⟨G, hmapped, hmove⟩ := mapped_claimCommands db now agentId limit locked
  set l := selected db now agentId limit locked with hl
  have hchosen : ∀ c ∈ db.commands.rows, (l.map (·.id)).contains c.id ↔ c ∈ l :=
    fun c hc => selected_contains hc
  have hstarted : ∀ op ∈ db.operations.rows, ∀ c, Linked db op c →
      ((l.map (claimRow now)).any (starts agentId · op) ↔ c ∈ l) := by
    intro op hop c hc
    rw [List.any_map, List.any_eq_true]
    constructor
    · rintro ⟨c', hc', hstarts⟩
      rw [Function.comp_apply, starts, Bool.and_eq_true, decide_eq_true_eq] at hstarts
      rwa [← hdb.unique hop hc (mem_selected hc').1 hstarts.1]
    · intro hmem
      refine ⟨c, hmem, ?_⟩
      have hagent := (eligible_status (mem_selected hmem).2).1
      simp [starts, claimRow, hc.work, ← hc.agent, hagent]
  refine ⟨inStep_mapped hdb hmapped ?_, settles_mapped hmapped ?_ ?_⟩
  · intro op hop c hc
    rw [hmove op hop]
    unfold started
    by_cases hmem : c ∈ l
    · rw [if_pos ((hchosen c hc.mem).mpr hmem)]
      rcases (eligible_status (mem_selected hmem).2).2 with hs | hs
      · rw [hc.status, command_pending] at hs
        simp [(hstarted op hop c hc).mpr hmem, hs, claimRow, OperationStatus.command]
      · rw [hc.status, command_claimed] at hs
        simp [hs, claimRow, OperationStatus.command]
    · rw [if_neg (by rwa [hchosen c hc.mem])]
      have hnot : (l.map (claimRow now)).any (starts agentId · op) = false := by
        rwa [← Bool.not_eq_true, hstarted op hop c hc]
      simp [hnot, hc.status]
  · intro c hc hterminal
    by_cases hmem : c ∈ l
    · rcases (eligible_status (mem_selected hmem).2).2 with hs | hs <;>
        simp [hs, CommandStatus.terminal] at hterminal
    · rw [if_neg (by rwa [hchosen c hc])]
  · intro op hop hterminal
    rw [hmove op hop]
    unfold started
    rcases hterminal with hs | hs <;> simp [hs]

/-! ### Completion -/

/-- The guard under which a completion ends the operation of a command. -/
def finishes (agentId : String) (c : CommandRow) (op : OperationRow) : Bool :=
  c.work = .operation op.kind op.id && op.agentId == agentId &&
    (op.kind == .backup || op.kind == .restore || op.status.active)

def finished (agentId : String) (ending : Ending) (c : CommandRow) (op : OperationRow) :
    OperationStatus :=
  if finishes agentId c op then ending.operation else op.status

lemma moves_updateOperation (db : Db) (now : Time) (agentId : String) (c : CommandRow)
    (kind : OperationKind) (id : String) (ending : Ending) (result : Option Json)
    (error : OperationRow → Option String) (p : OperationRow → Bool)
    (hwork : c.work = .operation kind id)
    (hguard : ∀ op, op.kind = kind → p op = (op.agentId == agentId &&
      (op.kind == .backup || op.kind == .restore || op.status.active))) :
    Moves db (updateOperation db kind id p
      (fun op => endOperation now ending result (error op) op) fun _ => rfl)
      (finished agentId ending c) := by
  unfold updateOperation
  refine moves_updateOperations db _ _ _ ?_ ?_ ?_ ?_ ?_
  iterate 4 exact fun _ => rfl
  intro op _
  unfold finished finishes
  rw [hwork]
  by_cases hkey : op.key = (kind, id)
  · obtain ⟨hkind, hid⟩ := Prod.mk.injEq .. ▸ hkey
    rw [hguard op hkind]
    subst hkind hid
    by_cases hagent : (op.agentId == agentId &&
      (op.kind == .backup || op.kind == .restore || op.status.active)) = true
    · rw [if_pos (by simp [OperationRow.key] at hagent ⊢; exact hagent),
        if_pos (by simp at hagent ⊢; exact hagent)]
      rfl
    · rw [if_neg (by simp [OperationRow.key] at hagent ⊢; exact hagent),
        if_neg (by simp at hagent ⊢; exact hagent)]
  · have hne : ¬ (Work.operation kind id = .operation op.kind op.id) := by
      intro heq
      injection heq with hkind hid
      exact hkey (by rw [OperationRow.key, hkind, hid])
    simp [hkey, hne]

section Finish

variable {db db' : Db} {now : Time} {agentId id : String} {ending : Ending} {result : Json}
  {c : CommandRow}

lemma moves_finishBackup (hwork : c.work = .operation .backup id)
    (h : finishBackup db now agentId id ending result = some db') :
    Moves db db' (finished agentId ending c) := by
  unfold finishBackup at h
  obtain ⟨kept, -, h⟩ := Option.bind_eq_some_iff.mp h
  have hmove := moves_updateOperation db now agentId c .backup id ending (some kept)
    (·.error) (·.agentId == agentId) hwork (by intro op hkind; simp [hkind])
  dsimp only at h
  split at h <;> obtain rfl := Option.some.inj h
  · exact hmove
  · exact hmove.andThen rfl rfl rfl

lemma moves_finishRestore (hwork : c.work = .operation .restore id)
    (h : finishRestore db now agentId id ending result = some db') :
    Moves db db' (finished agentId ending c) := by
  unfold finishRestore at h
  obtain ⟨kept, -, h⟩ := Option.bind_eq_some_iff.mp h
  have hmove := moves_updateOperation db now agentId c .restore id ending (some kept)
    (·.error) (·.agentId == agentId) hwork (by intro op hkind; simp [hkind])
  dsimp only at h
  split at h <;> obtain rfl := Option.some.inj h
  · exact hmove.andThen rfl rfl rfl
  · exact hmove

lemma moves_finishAction (hwork : c.work = .operation .action id)
    (h : finishAction db now agentId id ending result = some db') :
    Moves db db' (finished agentId ending c) := by
  unfold finishAction at h
  obtain ⟨safe, -, h⟩ := Option.bind_eq_some_iff.mp h
  obtain ⟨kept, -, h⟩ := Option.bind_eq_some_iff.mp h
  obtain ⟨error, -, h⟩ := Option.bind_eq_some_iff.mp h
  have hmove := moves_updateOperation db now agentId c .action id ending (some kept)
    (fun _ => error) (ofAgentActive agentId) hwork
    (by intro op hkind; rw [hkind]; rfl)
  dsimp only at h
  split at h <;> obtain rfl := Option.some.inj h
  · exact hmove.andThen rfl rfl rfl
  · exact hmove

lemma moves_finishLogs (hwork : c.work = .operation .logs id)
    (h : finishLogs db now agentId id ending result = some db') :
    Moves db db' (finished agentId ending c) := by
  unfold finishLogs at h
  obtain ⟨kept, -, h⟩ := Option.bind_eq_some_iff.mp h
  obtain ⟨error, -, h⟩ := Option.bind_eq_some_iff.mp h
  obtain rfl := Option.some.inj h
  exact moves_updateOperation db now agentId c .logs id ending kept
    (fun _ => error) (ofAgentActive agentId) hwork
    (by intro op hkind; rw [hkind]; rfl)

lemma moves_finishDeployment (hwork : c.work = .operation .deployment id)
    (h : finishDeployment db now agentId id ending result = some db') :
    Moves db db' (finished agentId ending c) := by
  unfold finishDeployment at h
  obtain ⟨safe, -, h⟩ := Option.bind_eq_some_iff.mp h
  obtain ⟨kept, -, h⟩ := Option.bind_eq_some_iff.mp h
  obtain ⟨error, -, h⟩ := Option.bind_eq_some_iff.mp h
  have hmove := moves_updateOperation db now agentId c .deployment id ending (some kept)
    (fun _ => error) (ofAgentActive agentId) hwork
    (by intro op hkind; rw [hkind]; rfl)
  dsimp only at h
  split at h <;> obtain rfl := Option.some.inj h
  · exact hmove.andThen rfl rfl rfl
  · exact hmove

/-- Work that is no operation ends without a move. -/
lemma moves_finished_same (hwork : ∀ kind id, c.work ≠ .operation kind id)
    (hc : db'.commands = db.commands) (ho : db'.operations = db.operations)
    (hs : ∀ id, (db.managedStacks.find? id).isSome → (db'.managedStacks.find? id).isSome) :
    Moves db db' (finished agentId ending c) := by
  obtain ⟨G, hG, hmove⟩ := moves_same _ _ hc ho hs
  refine ⟨G, hG, ?_⟩
  intro op hop
  rw [hmove op hop]
  simp [finished, finishes, hwork op.kind op.id]

lemma syncFailed_same (db : Db) (agentId : String) (c : CommandRow) (ending : Ending) :
    (syncFailed db agentId c ending).commands = db.commands ∧
    (syncFailed db agentId c ending).operations = db.operations ∧
    (syncFailed db agentId c ending).managedStacks = db.managedStacks := by
  cases ending <;> exact ⟨rfl, rfl, rfl⟩

lemma finishStack_same (db : Db) (agentId stackId : String) (ending : Ending) :
    (finishStack db agentId stackId ending).commands = db.commands ∧
    (finishStack db agentId stackId ending).operations = db.operations ∧
    ∀ id, (db.managedStacks.find? id).isSome →
      ((finishStack db agentId stackId ending).managedStacks.find? id).isSome := by
  unfold finishStack
  by_cases hpending : hasPending db (.stackSync stackId)
  · rw [if_pos hpending]
    exact ⟨rfl, rfl, fun _ h => h⟩
  · rw [if_neg hpending]
    refine ⟨rfl, rfl, ?_⟩
    intro k hk
    rw [Table.find?_update, Option.isSome_map]
    exact hk

lemma finishRoute_same (db : Db) (agentId routeId : String) (ending : Ending) :
    (finishRoute db agentId routeId ending).commands = db.commands ∧
    (finishRoute db agentId routeId ending).operations = db.operations ∧
    (finishRoute db agentId routeId ending).managedStacks = db.managedStacks := by
  unfold finishRoute
  by_cases hpending : hasPending db (.routeSync routeId)
  · rw [if_pos hpending]
    exact ⟨rfl, rfl, rfl⟩
  · rw [if_neg hpending]
    exact ⟨rfl, rfl, rfl⟩

lemma finishConnector_same {connectorId : String} {revision : Nat}
    (h : finishConnector db agentId connectorId revision ending result = some db') :
    db'.commands = db.commands ∧ db'.operations = db.operations ∧
      db'.managedStacks = db.managedStacks := by
  unfold finishConnector at h
  obtain ⟨lastError, -, h⟩ := Option.bind_eq_some_iff.mp h
  obtain rfl := Option.some.inj h
  exact ⟨rfl, rfl, rfl⟩

lemma moves_finishWork (h : finishWork db now agentId c ending result = some db') :
    Moves db db' (finished agentId ending c) := by
  unfold finishWork at h
  cases hwork : c.work with
  | operation kind id =>
    rw [hwork] at h
    cases kind with
    | backup => exact moves_finishBackup hwork h
    | restore => exact moves_finishRestore hwork h
    | action => exact moves_finishAction hwork h
    | logs => exact moves_finishLogs hwork h
    | deployment => exact moves_finishDeployment hwork h
  | connectorSync connectorId revision =>
    rw [hwork] at h
    obtain ⟨db₁, hfinish, h⟩ := Option.bind_eq_some_iff.mp h
    obtain rfl := Option.some.inj h
    obtain ⟨hc, ho, hs⟩ := finishConnector_same hfinish
    obtain ⟨hc', ho', hs'⟩ := syncFailed_same db₁ agentId c ending
    refine moves_finished_same (by simp [hwork]) (hc'.trans hc) (ho'.trans ho) ?_
    intro k hk
    rwa [hs', hs]
  | stackSync stackId =>
    rw [hwork] at h
    obtain rfl := Option.some.inj h
    obtain ⟨hc, ho, hs⟩ := finishStack_same db agentId stackId ending
    obtain ⟨hc', ho', hs'⟩ := syncFailed_same (finishStack db agentId stackId ending) agentId c
      ending
    refine moves_finished_same (by simp [hwork]) (hc'.trans hc) (ho'.trans ho) ?_
    intro k hk
    rw [hs']
    exact hs k hk
  | routeSync routeId =>
    rw [hwork] at h
    obtain rfl := Option.some.inj h
    obtain ⟨hc, ho, hs⟩ := finishRoute_same db agentId routeId ending
    obtain ⟨hc', ho', hs'⟩ := syncFailed_same (finishRoute db agentId routeId ending) agentId c
      ending
    refine moves_finished_same (by simp [hwork]) (hc'.trans hc) (ho'.trans ho) ?_
    intro k hk
    rwa [hs', hs]
  | connectorRemove connectorId revision =>
    rw [hwork] at h
    obtain rfl := Option.some.inj h
    exact moves_finished_same (by simp [hwork]) rfl rfl fun _ h => h
  | plain type payload =>
    rw [hwork] at h
    obtain rfl := Option.some.inj h
    exact moves_finished_same (by simp [hwork]) rfl rfl fun _ h => h

end Finish

/-- A completion changes nothing, or the command was claimed and its row and work are
written. -/
lemma completeCommand_cases {db db' : Db} {now : Time} {agentId commandId : String}
    {ending : Ending} {result : Json} {answer : Completion}
    (h : completeCommand db now agentId commandId ending result = some (db', answer)) :
    db' = db ∨ ∃ current kept, db.commands.find? commandId = some current ∧
      current.agentId = agentId ∧ current.status = .claimed ∧
      finishWork (db.updateCommands (fun c => c.id = commandId && c.agentId = agentId)
        (completeRow now ending kept) fun _ => rfl) now agentId current ending result =
          some db' := by
  unfold completeCommand at h
  cases hfound : (db.commands.find? commandId).filter (·.agentId = agentId) with
  | none =>
    rw [hfound] at h
    exact .inl (Prod.mk.inj (Option.some.inj h)).1.symm
  | some current =>
    rw [hfound] at h
    rw [Option.filter_eq_some_iff, decide_eq_true_eq] at hfound
    dsimp only at h
    split_ifs at h with hcast hsame hclaimed
    · exact .inl (Prod.mk.inj (Option.some.inj h)).1.symm
    · exact .inl (Prod.mk.inj (Option.some.inj h)).1.symm
    · obtain ⟨kept, -, h⟩ := Option.bind_eq_some_iff.mp h
      obtain ⟨db₁, hfinish, h⟩ := Option.bind_eq_some_iff.mp h
      obtain rfl := (Prod.mk.inj (Option.some.inj h)).1
      exact .inr ⟨current, kept, hfound.1, hfound.2, not_not.mp hclaimed, hfinish⟩

lemma mapped_finishWork {db db' : Db} {now : Time} {agentId commandId : String}
    {ending : Ending} {result kept : Json} {current : CommandRow}
    (h : finishWork (db.updateCommands (fun c => c.id = commandId && c.agentId = agentId)
      (completeRow now ending kept) fun _ => rfl) now agentId current ending result = some db') :
    ∃ G, Mapped db db' (fun c => if (c.id = commandId && c.agentId = agentId : Bool) then
        completeRow now ending kept c else c) G ∧
      ∀ op ∈ db.operations.rows, (G op).status = finished agentId ending current op := by
  have hF := mapped_updateCommands db (fun c => c.id = commandId && c.agentId = agentId)
    (completeRow now ending kept) (fun _ => rfl) (fun _ => rfl) fun _ => rfl
  obtain ⟨G, hG, hmove⟩ := moves_finishWork h
  exact ⟨G, hF.trans hG, hmove⟩

lemma good_completeCommand {db db' : Db} {now : Time} {agentId commandId : String}
    {ending : Ending} {result : Json} {answer : Completion}
    (h : completeCommand db now agentId commandId ending result = some (db', answer)) :
    Good db db' := by
  intro hdb
  rcases completeCommand_cases h with rfl | ⟨current, kept, hfound, hagent, hclaimed, hfinish⟩
  · exact ⟨hdb, .refl _⟩
  have hid := Table.key_find? hfound
  have hmem := Table.mem_of_find? hfound
  obtain ⟨G, hmapped, hmove⟩ := mapped_finishWork hfinish
  -- The row that is written, and the operation that moves with it.
  have hchosen : ∀ c ∈ db.commands.rows,
      (c.id = commandId && c.agentId = agentId : Bool) = true ↔ c = current := by
    intro c hc
    rw [Bool.and_eq_true, decide_eq_true_eq, decide_eq_true_eq]
    constructor
    · exact fun h => eq_of_id hmem hc (h.1.trans hid.symm)
    · rintro rfl
      exact ⟨hid, hagent⟩
  have hended : ∀ op ∈ db.operations.rows, ∀ c, Linked db op c →
      (finishes agentId current op ↔ c = current) := by
    intro op hop c hc
    unfold finishes
    rw [Bool.and_eq_true, Bool.and_eq_true, decide_eq_true_eq]
    constructor
    · exact fun h => (hdb.unique hop hc hmem h.1.1).symm
    · rintro rfl
      have hrunning := hc.status
      rw [hclaimed] at hrunning
      have hactive : op.status.active := by
        rw [command_claimed.mp hrunning.symm]
        rfl
      exact ⟨⟨hc.work, by simp [← hc.agent, hagent]⟩, by simp [hactive]⟩
  refine ⟨inStep_mapped hdb hmapped ?_, settles_mapped hmapped ?_ ?_⟩
  · intro op hop c hc
    rw [hmove op hop]
    unfold finished
    by_cases heq : c = current
    · rw [if_pos ((hchosen c hc.mem).mpr heq), if_pos ((hended op hop c hc).mpr heq)]
      cases ending <;> rfl
    · rw [if_neg (by rwa [hchosen c hc.mem]), if_neg (by rwa [hended op hop c hc]), hc.status]
  · intro c hc hterminal
    by_cases heq : c = current
    · rw [heq, hclaimed] at hterminal
      rcases hterminal with h | h <;> cases h
    · rw [if_neg (by rwa [hchosen c hc])]
  · intro op hop hterminal
    rw [hmove op hop]
    unfold finished
    obtain ⟨c, hc⟩ := hdb.command op hop
    by_cases heq : c = current
    · have hstatus := hc.status
      rw [heq, hclaimed] at hstatus
      rw [command_claimed.mp hstatus.symm] at hterminal
      rcases hterminal with h | h <;> cases h
    · rw [if_neg (by rwa [hended op hop c hc])]

/-! ### The sweeps -/

/-- The operations that fail with a stale command. -/
def failing (c : CommandRow) (op : OperationRow) : Bool :=
  c.work matches .operation _ _ && c.work.type == op.kind.type && awaits c.id op.kind op

def swept (l : List CommandRow) (op : OperationRow) : OperationStatus :=
  if l.any (failing · op) then .failed else op.status

lemma type_injective {kind kind' : OperationKind} (h : kind.type = kind'.type) :
    kind = kind' := by
  cases kind <;> cases kind' <;> first | rfl | (exact absurd h (by decide))

lemma moves_failAwaiting (db : Db) (now : Time) (kind : OperationKind) (id : String)
    (c : CommandRow) (p : OperationRow → Bool) (error : OperationRow → Option String)
    (hwork : c.work = .operation kind id)
    (hguard : ∀ op ∈ db.operations.rows, op.kind = kind → p op) :
    Moves db (failAwaiting db now kind c.id p error) (swept [c]) := by
  unfold failAwaiting
  refine moves_updateOperations db _ _ _ ?_ ?_ ?_ ?_ ?_
  iterate 4 exact fun _ => rfl
  intro op hop
  unfold swept failing
  rw [List.any_cons, List.any_nil, Bool.or_false, hwork]
  by_cases hkind : op.kind = kind
  · subst hkind
    rw [hguard op hop rfl]
    by_cases hawaits : awaits c.id op.kind op
    · simp [hawaits, Work.type, endOperation, Ending.operation]
    · simp [hawaits]
  · have hne : op.kind.type ≠ kind.type := fun h => hkind (type_injective h)
    simp [awaits, hkind, Work.type, Ne.symm hne]

/-- Work that is no operation fails without a move. -/
lemma moves_swept_same {db db' : Db} {c : CommandRow}
    (hwork : ∀ kind id, c.work ≠ .operation kind id) (hc : db'.commands = db.commands)
    (ho : db'.operations = db.operations) (hs : db'.managedStacks = db.managedStacks) :
    Moves db db' (swept [c]) := by
  obtain ⟨G, hG, hmove⟩ := moves_same db db' hc ho fun _ h => by rwa [hs]
  refine ⟨G, hG, ?_⟩
  intro op hop
  have hnot : failing c op = false := by
    unfold failing
    split
    · rename_i kind id hoperation
      exact absurd hoperation (hwork kind id)
    · rfl
  rw [hmove op hop]
  simp [swept, hnot]

lemma moves_failWork (db : Db) (now : Time) (c : CommandRow)
    (hstack : ∀ op ∈ db.operations.rows, ∀ id, op.subject.stackId = some id →
      (db.managedStacks.find? id).isSome) : Moves db (failWork now db c) (swept [c]) := by
  have honStack : ∀ op ∈ db.operations.rows, op.kind = .backup ∨ op.kind = .restore →
      onStack db op := by
    intro op hop hkind
    cases hsubject : op.subject with
    | backup stackId target stackRevision =>
      have := hstack op hop stackId (by rw [hsubject]; rfl)
      simp [onStack, hsubject, Subject.stackId, this]
    | restore stackId backupId =>
      have := hstack op hop stackId (by rw [hsubject]; rfl)
      simp [onStack, hsubject, Subject.stackId, this]
    | _ => simp [OperationRow.kind, hsubject, Subject.kind] at hkind
  unfold failWork
  cases hwork : c.work with
  | operation kind id =>
    cases kind with
    | backup =>
      have hmove := moves_failAwaiting db now .backup id c (onStack db) (·.error) hwork
        fun op hop hkind => honStack op hop (.inl hkind)
      dsimp only
      split
      · exact hmove
      · exact hmove.andThen rfl rfl rfl
    | restore =>
      have hmove := moves_failAwaiting db now .restore id c (onStack db) (·.error) hwork
        fun op hop hkind => honStack op hop (.inr hkind)
      dsimp only
      split
      · exact hmove.andThen rfl rfl rfl
      · exact hmove
    | action =>
      have hmove := moves_failAwaiting db now .action id c (fun _ => true)
        (fun _ => some staleText) hwork fun _ _ _ => rfl
      dsimp only
      split
      · exact hmove.andThen rfl rfl rfl
      · exact hmove
    | logs =>
      exact moves_failAwaiting db now .logs id c (fun _ => true)
        (fun _ => some staleText) hwork fun _ _ _ => rfl
    | deployment =>
      have hmove := moves_failAwaiting db now .deployment id c (fun _ => true)
        (fun _ => some staleText) hwork fun _ _ _ => rfl
      dsimp only
      split
      · exact hmove.andThen rfl rfl rfl
      · exact hmove
  | _ => exact moves_swept_same (by simp [hwork]) rfl rfl rfl

lemma moves_foldl_failWork (now : Time) (l : List CommandRow) (db : Db)
    (hstack : ∀ op ∈ db.operations.rows, ∀ id, op.subject.stackId = some id →
      (db.managedStacks.find? id).isSome) :
    Moves db (l.foldl (failWork now) db) (swept l) := by
  induction l generalizing db with
  | nil =>
    obtain ⟨G, hG, hmove⟩ := moves_same db db rfl rfl fun _ h => h
    refine ⟨G, hG, ?_⟩
    intro op hop
    rw [hmove op hop]
    simp [swept]
  | cons c l ih =>
    obtain ⟨G, hG, hmove⟩ := moves_failWork db now c hstack
    have hstack' : ∀ op ∈ (failWork now db c).operations.rows, ∀ id,
        op.subject.stackId = some id →
          ((failWork now db c).managedStacks.find? id).isSome := by
      intro op hop id hid
      obtain ⟨op₀, hop₀, rfl⟩ := hG.mem_operations hop
      rw [(hG.operation op₀).2.1] at hid
      exact hG.managedStacks id (hstack op₀ hop₀ id hid)
    obtain ⟨G', hG', hmove'⟩ := ih (failWork now db c) hstack'
    refine ⟨G' ∘ G, hG.trans hG', ?_⟩
    intro op hop
    have hmem : G op ∈ (failWork now db c).operations.rows := by
      apply Table.mem_of_find? (k := op.key)
      rw [hG.operations, Table.find?_of_mem hop, Option.map_some]
    obtain ⟨hid, hsubject, -, hcommand⟩ := hG.operation op
    rw [Function.comp_apply, hmove' _ hmem]
    have hG_status := hmove op hop
    unfold swept at hG_status ⊢
    rw [List.any_cons, List.any_nil, Bool.or_false] at hG_status
    rw [List.any_cons]
    by_cases hhead : failing c op
    · rw [if_pos hhead] at hG_status
      by_cases hlater : l.any (failing · (G op)) <;> simp [hlater, hhead, hG_status]
    · rw [if_neg hhead] at hG_status
      have hfailing : ∀ c', failing c' (G op) = failing c' op := by
        intro c'
        unfold failing awaits OperationRow.kind
        rw [hsubject, hcommand, hG_status]
      simp [hfailing, hhead, hG_status]

lemma mapped_failStaleCommands {db : Db} (hdb : InStep db) (now staleBefore : Time) :
    ∃ G, Mapped db (failStaleCommands db now staleBefore)
        (fun c => if isStale staleBefore now c then failRow now c else c) G ∧
      ∀ op ∈ db.operations.rows, (G op).status =
        swept (db.commands.rows.filter (isStale staleBefore now)) op := by
  have hF := mapped_updateCommands db (isStale staleBefore now) (failRow now)
    (fun _ => rfl) (fun _ => rfl) fun _ => rfl
  obtain ⟨G, hG, hmove⟩ := moves_foldl_failWork now
    (db.commands.rows.filter (isStale staleBefore now))
    (db.updateCommands (isStale staleBefore now) (failRow now) fun _ => rfl) hdb.stack
  exact ⟨G, hF.trans hG, hmove⟩

lemma good_failStaleCommands (db : Db) (now staleBefore : Time) :
    Good db (failStaleCommands db now staleBefore) := by
  intro hdb
  obtain ⟨G, hmapped, hmove⟩ := mapped_failStaleCommands hdb now staleBefore
  have hswept : ∀ op ∈ db.operations.rows, ∀ c, Linked db op c →
      ((db.commands.rows.filter (isStale staleBefore now)).any (failing · op) ↔
        isStale staleBefore now c) := by
    intro op hop c hc
    rw [List.any_eq_true]
    constructor
    · rintro ⟨c', hc', hfailing⟩
      rw [List.mem_filter] at hc'
      unfold failing awaits at hfailing
      simp only [Bool.and_eq_true, beq_iff_eq] at hfailing
      have hids : c'.id = c.id := Option.some.inj (hfailing.2.1.2.symm.trans hc.id)
      rw [← eq_of_id hc.mem hc'.1 hids]
      exact hc'.2
    · intro hstale
      refine ⟨c, List.mem_filter.mpr ⟨hc.mem, hstale⟩, ?_⟩
      have hactive : op.status.active := by
        rcases isStale_status hstale with hs | hs <;> rw [hc.status] at hs
        · rw [command_pending.mp hs]
          rfl
        · rw [command_claimed.mp hs]
          rfl
      simp [failing, awaits, hc.work, hc.id, hactive, Work.type]
  refine ⟨inStep_mapped hdb hmapped ?_, settles_mapped hmapped ?_ ?_⟩
  · intro op hop c hc
    rw [hmove op hop]
    unfold swept
    by_cases hstale : isStale staleBefore now c
    · rw [if_pos hstale, if_pos ((hswept op hop c hc).mpr hstale)]
      rfl
    · rw [if_neg hstale, if_neg (by rwa [hswept op hop c hc]), hc.status]
  · intro c hc hterminal
    by_cases hstale : isStale staleBefore now c
    · rcases isStale_status hstale with hs | hs <;>
        simp [hs, CommandStatus.terminal] at hterminal
    · rw [if_neg hstale]
  · intro op hop hterminal
    rw [hmove op hop]
    unfold swept
    obtain ⟨c, hc⟩ := hdb.command op hop
    by_cases hstale : isStale staleBefore now c
    · rcases isStale_status hstale with hs | hs <;> rw [hc.status] at hs
      · rw [command_pending.mp hs] at hterminal
        rcases hterminal with h | h <;> cases h
      · rw [command_claimed.mp hs] at hterminal
        rcases hterminal with h | h <;> cases h
    · rw [if_neg (by rwa [hswept op hop c hc])]

/-- A purge changes results only. -/
lemma mapped_purgeRuntimeLogResults (db : Db) (completedBefore : Time) :
    ∃ F G, Mapped db (purgeRuntimeLogResults db completedBefore) F G ∧
      (∀ c, (F c).status = c.status) ∧ ∀ op, (G op).status = op.status := by
  have hG := mapped_updateOperations db (expired completedBefore)
    (fun op => { op with result := none }) (fun _ => rfl) (fun _ => rfl) (fun _ => rfl)
    (fun _ => rfl) fun _ => rfl
  set ids := (db.operations.rows.filter (expired completedBefore)).filterMap (·.commandId)
  have hF := mapped_updateCommands
    (db.updateOperations (expired completedBefore) (fun op => { op with result := none })
      fun _ => rfl)
    (fun c => ids.contains c.id && c.work.type == OperationKind.logs.type)
    (fun c => { c with result := some ((c.result.map (Json.without "logs")).getD (.obj [])) })
    (fun _ => rfl) (fun _ => rfl) fun _ => rfl
  refine ⟨_, _, hG.trans hF, fun c => ?_, fun op => ?_⟩
  all_goals
    simp only [Function.comp_apply, id_eq]
    split_ifs <;> rfl

lemma good_purgeRuntimeLogResults (db : Db) (completedBefore : Time) :
    Good db (purgeRuntimeLogResults db completedBefore) := by
  intro hdb
  obtain ⟨F, G, hmapped, hF, hG⟩ := mapped_purgeRuntimeLogResults db completedBefore
  refine ⟨inStep_mapped hdb hmapped ?_, settles_mapped hmapped ?_ ?_⟩
  · intro op _ c hc
    rw [hF, hG, hc.status]
  · intro c _ _
    exact hF c
  · intro op _ _
    exact hG op

/-! ### Creations -/

/-- `db'` is `db` with one row more in each table, and the two are linked. -/
structure Added (db db' : Db) (op : OperationRow) (c : CommandRow) : Prop where
  commands : ∀ id, db'.commands.find? id = if id = c.id then some c else db.commands.find? id
  operations : ∀ key, db'.operations.find? key =
    if key = op.key then some op else db.operations.find? key
  newCommand : db.commands.find? c.id = none
  newOperation : db.operations.find? op.key = none
  managedStacks : db'.managedStacks = db.managedStacks
  commandId : op.commandId = some c.id
  work : c.work = .operation op.kind op.id
  agent : c.agentId = op.agentId
  status : c.status = .pending ∧ op.status = .pending
  stack : ∀ id, op.subject.stackId = some id → (db.managedStacks.find? id).isSome

lemma Added.inStep {db db' : Db} {op c} (h : Added db db' op c) (hdb : InStep db) :
    InStep db' where
  command := by
    intro op' hop'
    have hfound := Table.find?_of_mem hop'
    rw [h.operations] at hfound
    by_cases hkey : op'.key = op.key
    · rw [if_pos hkey] at hfound
      obtain rfl := Option.some.inj hfound
      refine ⟨c, h.commandId, ?_, h.work, h.agent, ?_⟩
      · rw [h.commands, if_pos rfl]
      · rw [h.status.1, h.status.2]
        rfl
    · rw [if_neg hkey] at hfound
      obtain ⟨c', hc'⟩ := hdb.command op' (Table.mem_of_find? hfound)
      refine ⟨c', hc'.id, ?_, hc'.work, hc'.agent, hc'.status⟩
      have hne : c'.id ≠ c.id := by
        intro heq
        have := hc'.found
        rw [heq, h.newCommand] at this
        cases this
      rw [h.commands, if_neg hne, hc'.found]
  operation := by
    intro c' hc' kind id hwork
    have hfound := Table.find?_of_mem hc'
    rw [h.commands] at hfound
    by_cases hid : c'.id = c.id
    · rw [if_pos hid] at hfound
      obtain rfl := Option.some.inj hfound
      rw [h.work] at hwork
      injection hwork with hkind hid
      refine ⟨op, ?_, h.commandId⟩
      rw [h.operations, ← hkind, ← hid]
      exact if_pos rfl
    · rw [if_neg hid] at hfound
      obtain ⟨op', hop', hcommand⟩ := hdb.operation c' (Table.mem_of_find? hfound) kind id hwork
      refine ⟨op', ?_, hcommand⟩
      have hne : (kind, id) ≠ op.key := by
        intro heq
        rw [heq, h.newOperation] at hop'
        cases hop'
      rw [h.operations, if_neg hne, hop']
  stack := by
    intro op' hop' id hid
    have hfound := Table.find?_of_mem hop'
    rw [h.operations] at hfound
    rw [h.managedStacks]
    by_cases hkey : op'.key = op.key
    · rw [if_pos hkey] at hfound
      obtain rfl := Option.some.inj hfound
      exact h.stack id hid
    · rw [if_neg hkey] at hfound
      exact hdb.stack op' (Table.mem_of_find? hfound) id hid

lemma Added.settles {db db' : Db} {op c} (h : Added db db' op c) : Settles db db' where
  commands := by
    intro id c' hc'
    have hne : id ≠ c.id := by
      rintro rfl
      rw [h.newCommand] at hc'
      cases hc'
    exact ⟨c', by rw [h.commands, if_neg hne, hc'], fun _ => rfl⟩
  operations := by
    intro key op' hop'
    have hne : key ≠ op.key := by
      rintro rfl
      rw [h.newOperation] at hop'
      cases hop'
    exact ⟨op', by rw [h.operations, if_neg hne, hop'], fun _ => rfl⟩

lemma Added.good {db db' : Db} {op c} (h : Added db db' op c) : Good db db' :=
  fun hdb => ⟨h.inStep hdb, h.settles⟩

/-- A method that creates an operation leaves everything alone or adds a linked pair. -/
def Creates (db db' : Db) : Prop := db' = db ∨ ∃ op c, Added db db' op c

lemma Creates.good {db db' : Db} (h : Creates db db') : Good db db' := by
  rcases h with rfl | ⟨op, c, h⟩
  · exact fun hdb => ⟨hdb, .refl _⟩
  · exact h.good

/-- The command first, the operation naming it second. -/
lemma added_commandFirst {db db₁ db₂ : Db} {now : Time} {commandId agentId : String}
    {work : Work} {op : OperationRow} (h : insertCommand db now commandId agentId work = some db₁)
    (h' : insertOperation db₁ op = some db₂) (hid : op.commandId = some commandId)
    (hwork : work = .operation op.kind op.id) (hagent : agentId = op.agentId)
    (hstatus : op.status = .pending)
    (hstack : ∀ id, op.subject.stackId = some id → (db.managedStacks.find? id).isSome) :
    Added db db₂ op { id := commandId, agentId, work, createdAt := now } := by
  unfold insertCommand at h
  obtain ⟨commands, hcommands, h⟩ := Option.bind_eq_some_iff.mp h
  obtain rfl := Option.some.inj h
  unfold insertOperation at h'
  obtain ⟨operations, hoperations, h'⟩ := Option.bind_eq_some_iff.mp h'
  obtain rfl := Option.some.inj h'
  exact ⟨Table.find?_insert hcommands, Table.find?_insert hoperations,
    Table.find?_new hcommands, Table.find?_new hoperations, rfl, hid, hwork, hagent,
    ⟨rfl, hstatus⟩, hstack⟩

/-- The operation first, then its command, then the link. -/
lemma added_operationFirst {db db₁ db₂ : Db} {now : Time} {commandId agentId : String}
    {work : Work} {op : OperationRow} (h : insertOperation db op = some db₁)
    (h' : insertCommand db₁ now commandId agentId work = some db₂)
    (hwork : work = .operation op.kind op.id) (hagent : agentId = op.agentId)
    (hstatus : op.status = .pending) (hstack : op.subject.stackId = none) :
    Added db (linkCommand db₂ op.key commandId) { op with commandId := some commandId }
      { id := commandId, agentId, work, createdAt := now } := by
  unfold insertOperation at h
  obtain ⟨operations, hoperations, h⟩ := Option.bind_eq_some_iff.mp h
  obtain rfl := Option.some.inj h
  unfold insertCommand at h'
  obtain ⟨commands, hcommands, h'⟩ := Option.bind_eq_some_iff.mp h'
  obtain rfl := Option.some.inj h'
  have hnew : db.operations.find? op.key = none := Table.find?_new hoperations
  refine ⟨Table.find?_insert hcommands, ?_, Table.find?_new hcommands, hnew, rfl, rfl, hwork,
    hagent, ⟨rfl, hstatus⟩, ?_⟩
  · intro key
    have hlinked := Table.find?_update operations (fun op' => op'.key = op.key)
      (fun op' => { op' with commandId := some commandId }) (fun _ => rfl) key
    refine hlinked.trans ?_
    rw [Table.find?_insert hoperations]
    by_cases hkey : key = op.key
    · rw [if_pos hkey, Option.map_some, if_pos (by simp)]
      exact (if_pos hkey).symm
    · rw [if_neg hkey]
      refine Eq.trans ?_ (if_neg hkey).symm
      cases hold : db.operations.find? key with
      | none => rfl
      | some old =>
        have holdKey := Table.key_find? hold
        rw [Option.map_some, if_neg (by simpa [holdKey] using hkey)]
  · intro id hid
    rw [hstack] at hid
    cases hid

lemma isSome_of_any {α : Type} {o : Option α} {p : α → Bool} (h : o.any p) : o.isSome := by
  cases o with
  | none => exact absurd h (by simp)
  | some a => rfl

section Creations

variable {db db' : Db} {now : Time} {operationId commandId : String} {answer : Creation}

lemma creates_createBackup {stackId target : String}
    (h : createBackup db now operationId commandId stackId target = some (db', answer)) :
    Creates db db' := by
  unfold createBackup at h
  cases hstack : db.managedStacks.find? stackId with
  | none =>
    rw [hstack] at h
    exact .inl (Prod.mk.inj (Option.some.inj h)).1.symm
  | some stack =>
    rw [hstack] at h
    dsimp only at h
    split_ifs at h with hready hactive
    · exact .inl (Prod.mk.inj (Option.some.inj h)).1.symm
    · exact .inl (Prod.mk.inj (Option.some.inj h)).1.symm
    · obtain ⟨db₁, hcommand, h⟩ := Option.bind_eq_some_iff.mp h
      obtain ⟨db₂, hoperation, h⟩ := Option.bind_eq_some_iff.mp h
      obtain rfl := (Prod.mk.inj (Option.some.inj h)).1
      refine .inr ⟨_, _, added_commandFirst hcommand hoperation rfl rfl rfl rfl ?_⟩
      intro id hid
      obtain rfl := Option.some.inj hid
      rw [hstack]
      rfl

lemma creates_createRestore {backupId : String}
    (h : createRestore db now operationId commandId backupId = some (db', answer)) :
    Creates db db' := by
  unfold createRestore at h
  split at h
  · split_ifs at h with hready hactive
    · exact .inl (Prod.mk.inj (Option.some.inj h)).1.symm
    · exact .inl (Prod.mk.inj (Option.some.inj h)).1.symm
    · obtain ⟨db₁, hcommand, h⟩ := Option.bind_eq_some_iff.mp h
      obtain ⟨db₂, hoperation, h⟩ := Option.bind_eq_some_iff.mp h
      obtain rfl := (Prod.mk.inj (Option.some.inj h)).1
      refine .inr ⟨_, _, added_commandFirst hcommand hoperation rfl rfl rfl rfl ?_⟩
      intro id hid
      rw [← Option.some.inj hid]
      simp only [Bool.or_eq_true, Bool.not_eq_true', not_or, Bool.not_eq_false] at hready
      exact isSome_of_any hready.1
  · exact .inl (Prod.mk.inj (Option.some.inj h)).1.symm

lemma creates_createRuntimeOperation {agentId action scope projectName : String}
    {serviceName : Option String}
    (h : createRuntimeOperation db now operationId commandId agentId action scope projectName
      serviceName = some (db', answer)) : Creates db db' := by
  unfold createRuntimeOperation at h
  dsimp only at h
  split_ifs at h with hclash hready
  · exact .inl (Prod.mk.inj (Option.some.inj h)).1.symm
  · exact .inl (Prod.mk.inj (Option.some.inj h)).1.symm
  · split at h
    · exact .inl (Prod.mk.inj (Option.some.inj h)).1.symm
    · rename_i inserted hinserted
      obtain ⟨db₁, hoperation, hcommand⟩ := Option.bind_eq_some_iff.mp hinserted
      obtain rfl := (Prod.mk.inj (Option.some.inj h)).1
      exact .inr ⟨_, _, added_operationFirst hoperation hcommand rfl rfl rfl rfl⟩

lemma creates_createRuntimeLogRequest {agentId projectName serviceName : String} {tail : Nat}
    {since : Option String}
    (h : createRuntimeLogRequest db now operationId commandId agentId projectName serviceName
      tail since = some (db', answer)) : Creates db db' := by
  unfold createRuntimeLogRequest at h
  split_ifs at h with hready
  · exact .inl (Prod.mk.inj (Option.some.inj h)).1.symm
  · obtain ⟨db₁, hoperation, h⟩ := Option.bind_eq_some_iff.mp h
    obtain ⟨db₂, hcommand, h⟩ := Option.bind_eq_some_iff.mp h
    obtain rfl := (Prod.mk.inj (Option.some.inj h)).1
    exact .inr ⟨_, _, added_operationFirst hoperation hcommand rfl rfl rfl rfl⟩

lemma creates_createDeploymentRun {deploymentId revisionId action : String}
    (h : createDeploymentRun db now operationId commandId deploymentId revisionId action =
      some (db', answer)) : Creates db db' := by
  unfold createDeploymentRun at h
  split at h
  · exact .inl (Prod.mk.inj (Option.some.inj h)).1.symm
  · split at h
    · exact .inl (Prod.mk.inj (Option.some.inj h)).1.symm
    · split at h
      · exact .inl (Prod.mk.inj (Option.some.inj h)).1.symm
      · obtain ⟨db₁, hcommand, h⟩ := Option.bind_eq_some_iff.mp h
        obtain ⟨db₂, hoperation, h⟩ := Option.bind_eq_some_iff.mp h
        obtain rfl := (Prod.mk.inj (Option.some.inj h)).1
        have hadded := added_commandFirst hcommand hoperation rfl rfl rfl rfl
          (by intro id hid; cases hid)
        exact .inr ⟨_, _, ⟨hadded.commands, hadded.operations, hadded.newCommand,
          hadded.newOperation, hadded.managedStacks, hadded.commandId, hadded.work,
          hadded.agent, hadded.status, hadded.stack⟩⟩

end Creations

/-- Queueing commands about no operation leaves the pairs alone. -/
lemma good_queued {db db' : Db} (h : Queued db db') : Good db db' := by
  intro hdb
  refine ⟨⟨?_, ?_, ?_⟩, ⟨?_, ?_⟩⟩
  · intro op hop
    rw [h.operations] at hop
    obtain ⟨c, hc⟩ := hdb.command op hop
    rcases h.kept c.id c hc.found with hsame | ⟨-, hfree, -⟩
    · exact ⟨c, hc.id, hsame, hc.work, hc.agent, hc.status⟩
    · exact absurd hc.work (hfree _ _)
  · intro c hc kind id hwork
    rw [h.operations]
    rcases h.queued c.id c (Table.find?_of_mem hc) with hsame | ⟨-, hfree⟩
    · exact hdb.operation c (Table.mem_of_find? hsame) kind id hwork
    · exact absurd hwork (hfree kind id)
  · intro op hop id hid
    rw [h.operations] at hop
    exact h.managedStacks id (hdb.stack op hop id hid)
  · intro id c hc
    rcases h.kept id c hc with hsame | ⟨hpending, -, c', hc', -⟩
    · exact ⟨c, hsame, fun _ => rfl⟩
    · refine ⟨c', hc', ?_⟩
      rintro (hs | hs) <;> rw [hpending] at hs <;> cases hs
  · intro key op hop
    exact ⟨op, by rw [h.operations, hop], fun _ => rfl⟩

/-! ### Runs -/

/-- One transaction. -/
def Step (db db' : Db) : Prop := ∃ t : Transaction, t.run db db'

abbrev Run : Db → Db → Prop := Relation.ReflTransGen Step

/-- **Step lemma.** Every transaction keeps commands and operations in step and settled ones
settled. -/
lemma good_run_transaction {db db' : Db} (t : Transaction) (h : t.run db db') :
    Good db db' := by
  cases t with
  | createBackup =>
    obtain ⟨_, h⟩ := h
    exact (creates_createBackup h).good
  | createRestore =>
    obtain ⟨_, h⟩ := h
    exact (creates_createRestore h).good
  | createRuntimeOperation =>
    obtain ⟨_, h⟩ := h
    exact (creates_createRuntimeOperation h).good
  | createRuntimeLogRequest =>
    obtain ⟨_, h⟩ := h
    exact (creates_createRuntimeLogRequest h).good
  | createDeploymentRun =>
    obtain ⟨_, h⟩ := h
    exact (creates_createDeploymentRun h).good
  | createCommand =>
    obtain ⟨_, h⟩ := h
    exact good_queued (queued_createCommand h)
  | createConnector =>
    obtain ⟨_, h⟩ := h
    exact good_queued (queued_createConnector h)
  | updateConnector =>
    obtain ⟨_, h⟩ := h
    exact good_queued (queued_updateConnector h)
  | createRoute =>
    obtain ⟨_, h⟩ := h
    exact good_queued (queued_createRoute h)
  | updateRoute =>
    obtain ⟨_, h⟩ := h
    exact good_queued (queued_updateRoute h)
  | queueStackSync => exact good_queued (queued_queueStackSync h)
  | claimCommands now agentId limit locked =>
    obtain rfl := h
    exact good_claimCommands db now agentId limit locked
  | completeCommand =>
    obtain ⟨_, h⟩ := h
    exact good_completeCommand h
  | failStaleCommands now staleBefore =>
    obtain rfl := h
    exact good_failStaleCommands db now staleBefore
  | purgeRuntimeLogResults completedBefore =>
    obtain rfl := h
    exact good_purgeRuntimeLogResults db completedBefore
  | other =>
    obtain ⟨hcommands, hoperations, -, -, hstacks⟩ := h
    exact good_queued (.same hcommands hoperations hstacks)

/-- **Run lemma.** -/
lemma good_run {db db' : Db} (h : Run db db') : Good db db' := by
  intro hdb
  induction h with
  | refl => exact ⟨hdb, .refl db⟩
  | tail _ hstep ih =>
    obtain ⟨hmid, hsettles⟩ := ih
    obtain ⟨t, hstep⟩ := hstep
    obtain ⟨hlast, hsettles'⟩ := good_run_transaction t hstep hmid
    exact ⟨hlast, hsettles.trans hsettles'⟩

lemma inStep_empty {db : Db} (hcommands : db.commands = ∅) (hoperations : db.operations = ∅) :
    InStep db where
  command := by
    intro op hop
    rw [hoperations] at hop
    cases hop
  operation := by
    intro c hc
    rw [hcommands] at hc
    cases hc
  stack := by
    intro op hop
    rw [hoperations] at hop
    cases hop

/-- The command row of an operation: of the matching type and payload, on the same agent and
in the corresponding status. -/
structure Corresponds (op : OperationRow) (c : CommandRow) : Prop where
  id : op.commandId = some c.id
  work : c.work = .operation op.kind op.id
  agent : c.agentId = op.agentId
  status : c.status = op.status.command

/-- **Lock-step.** In every database a run reaches, each operation has exactly one command,
found by either key, on its agent and in the corresponding status; and what is terminal there
stays so on every further run. -/
theorem lock_step {db₀ db : Db} (hcommands : db₀.commands = ∅) (hoperations : db₀.operations = ∅)
    (hrun : Run db₀ db) :
    (∀ op ∈ db.operations.rows, ∃ c ∈ db.commands.rows, Corresponds op c ∧
      ∀ c' ∈ db.commands.rows,
        c'.work = .operation op.kind op.id ∨ op.commandId = some c'.id → c' = c) ∧
    ∀ db', Run db db' → Settles db db' := by
  obtain ⟨hdb, -⟩ := good_run hrun (inStep_empty hcommands hoperations)
  refine ⟨?_, fun db' h => (good_run h hdb).2⟩
  intro op hop
  obtain ⟨c, hc⟩ := hdb.command op hop
  refine ⟨c, hc.mem, ⟨hc.id, hc.work, hc.agent, hc.status⟩, ?_⟩
  rintro c' hc' (hwork | hid)
  · exact hdb.unique hop hc hc' hwork
  · have hids : c'.id = c.id := Option.some.inj (hid.symm.trans hc.id)
    exact eq_of_id hc.mem hc' hids

/-- An enabled stack on an enrolled agent. -/
def oneStack : Db :=
  let stack : StackRow :=
    { id := "stack", agentId := "agent", projectName := "shop", enabled := true, revision := 1 }
  { agents := ⟨[⟨"agent", true, true⟩], by decide⟩, managedStacks := ⟨[stack], by decide⟩ }

theorem lock_step_backup : ∃ db, db.operations.rows.length = 1 ∧
    (∀ op ∈ db.operations.rows, ∃ c ∈ db.commands.rows, Corresponds op c ∧
      ∀ c' ∈ db.commands.rows,
        c'.work = .operation op.kind op.id ∨ op.commandId = some c'.id → c' = c) ∧
    ∀ db', Run db db' → Settles db db' := by
  refine ⟨_, ?_, @lock_step oneStack _ rfl rfl
    (.single ⟨.createBackup 0 "backup" "command" "stack" "target", .created, rfl⟩)⟩
  rfl

end GatewayControl.LockStep
