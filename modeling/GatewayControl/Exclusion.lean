import GatewayControl.LockStep

/-!
Operations that exclude each other. A creating transaction takes a lock, looks for an active
operation its own would overlap with, and inserts; each of these is a statement of its own
here, and any other transaction may commit between two of them.
-/

namespace GatewayControl.Exclusion

open Database Store Transactions LockStep

/-! ### Creating transactions, statement by statement -/

/-- A stack's row, a deployment's row, or the advisory lock of an agent's project. -/
inductive Lock where
  | stack (id : String)
  | deployment (id : String)
  | project (agentId projectName : String)
deriving DecidableEq

inductive Request where
  | backup (stackId target : String)
  | restore (backupId : String)
  | runtimeOperation (agentId action scope projectName : String) (serviceName : Option String)
  | deploymentRun (deploymentId revisionId action : String)

/-- What a creating transaction knows once it holds its lock. -/
structure Draft where
  agentId : String
  subject : Subject

/-- The lock under which an operation is created. -/
def Draft.lock (d : Draft) : Option Lock :=
  match d.subject with
  | .backup stackId _ _ | .restore stackId _ => some (.stack stackId)
  | .action _ _ projectName _ => some (.project d.agentId projectName)
  | .deployment deploymentId _ _ _ => some (.deployment deploymentId)
  | .logs _ _ _ _ => none

def backupDraft (db : Db) (stackId target : String) : Option Draft :=
  (db.managedStacks.find? stackId).bind fun stack =>
    if stack.enabled && agentEnabled db stack.agentId then
      some ⟨stack.agentId, .backup stackId target stack.revision⟩
    else none

def restoreDraft (db : Db) (backupId : String) : Option Draft :=
  match db.operations.find? (.backup, backupId) with
  | some { subject := .backup stackId _ _, agentId, status := .succeeded, .. } =>
      if (db.managedStacks.find? stackId).any (·.enabled) && agentEnabled db agentId then
        some ⟨agentId, .restore stackId backupId⟩
      else none
  | _ => none

def runDraft (db : Db) (deploymentId revisionId action : String) : Option Draft :=
  (db.deployments.find? deploymentId).bind fun deployment =>
    if deployment.enabled && agentReady db deployment.agentId &&
        (db.revisions.find? revisionId).any (·.deploymentId == deploymentId) then
      some ⟨deployment.agentId,
        .deployment deploymentId revisionId deployment.currentRevisionId action⟩
    else none

/-- The locking statement: what it reads, unless the request is refused. -/
def Request.draft (db : Db) : Request → Option Draft
  | .backup stackId target => backupDraft db stackId target
  | .restore backupId => restoreDraft db backupId
  | .runtimeOperation agentId action scope projectName serviceName =>
      some ⟨agentId, .action action scope projectName serviceName⟩
  | .deploymentRun deploymentId revisionId action =>
      runDraft db deploymentId revisionId action

/-- An active run of the deployment. -/
def activeRun (deploymentId : String) (op : OperationRow) : Bool :=
  match op.subject with
  | .deployment id _ _ _ => id == deploymentId && op.status.active
  | _ => false

/-- The statement that looks for an active operation. -/
def Draft.active (db : Db) (d : Draft) : Bool :=
  match d.subject with
  | .backup stackId _ _ | .restore stackId _ => hasActiveStackOperation db stackId
  | .action _ _ projectName serviceName =>
      db.operations.rows.any (actionClashes d.agentId projectName serviceName)
  | .deployment deploymentId _ _ _ => db.operations.rows.any (activeRun deploymentId)
  | .logs _ _ _ _ => false

lemma launched_id (action : String) (d : DeploymentRow) :
    { d with status := if action = "stop" then .stopping else .deploying }.id = d.id := rfl

/-- The inserting statements; `none` where they insert nothing. -/
def Draft.insert (db : Db) (now : Time) (operationId commandId : String) (d : Draft) :
    Option Db :=
  let op : OperationRow := { id := operationId, subject := d.subject, agentId := d.agentId }
  match d.subject with
  | .action _ _ _ _ =>
      if !agentReady db d.agentId then none
      else do
        let db ← insertOperation db op
        let db ← insertCommand db now commandId d.agentId (.operation .action operationId)
        return linkCommand db (.action, operationId) commandId
  | .deployment deploymentId _ _ action => do
      let db ← insertCommand db now commandId d.agentId (.operation .deployment operationId)
      let db ← insertOperation db { op with commandId := some commandId }
      return setDeployment db (fun d => d.id = deploymentId)
        (fun d => { d with status := if action = "stop" then .stopping else .deploying })
        (launched_id action)
  | _ => do
      let db ← insertCommand db now commandId d.agentId (.operation op.kind operationId)
      insertOperation db { op with commandId := some commandId }

/-- The three parts of a creating transaction, with nothing in between. -/
def Request.Creates (r : Request) (db : Db) (now : Time) (operationId commandId : String)
    (db' : Db) : Prop :=
  ∃ d, r.draft db = some d ∧ d.active db = false ∧
    d.insert db now operationId commandId = some db'

section

variable {db db' : Db} {now : Time} {operationId commandId : String}

lemma creates_none {r : Request} (h : r.draft db = none) :
    ¬ r.Creates db now operationId commandId db' := by
  rintro ⟨d, hd, -⟩
  rw [h] at hd
  cases hd

lemma creates_some {r : Request} {d : Draft} (h : r.draft db = some d) :
    r.Creates db now operationId commandId db' ↔
      d.active db = false ∧ d.insert db now operationId commandId = some db' := by
  constructor
  · rintro ⟨d', hd', hactive, hinsert⟩
    obtain rfl := Option.some.inj (h.symm.trans hd')
    exact ⟨hactive, hinsert⟩
  · rintro ⟨hactive, hinsert⟩
    exact ⟨d, h, hactive, hinsert⟩

/-- Two insertions and the answer. -/
lemma bind_created {o : Option Db} {f : Db → Option Db} :
    (o.bind fun db => (f db).bind fun db => some (db, Creation.created)) =
      some (db', .created) ↔ o.bind f = some db' := by
  rcases o with _ | db₁
  · simp
  · rcases h : f db₁ with _ | db₂ <;> simp [h]

lemma createBackup_created {stackId target : String} :
    createBackup db now operationId commandId stackId target = some (db', .created) ↔
      (Request.backup stackId target).Creates db now operationId commandId db' := by
  unfold createBackup
  rcases hstack : db.managedStacks.find? stackId with _ | stack
  · have hdraft : (Request.backup stackId target).draft db = none := by
      simp [Request.draft, backupDraft, hstack]
    simp [creates_none hdraft]
  by_cases hready : stack.enabled = true ∧ agentEnabled db stack.agentId = true
  · obtain ⟨henabled, hagent⟩ := hready
    have hdraft : (Request.backup stackId target).draft db =
        some ⟨stack.agentId, .backup stackId target stack.revision⟩ := by
      simp [Request.draft, backupDraft, hstack, henabled, hagent]
    rw [creates_some hdraft]
    by_cases hactive : hasActiveStackOperation db stackId
    · simp [henabled, hagent, hactive, Draft.active]
    · simp only [henabled, hagent, hactive, Draft.active, Bool.not_true, Bool.or_self,
        Bool.false_eq_true, if_false, true_and]
      exact bind_created
  · have hdraft : (Request.backup stackId target).draft db = none := by
      simp only [Request.draft, backupDraft, hstack, Option.bind_some, Bool.and_eq_true, hready,
        if_false]
    have hnot : (!stack.enabled || !agentEnabled db stack.agentId) = true := by
      simpa [imp_iff_not_or] using hready
    simp [creates_none hdraft, hnot]

lemma createRestore_created {backupId : String} :
    createRestore db now operationId commandId backupId = some (db', .created) ↔
      (Request.restore backupId).Creates db now operationId commandId db' := by
  unfold createRestore
  split
  · next stackId _ _ agentId _ _ _ _ _ hbackup =>
    by_cases hready : (db.managedStacks.find? stackId).any (·.enabled) = true ∧
        agentEnabled db agentId = true
    · obtain ⟨henabled, hagent⟩ := hready
      have hdraft : (Request.restore backupId).draft db =
          some ⟨agentId, .restore stackId backupId⟩ := by
        simp [Request.draft, restoreDraft, hbackup, henabled, hagent]
      rw [creates_some hdraft]
      by_cases hactive : hasActiveStackOperation db stackId
      · simp [henabled, hagent, hactive, Draft.active]
      · simp only [henabled, hagent, hactive, Draft.active, Bool.not_true, Bool.or_self,
          Bool.false_eq_true, if_false, true_and]
        exact bind_created
    · have hdraft : (Request.restore backupId).draft db = none := by
        simp only [Request.draft, restoreDraft, hbackup, Bool.and_eq_true, hready, if_false]
      have hnot : (!(db.managedStacks.find? stackId).any (·.enabled) ||
          !agentEnabled db agentId) = true := by
        rw [not_and_or] at hready
        simpa using hready
      simp only [creates_none hdraft, hnot, if_true]
      simp
  · next hother =>
    have hdraft : (Request.restore backupId).draft db = none := by
      unfold Request.draft restoreDraft
      dsimp only
      split
      · next hbackup => exact absurd hbackup (hother _ _ _ _ _ _ _ _ _ _)
      · rfl
    simp [creates_none hdraft]

lemma createRuntimeOperation_created {agentId action scope projectName : String}
    {serviceName : Option String} :
    createRuntimeOperation db now operationId commandId agentId action scope projectName
        serviceName = some (db', .created) ↔
      (Request.runtimeOperation agentId action scope projectName serviceName).Creates db now
        operationId commandId db' := by
  have hdraft : (Request.runtimeOperation agentId action scope projectName serviceName).draft db =
      some ⟨agentId, .action action scope projectName serviceName⟩ := rfl
  rw [creates_some hdraft]
  unfold createRuntimeOperation
  by_cases hclash : db.operations.rows.any (actionClashes agentId projectName serviceName)
  · simp [hclash, Draft.active]
  rw [if_neg hclash]
  by_cases hready : agentReady db agentId
  · simp only [hready, Bool.not_true, Bool.false_eq_true, if_false, Draft.active, hclash,
      true_and, Draft.insert]
    rcases hoperation : insertOperation db
      { id := operationId, subject := .action action scope projectName serviceName, agentId }
      with _ | db₁
    · simp
    · rcases hcommand : insertCommand db₁ now commandId agentId (.operation .action operationId)
        with _ | db₂ <;> simp [hcommand]
  · simp [hready, Draft.insert]

lemma createDeploymentRun_created {deploymentId revisionId action : String} :
    createDeploymentRun db now operationId commandId deploymentId revisionId action =
        some (db', .created) ↔
      (Request.deploymentRun deploymentId revisionId action).Creates db now operationId commandId
        db' := by
  unfold createDeploymentRun
  rcases hfound : db.deployments.find? deploymentId with _ | deployment
  · have hdraft : (Request.deploymentRun deploymentId revisionId action).draft db = none := by
      simp [Request.draft, runDraft, hfound]
    simp [creates_none hdraft]
  by_cases hready : deployment.enabled = true ∧ agentReady db deployment.agentId = true ∧
      (db.revisions.find? revisionId).any (·.deploymentId == deploymentId) = true
  · obtain ⟨henabled, hagent, hrevision⟩ := hready
    have hdraft : (Request.deploymentRun deploymentId revisionId action).draft db =
        some ⟨deployment.agentId,
          .deployment deploymentId revisionId deployment.currentRevisionId action⟩ := by
      simp only [Request.draft, runDraft, hfound, Option.bind_some, henabled, hagent, hrevision,
        Bool.and_self, if_true]
    rw [creates_some hdraft]
    simp only [henabled, hagent, hrevision, Bool.not_true, Bool.or_self, Bool.false_eq_true,
      if_false, Draft.active, Draft.insert]
    change (if db.operations.rows.any (activeRun deploymentId) = true then _ else _) = _ ↔ _
    by_cases hactive : db.operations.rows.any (activeRun deploymentId)
    · simp [hactive]
    · rw [if_neg hactive]
      simp only [hactive, true_and]
      rcases hcommand : insertCommand db now commandId deployment.agentId
        (.operation .deployment operationId) with _ | db₁
      · simp
      · dsimp only [Option.bind_eq_bind, Option.bind_some]
        rcases hoperation : insertOperation db₁
          { id := operationId,
            subject := .deployment deploymentId revisionId deployment.currentRevisionId action,
            agentId := deployment.agentId, commandId := some commandId } with _ | db₂ <;> simp
  · have hdraft : (Request.deploymentRun deploymentId revisionId action).draft db = none := by
      simp only [Request.draft, runDraft, hfound, Option.bind_some, Bool.and_eq_true, and_assoc,
        hready, if_false]
    have hnot : (!deployment.enabled || !agentReady db deployment.agentId ||
        !(db.revisions.find? revisionId).any (·.deploymentId == deploymentId)) = true := by
      rw [not_and_or, not_and_or] at hready
      simpa [or_assoc] using hready
    simp only [creates_none hdraft, hnot, if_true]
    simp

end

/-! ### Overlaps -/

/-- An operation on this subject would overlap with `op`: on the same stack, on the same
deployment, or on the same project of the agent and there on a common service. -/
def clashes (agentId : String) (subject : Subject) (op : OperationRow) : Bool :=
  match subject, op.subject with
  | .backup stackId _ _, subject' | .restore stackId _, subject' =>
      subject'.stackId == some stackId
  | .action _ _ projectName serviceName, .action _ _ project service =>
      op.agentId == agentId && project == projectName &&
        (service.isNone || serviceName.isNone || service == serviceName)
  | .deployment deploymentId _ _ _, .deployment id _ _ _ => id == deploymentId
  | _, _ => false

/-- The two operations overlap. -/
def Overlap (op op' : OperationRow) : Prop := clashes op.agentId op.subject op'

/-- The check of a creating transaction is for an active operation that overlaps. -/
lemma active_eq_false {db : Db} {d : Draft} : d.active db = false ↔
    ∀ op ∈ db.operations.rows, op.status.active → clashes d.agentId d.subject op = false := by
  obtain ⟨agentId, subject⟩ := d
  have hany : ∀ p q : OperationRow → Bool, (∀ op, p op = (op.status.active && q op)) →
      (db.operations.rows.any p = false ↔
        ∀ op ∈ db.operations.rows, op.status.active → q op = false) := by
    intro p q hp
    rw [List.any_eq_false]
    refine forall₂_congr fun op _ => ?_
    rw [hp]
    cases op.status.active <;> simp
  cases subject with
  | backup stackId target stackRevision =>
    refine hany _ _ fun op => ?_
    rw [Bool.and_comm]
    rfl
  | restore stackId backupId =>
    refine hany _ _ fun op => ?_
    rw [Bool.and_comm]
    rfl
  | action action scope projectName serviceName =>
    refine hany _ _ fun op => ?_
    unfold actionClashes clashes
    cases op.subject <;> simp [Bool.and_comm, Bool.and_left_comm, Bool.and_assoc]
  | logs projectName serviceName tail since =>
    exact iff_of_true rfl fun _ _ _ => rfl
  | deployment deploymentId revisionId priorRevisionId action =>
    refine hany _ _ fun op => ?_
    unfold activeRun clashes
    cases op.subject <;> simp [Bool.and_comm]

/-- What overlaps is created under one lock. -/
lemma clashes_lock {agentId : String} {subject : Subject} {op : OperationRow}
    (h : clashes agentId subject op) :
    Draft.lock ⟨agentId, subject⟩ = Draft.lock ⟨op.agentId, op.subject⟩ := by
  unfold clashes at h
  unfold Draft.lock
  cases subject <;> cases hs : op.subject <;> rw [hs] at h <;>
    simp_all [Subject.stackId]

lemma clashes_symm {op op' : OperationRow} (h : Overlap op op') : Overlap op' op := by
  unfold Overlap clashes at h ⊢
  cases hs : op.subject <;> cases hs' : op'.subject <;> rw [hs, hs'] at h <;>
    simp_all [Subject.stackId]
  · obtain ⟨-, (hnone | hnone) | heq⟩ := h
    · exact .inl (.inr hnone)
    · exact .inl (.inl hnone)
    · exact .inr heq.symm

/-! ### Interleavings -/

inductive Session where
  | idle
  | holding (d : Draft) (checked : Bool)

structure State where
  db : Db
  session : Nat → Session

/-- The four kinds of creation that take a lock. -/
def creates : Transaction → Bool
  | .createBackup _ _ _ _ _ | .createRestore _ _ _ _ | .createRuntimeOperation _ _ _ _ _ _ _ _
  | .createDeploymentRun _ _ _ _ _ _ => true
  | _ => false

/-- Another session holds the lock. -/
def Held (s : State) (i : Nat) (d : Draft) : Prop :=
  ∃ j d' checked, j ≠ i ∧ s.session j = .holding d' checked ∧ d'.lock = d.lock

/-- A session takes a lock nobody holds, finds no active operation, inserts and commits; or
it ends at any point. Other transactions commit whenever they like. -/
inductive Step : State → State → Prop where
  | take {s : State} (i : Nat) (r : Request) {d : Draft} (idle : s.session i = .idle)
      (read : r.draft s.db = some d) (free : ¬ Held s i d) :
      Step s { s with session := Function.update s.session i (.holding d false) }
  | check {s : State} (i : Nat) {d : Draft} (holding : s.session i = .holding d false)
      (clear : d.active s.db = false) :
      Step s { s with session := Function.update s.session i (.holding d true) }
  | insert {s : State} (i : Nat) {d : Draft} {now : Time} {operationId commandId : String}
      {db : Db} (holding : s.session i = .holding d true)
      (run : d.insert s.db now operationId commandId = some db) :
      Step s ⟨db, Function.update s.session i .idle⟩
  | leave {s : State} (i : Nat) :
      Step s { s with session := Function.update s.session i .idle }
  | other {s : State} {db : Db} (t : Transaction) (noLock : creates t = false)
      (run : t.run s.db db) : Step s { s with db }

abbrev Run : State → State → Prop := Relation.ReflTransGen Step

/-! ### What other transactions leave active -/

/-- No stack is lost, and an operation that is active after was active before with the same
subject, or is a request for logs. -/
structure Shrinks (db db' : Db) : Prop where
  managedStacks : ∀ id, (db.managedStacks.find? id).isSome → (db'.managedStacks.find? id).isSome
  operations : ∀ op' ∈ db'.operations.rows, op'.status.active →
    (∃ op ∈ db.operations.rows, op.key = op'.key ∧ op.subject = op'.subject ∧
      op.agentId = op'.agentId ∧ op.status.active) ∨ op'.kind = .logs

/-- No stack is lost, and of the operations only status and outcome change. -/
def Same (db db' : Db) : Prop :=
  (∀ id, (db.managedStacks.find? id).isSome → (db'.managedStacks.find? id).isSome) ∧
    ∃ G : OperationRow → OperationRow,
      (∀ key, db'.operations.find? key = (db.operations.find? key).map G) ∧
        ∀ op, (G op).subject = op.subject ∧ (G op).agentId = op.agentId

lemma same_mapped {db db' : Db} {F G} (h : Mapped db db' F G) : Same db db' :=
  ⟨h.managedStacks, G, h.operations,
    fun op => ⟨(h.operation op).2.1, (h.operation op).2.2.1⟩⟩

lemma same_of_eq {db db' : Db}
    (hs : ∀ id, (db.managedStacks.find? id).isSome → (db'.managedStacks.find? id).isSome)
    (h : db'.operations = db.operations) : Same db db' := by
  refine ⟨hs, id, fun key => ?_, fun _ => ⟨rfl, rfl⟩⟩
  rw [h, Option.map_id, id_eq]

lemma shrinks_same {db db' : Db} (h : Same db db') (hs : Settles db db') : Shrinks db db' := by
  obtain ⟨hstacks, G, hG, hsame⟩ := h
  refine ⟨hstacks, fun op' hop' hactive => ?_⟩
  have hfind' := Table.find?_of_mem hop'
  have hfind := hfind'
  rw [hG] at hfind
  obtain ⟨op, hop, rfl⟩ := Option.map_eq_some_iff.mp hfind
  obtain ⟨op₂, hop₂, hterminal⟩ := hs.operations _ _ hop
  obtain rfl := Option.some.inj (hfind'.symm.trans hop₂)
  refine .inl ⟨op, Table.mem_of_find? hop, Table.key_find? hop, (hsame op).1.symm,
    (hsame op).2.symm, ?_⟩
  by_contra hinactive
  have hstatus : OperationStatus.terminal op.status := by
    unfold OperationStatus.terminal
    cases hst : op.status <;> simp_all [OperationStatus.active]
  rw [hterminal hstatus] at hactive
  exact hinactive hactive

lemma same_completeCommand {db db' : Db} {now : Time} {agentId commandId : String}
    {ending : Ending} {result : Json} {answer : Completion}
    (h : completeCommand db now agentId commandId ending result = some (db', answer)) :
    Same db db' := by
  rcases completeCommand_cases h with rfl | ⟨current, kept, -, -, -, hfinish⟩
  · exact same_of_eq (fun _ h => h) rfl
  · obtain ⟨G, hmapped, -⟩ := mapped_finishWork hfinish
    exact same_mapped hmapped

lemma shrinks_createRuntimeLogRequest {db db' : Db} {now : Time}
    {operationId commandId agentId projectName serviceName : String} {tail : Nat}
    {since : Option String} {answer : Creation}
    (h : createRuntimeLogRequest db now operationId commandId agentId projectName serviceName
      tail since = some (db', answer)) : Shrinks db db' := by
  unfold createRuntimeLogRequest at h
  split_ifs at h with hready
  · obtain rfl := (Prod.mk.inj (Option.some.inj h)).1
    exact ⟨fun _ h => h, fun op hop hactive => .inl ⟨op, hop, rfl, rfl, rfl, hactive⟩⟩
  · obtain ⟨db₁, hoperation, h⟩ := Option.bind_eq_some_iff.mp h
    obtain ⟨db₂, hcommand, h⟩ := Option.bind_eq_some_iff.mp h
    obtain rfl := (Prod.mk.inj (Option.some.inj h)).1
    have hadded := added_operationFirst hoperation hcommand rfl rfl rfl rfl
    refine ⟨fun id hid => ?_, fun op hop hactive => ?_⟩
    · exact (congrArg (fun t => (Table.find? t id).isSome) hadded.managedStacks).trans hid
    have hfound := Table.find?_of_mem hop
    have hfound := (hadded.operations op.key).symm.trans hfound
    split_ifs at hfound
    · obtain rfl := Option.some.inj hfound
      exact .inr rfl
    · exact .inl ⟨op, Table.mem_of_find? hfound, rfl, rfl, rfl, hactive⟩

/-- **Step lemma.** A transaction that takes no lock activates nothing but log requests. -/
lemma shrinks_transaction {db db' : Db} {t : Transaction} (hdb : InStep db)
    (ht : creates t = false) (h : t.run db db') : Shrinks db db' := by
  have hsettles := (good_run_transaction t h hdb).2
  have hqueued : Queued db db' → Shrinks db db' :=
    fun hq => shrinks_same (same_of_eq hq.managedStacks hq.operations) hsettles
  cases t with
  | createBackup => cases ht
  | createRestore => cases ht
  | createRuntimeOperation => cases ht
  | createDeploymentRun => cases ht
  | createRuntimeLogRequest =>
    obtain ⟨_, h⟩ := h
    exact shrinks_createRuntimeLogRequest h
  | createCommand =>
    obtain ⟨_, h⟩ := h
    exact hqueued (queued_createCommand h)
  | createConnector =>
    obtain ⟨_, h⟩ := h
    exact hqueued (queued_createConnector h)
  | updateConnector =>
    obtain ⟨_, h⟩ := h
    exact hqueued (queued_updateConnector h)
  | createRoute =>
    obtain ⟨_, h⟩ := h
    exact hqueued (queued_createRoute h)
  | updateRoute =>
    obtain ⟨_, h⟩ := h
    exact hqueued (queued_updateRoute h)
  | queueStackSync => exact hqueued (queued_queueStackSync h)
  | claimCommands now agentId limit locked =>
    obtain rfl := h
    obtain ⟨G, hmapped, -⟩ := mapped_claimCommands db now agentId limit locked
    exact shrinks_same (same_mapped hmapped) hsettles
  | completeCommand =>
    obtain ⟨_, h⟩ := h
    exact shrinks_same (same_completeCommand h) hsettles
  | failStaleCommands now staleBefore =>
    obtain rfl := h
    obtain ⟨G, hmapped, -⟩ := mapped_failStaleCommands hdb now staleBefore
    exact shrinks_same (same_mapped hmapped) hsettles
  | purgeRuntimeLogResults completedBefore =>
    obtain rfl := h
    obtain ⟨F, G, hmapped, -⟩ := mapped_purgeRuntimeLogResults db completedBefore
    exact shrinks_same (same_mapped hmapped) hsettles
  | other => exact shrinks_same (same_of_eq h.2.2.2.2 h.2.1) hsettles

/-! ### The invariant -/

/-- No two active operations overlap. -/
def Exclusive (db : Db) : Prop := ∀ op ∈ db.operations.rows, ∀ op' ∈ db.operations.rows,
  op.status.active → op'.status.active → Overlap op op' → op = op'

/-- What a session knows while it holds its lock: its subject is one that has a lock, its
stack is there, nobody else holds the lock, and, once it has looked, nothing active
overlaps with what it will insert. -/
structure Holds (s : State) (i : Nat) (d : Draft) (checked : Bool) : Prop where
  kind : d.subject.kind ≠ .logs
  stack : ∀ id, d.subject.stackId = some id → (s.db.managedStacks.find? id).isSome
  alone : ¬ Held s i d
  clear : checked → ∀ op ∈ s.db.operations.rows, op.status.active →
    clashes d.agentId d.subject op = false

structure Inv (s : State) : Prop where
  inStep : InStep s.db
  exclusive : Exclusive s.db
  holds : ∀ i d checked, s.session i = .holding d checked → Holds s i d checked

lemma clashes_logs {agentId : String} {subject : Subject} {op : OperationRow}
    (h : op.kind = .logs) : clashes agentId subject op = false := by
  unfold OperationRow.kind at h
  unfold clashes
  cases subject <;> cases hs : op.subject <;> rw [hs] at h <;> first | rfl | cases h

lemma clashes_congr {agentId : String} {subject : Subject} {op op' : OperationRow}
    (hs : op.subject = op'.subject) (ha : op.agentId = op'.agentId) :
    clashes agentId subject op' = clashes agentId subject op := by
  unfold clashes
  rw [hs, ha]

lemma exclusive_shrinks {db db' : Db} (h : Exclusive db) (hs : Shrinks db db') :
    Exclusive db' := by
  intro op₁ hop₁ op₂ hop₂ hactive₁ hactive₂ hoverlap
  rcases hs.operations op₁ hop₁ hactive₁ with ⟨o₁, ho₁, hkey₁, hsub₁, hag₁, hact₁⟩ | hlogs
  · rcases hs.operations op₂ hop₂ hactive₂ with ⟨o₂, ho₂, hkey₂, hsub₂, hag₂, hact₂⟩ | hlogs
    · have hover : Overlap o₁ o₂ := by
        unfold Overlap at hoverlap ⊢
        rw [hsub₁, hag₁, ← clashes_congr hsub₂ hag₂]
        exact hoverlap
      have heq := h o₁ ho₁ o₂ ho₂ hact₁ hact₂ hover
      have hkey : op₁.key = op₂.key := by rw [← hkey₁, ← hkey₂, heq]
      have hfind := Table.find?_of_mem hop₁
      rw [hkey, Table.find?_of_mem hop₂] at hfind
      exact (Option.some.inj hfind).symm
    · exact absurd hoverlap (by simp [Overlap, clashes_logs hlogs])
  · exact absurd (clashes_symm hoverlap) (by simp [Overlap, clashes_logs hlogs])

lemma clear_shrinks {db db' : Db} {d : Draft} (hs : Shrinks db db')
    (h : ∀ op ∈ db.operations.rows, op.status.active → clashes d.agentId d.subject op = false) :
    ∀ op ∈ db'.operations.rows, op.status.active → clashes d.agentId d.subject op = false := by
  intro op hop hactive
  rcases hs.operations op hop hactive with ⟨o, ho, -, hsub, hag, hact⟩ | hlogs
  · rw [clashes_congr hsub hag]
    exact h o ho hact
  · exact clashes_logs hlogs

/-- What is inserted is one operation on the subject, with its command. -/
lemma insert_added {db db' : Db} {d : Draft} {now : Time} {operationId commandId : String}
    (hkind : d.subject.kind ≠ .logs)
    (hstack : ∀ id, d.subject.stackId = some id → (db.managedStacks.find? id).isSome)
    (h : d.insert db now operationId commandId = some db') :
    ∃ op c, Added db db' op c ∧ op.subject = d.subject ∧ op.agentId = d.agentId := by
  obtain ⟨agentId, subject⟩ := d
  cases subject with
  | backup stackId target stackRevision =>
    obtain ⟨db₁, hcommand, hoperation⟩ := Option.bind_eq_some_iff.mp h
    exact ⟨_, _, added_commandFirst hcommand hoperation rfl rfl rfl rfl hstack, rfl, rfl⟩
  | restore stackId backupId =>
    obtain ⟨db₁, hcommand, hoperation⟩ := Option.bind_eq_some_iff.mp h
    exact ⟨_, _, added_commandFirst hcommand hoperation rfl rfl rfl rfl hstack, rfl, rfl⟩
  | action action scope projectName serviceName =>
    unfold Draft.insert at h
    dsimp only at h
    split_ifs at h with hready
    obtain ⟨db₁, hoperation, h⟩ := Option.bind_eq_some_iff.mp h
    obtain ⟨db₂, hcommand, h⟩ := Option.bind_eq_some_iff.mp h
    obtain rfl := Option.some.inj h
    exact ⟨_, _, added_operationFirst hoperation hcommand rfl rfl rfl rfl, rfl, rfl⟩
  | logs projectName serviceName tail since => exact absurd rfl hkind
  | deployment deploymentId revisionId priorRevisionId action =>
    obtain ⟨db₁, hcommand, h⟩ := Option.bind_eq_some_iff.mp h
    obtain ⟨db₂, hoperation, h⟩ := Option.bind_eq_some_iff.mp h
    obtain rfl := Option.some.inj h
    have hadded := added_commandFirst hcommand hoperation rfl rfl rfl rfl hstack
    exact ⟨_, _, ⟨hadded.commands, hadded.operations, hadded.newCommand, hadded.newOperation,
      hadded.managedStacks, hadded.commandId, hadded.work, hadded.agent, hadded.status,
      hadded.stack⟩, rfl, rfl⟩

lemma draft_kind {db : Db} {r : Request} {d : Draft} (h : r.draft db = some d) :
    d.subject.kind ≠ .logs ∧
      (InStep db → ∀ id, d.subject.stackId = some id → (db.managedStacks.find? id).isSome) := by
  cases r with
  | backup stackId target =>
    obtain ⟨stack, hstack, h⟩ := Option.bind_eq_some_iff.mp h
    split_ifs at h
    obtain rfl := Option.some.inj h
    refine ⟨by rintro ⟨⟩, ?_⟩
    rintro - _ ⟨⟩
    rw [hstack]
    rfl
  | restore backupId =>
    unfold Request.draft restoreDraft at h
    dsimp only at h
    split at h
    · next hbackup =>
      split_ifs at h with hready
      obtain rfl := Option.some.inj h
      refine ⟨by rintro ⟨⟩, ?_⟩
      rintro - _ ⟨⟩
      rw [Bool.and_eq_true] at hready
      exact isSome_of_any hready.1
    · cases h
  | runtimeOperation agentId action scope projectName serviceName =>
    obtain rfl := Option.some.inj h
    exact ⟨by rintro ⟨⟩, by rintro - _ ⟨⟩⟩
  | deploymentRun deploymentId revisionId action =>
    obtain ⟨deployment, -, h⟩ := Option.bind_eq_some_iff.mp h
    split_ifs at h
    obtain rfl := Option.some.inj h
    exact ⟨by rintro ⟨⟩, by rintro - _ ⟨⟩⟩

/-- Every new active operation is the inserted one. -/
lemma added_cases {db db' : Db} {op c} (h : Added db db' op c) {op' : OperationRow}
    (hop' : op' ∈ db'.operations.rows) : op' = op ∨ op' ∈ db.operations.rows := by
  have hfound := Table.find?_of_mem hop'
  rw [h.operations] at hfound
  split_ifs at hfound
  · exact .inl (Option.some.inj hfound).symm
  · exact .inr (Table.mem_of_find? hfound)

lemma exclusive_added {db db' : Db} {op c} (hdb : Exclusive db) (h : Added db db' op c)
    (hclear : ∀ o ∈ db.operations.rows, o.status.active →
      clashes op.agentId op.subject o = false) : Exclusive db' := by
  intro op₁ hop₁ op₂ hop₂ hactive₁ hactive₂ hoverlap
  rcases added_cases h hop₁ with rfl | hold₁
  · rcases added_cases h hop₂ with rfl | hold₂
    · rfl
    · exact absurd hoverlap (by simp [Overlap, hclear op₂ hold₂ hactive₂])
  · rcases added_cases h hop₂ with rfl | hold₂
    · exact absurd (clashes_symm hoverlap) (by simp [Overlap, hclear op₁ hold₁ hactive₁])
    · exact hdb op₁ hold₁ op₂ hold₂ hactive₁ hactive₂ hoverlap

/-- A lock is held by no more sessions than before, when a session keeps or drops its own. -/
lemma held_update {s : State} {db : Db} {i k : Nat} {d : Draft} {v : Session}
    (hv : ∀ d' checked, v = .holding d' checked →
      ∃ d₀ checked₀, s.session i = .holding d₀ checked₀ ∧ d₀.lock = d'.lock)
    (h : Held ⟨db, Function.update s.session i v⟩ k d) : Held s k d := by
  obtain ⟨j, d', checked, hj, hsession, hlock⟩ := h
  by_cases hji : j = i
  · subst hji
    obtain ⟨d₀, checked₀, h₀, hlock₀⟩ :=
      hv d' checked (by simpa using hsession)
    exact ⟨j, d₀, checked₀, hj, h₀, hlock₀.trans hlock⟩
  · exact ⟨j, d', checked, hj, by simpa [Function.update_of_ne hji] using hsession, hlock⟩

lemma held_leave {s : State} {db : Db} {i k : Nat} {d : Draft}
    (h : Held ⟨db, Function.update s.session i .idle⟩ k d) : Held s k d := by
  refine held_update ?_ h
  rintro _ _ ⟨⟩

lemma inv_take {s : State} {i : Nat} {r : Request} {d : Draft} (h : Inv s)
    (hidle : s.session i = .idle) (hread : r.draft s.db = some d) (hfree : ¬ Held s i d) :
    Inv { s with session := Function.update s.session i (.holding d false) } where
  inStep := h.inStep
  exclusive := h.exclusive
  holds := by
    intro k d' checked hk
    have hother : ∀ j, j ≠ i → Function.update s.session i (.holding d false) j = s.session j :=
      fun j hj => Function.update_of_ne hj _ _
    by_cases hki : k = i
    · subst hki
      obtain ⟨rfl, rfl⟩ := Session.holding.inj ((Function.update_self k _ s.session).symm.trans hk)
      obtain ⟨hkind, hstack⟩ := draft_kind hread
      refine ⟨hkind, hstack h.inStep, ?_, nofun⟩
      rintro ⟨j, d', checked, hj, hsession, hlock⟩
      exact hfree ⟨j, d', checked, hj, (hother j hj).symm.trans hsession, hlock⟩
    · have hold := h.holds k d' checked ((hother k hki).symm.trans hk)
      refine ⟨hold.kind, hold.stack, ?_, hold.clear⟩
      rintro ⟨j, d'', checked', hj, hsession, hlock⟩
      by_cases hji : j = i
      · subst hji
        obtain ⟨rfl, rfl⟩ :=
          Session.holding.inj ((Function.update_self j _ s.session).symm.trans hsession)
        exact hfree ⟨k, d', checked, hki, (hother k hki).symm.trans hk, hlock.symm⟩
      · exact hold.alone ⟨j, d'', checked', hj, (hother j hji).symm.trans hsession, hlock⟩

lemma inv_check {s : State} {i : Nat} {d : Draft} (h : Inv s)
    (hholding : s.session i = .holding d false) (hclear : d.active s.db = false) :
    Inv { s with session := Function.update s.session i (.holding d true) } where
  inStep := h.inStep
  exclusive := h.exclusive
  holds := by
    intro k d' checked hk
    have hheld : ∀ d', Held { s with session := Function.update s.session i (.holding d true) } k
        d' → Held s k d' := by
      refine fun d' => held_update ?_
      rintro _ _ ⟨⟩
      exact ⟨d, false, hholding, rfl⟩
    by_cases hki : k = i
    · subst hki
      obtain ⟨rfl, rfl⟩ := Session.holding.inj ((Function.update_self k _ s.session).symm.trans hk)
      have hold := h.holds k d false hholding
      exact ⟨hold.kind, hold.stack, fun hs => hold.alone (hheld d hs),
        fun _ => active_eq_false.mp hclear⟩
    · have hold := h.holds k d' checked ((Function.update_of_ne hki _ _).symm.trans hk)
      exact ⟨hold.kind, hold.stack, fun hs => hold.alone (hheld d' hs), hold.clear⟩

lemma inv_insert {s : State} {i : Nat} {d : Draft} {now : Time} {operationId commandId : String}
    {db : Db} (h : Inv s) (hholding : s.session i = .holding d true)
    (hrun : d.insert s.db now operationId commandId = some db) :
    Inv ⟨db, Function.update s.session i .idle⟩ := by
  have hmine := h.holds i d true hholding
  obtain ⟨op, c, hadded, hsubject, hagent⟩ := insert_added hmine.kind hmine.stack hrun
  refine ⟨hadded.inStep h.inStep, exclusive_added h.exclusive hadded ?_, ?_⟩
  · rw [hsubject, hagent]
    exact hmine.clear rfl
  · intro k d' checked hk
    have hki : k ≠ i := by
      rintro rfl
      simp at hk
    have hsession := (Function.update_of_ne hki _ _).symm.trans hk
    have hold := h.holds k d' checked hsession
    refine ⟨hold.kind, fun id hid => ?_, fun hs => hold.alone (held_leave hs), ?_⟩
    · rw [hadded.managedStacks]
      exact hold.stack id hid
    · intro hchecked op' hop' hactive
      rcases added_cases hadded hop' with rfl | hbefore
      · by_contra hclash
        rw [Bool.not_eq_false] at hclash
        have hlock := clashes_lock hclash
        rw [hsubject, hagent] at hlock
        exact hold.alone ⟨i, d, true, hki.symm, hholding, hlock.symm⟩
      · exact hold.clear hchecked op' hbefore hactive

/-- **Step lemma.** -/
lemma inv_step {s s' : State} (h : Inv s) (hs : Step s s') : Inv s' := by
  cases hs with
  | take i r idle read free => exact inv_take h idle read free
  | check i holding clear => exact inv_check h holding clear
  | insert i holding run => exact inv_insert h holding run
  | leave i =>
    refine ⟨h.inStep, h.exclusive, fun k d checked hk => ?_⟩
    have hki : k ≠ i := by
      rintro rfl
      simp at hk
    have hold := h.holds k d checked ((Function.update_of_ne hki _ _).symm.trans hk)
    exact ⟨hold.kind, hold.stack, fun hs => hold.alone (held_leave hs), hold.clear⟩
  | other t noLock run =>
    have hshrinks := shrinks_transaction h.inStep noLock run
    refine ⟨(good_run_transaction t run h.inStep).1, exclusive_shrinks h.exclusive hshrinks, ?_⟩
    intro k d checked hk
    have hold := h.holds k d checked hk
    exact ⟨hold.kind, fun id hid => hshrinks.managedStacks id (hold.stack id hid),
      hold.alone, fun hc => clear_shrinks hshrinks (hold.clear hc)⟩

/-- **Run lemma.** -/
lemma inv_run {s s' : State} (h : Inv s) (hrun : Run s s') : Inv s' := by
  induction hrun with
  | refl => exact h
  | tail _ hstep ih => exact inv_step ih hstep

/-- Nothing has been created, and no session holds a lock. -/
structure Initial (s : State) : Prop where
  commands : s.db.commands = ∅
  operations : s.db.operations = ∅
  session : ∀ i, s.session i = .idle

lemma inv_initial {s : State} (h : Initial s) : Inv s where
  inStep := inStep_empty h.commands h.operations
  exclusive := by
    intro op hop
    rw [h.operations] at hop
    cases hop
  holds := by
    intro i d checked hi
    rw [h.session] at hi
    cases hi

/-- **No overlapping operations.** In every state a run reaches, active operations are the
same as soon as they are backups or restores of one stack, runs of one deployment, or
runtime operations on one project of an agent with a service in common. -/
theorem no_overlap {s₀ s : State} (hinit : Initial s₀) (hrun : Run s₀ s) :
    ∀ op ∈ s.db.operations.rows, ∀ op' ∈ s.db.operations.rows,
      op.status.active → op'.status.active →
        (∀ stackId, op.subject.stackId = some stackId → op'.subject.stackId = some stackId →
          op = op') ∧
        (∀ deploymentId r p a r' p' a', op.subject = .deployment deploymentId r p a →
          op'.subject = .deployment deploymentId r' p' a' → op = op') ∧
        (∀ projectName a scope service a' scope' service',
          op.subject = .action a scope projectName service →
          op'.subject = .action a' scope' projectName service' → op.agentId = op'.agentId →
          service = none ∨ service' = none ∨ service = service' → op = op') := by
  have hexclusive := (inv_run (inv_initial hinit) hrun).exclusive
  intro op hop op' hop' hactive hactive'
  have hsame := hexclusive op hop op' hop' hactive hactive'
  refine ⟨?_, ?_, ?_⟩
  · intro stackId hid hid'
    apply hsame
    unfold Overlap clashes
    cases hs : op.subject <;> rw [hs] at hid <;> simp_all [Subject.stackId]
  · intro deploymentId r p a r' p' a' hs hs'
    apply hsame
    unfold Overlap clashes
    rw [hs, hs']
    exact beq_self_eq_true _
  · intro projectName a scope service a' scope' service' hs hs' hagent hservice
    apply hsame
    unfold Overlap clashes
    rw [hs, hs', hagent]
    rcases hservice with rfl | rfl | rfl <;> simp

def sampleStart : State := ⟨oneStack, fun _ => .idle⟩

def sampleDraft : Draft := ⟨"agent", .backup "stack" "target" 1⟩

/-- A backup is created while the other sessions are idle. -/
lemma sample_run : ∃ s, Run sampleStart s ∧ s.db.operations.rows.length = 1 ∧
    ∀ op ∈ s.db.operations.rows, op.status.active ∧ op.subject.stackId = some "stack" := by
  obtain ⟨db, hdb⟩ : ∃ db, sampleDraft.insert oneStack 0 "backup" "command" = some db := ⟨_, rfl⟩
  have hfree : ¬ Held sampleStart 0 sampleDraft := by
    rintro ⟨j, d, checked, -, hsession, -⟩
    cases hsession
  let locked : State := { sampleStart with
    session := Function.update sampleStart.session 0 (.holding sampleDraft false) }
  let looked : State := { locked with
    session := Function.update locked.session 0 (.holding sampleDraft true) }
  have htake : Step sampleStart locked := .take 0 (.backup "stack" "target") rfl rfl hfree
  have hcheck : Step locked looked := .check 0 (Function.update_self 0 _ sampleStart.session) rfl
  have hinsert : Step looked ⟨db, Function.update looked.session 0 .idle⟩ :=
    .insert 0 (Function.update_self 0 _ locked.session) hdb
  refine ⟨_, ((Relation.ReflTransGen.single htake).tail hcheck).tail hinsert, ?_, ?_⟩
  · obtain rfl := Option.some.inj hdb
    rfl
  · obtain rfl := Option.some.inj hdb
    rintro op hop
    obtain rfl := List.mem_singleton.mp hop
    exact ⟨rfl, rfl⟩

theorem no_overlap_sample : ∃ s op, Run sampleStart s ∧ op ∈ s.db.operations.rows ∧
    op.status.active ∧ ∀ op' ∈ s.db.operations.rows, op'.status.active →
      op'.subject.stackId = some "stack" → op = op' := by
  obtain ⟨s, hrun, hlength, hall⟩ := sample_run
  obtain ⟨op, hop⟩ := List.exists_mem_of_length_pos (hlength ▸ Nat.one_pos)
  obtain ⟨hactive, hstack⟩ := hall op hop
  refine ⟨s, op, hrun, hop, hactive, fun op' hop' hactive' hstack' => ?_⟩
  exact (no_overlap ⟨rfl, rfl, fun _ => rfl⟩ hrun op hop op' hop' hactive hactive').1 "stack"
    hstack hstack'

end GatewayControl.Exclusion
