import GatewayControl.LockStep
import GatewayControl.Statements

/-!
The history of deployments: their revisions, their runs, and which revision is the current
one.

Most transactions leave the history alone, and one lemma for each statement says so. Two do
not: one creates a run, one records that a run has ended. A creation holds the deployment's
row from its first statement on, and a completion writes that row, so the two are one after
the other.
-/

namespace GatewayControl.DeploymentHistory

open AgentRoutes Database Json Statements Store Transactions

/-! ### Deployments and revisions -/

structure DeploymentValues where
  agentId : String
  projectName : String
  sourceRepository : String
  normalizedCompose : String
  checksum : String

/-- `deployments_active_agent_project_unique`. -/
def projectTaken (db : Db) (agentId projectName : String) : Bool :=
  db.deployments.rows.any fun d =>
    d.enabled && d.agentId == agentId && d.projectName == projectName

def insertDeployment (db : Db) (d : DeploymentRow) : Option Db := do
  let deployments ← db.deployments.insert? d
  return { db with deployments }

def insertRevision (db : Db) (r : RevisionRow) : Option Db := do
  let revisions ← db.revisions.insert? r
  return { db with revisions }

def createDeployment (db : Db) (deploymentId revisionId : String) (values : DeploymentValues) :
    Option (Db × Creation) :=
  if !agentReady db values.agentId then some (db, .unavailable)
  else if projectTaken db values.agentId values.projectName then none
  else do
    let db ← insertDeployment db
      { id := deploymentId, agentId := values.agentId, projectName := values.projectName,
        sourceRepository := values.sourceRepository, enabled := true }
    let db ← insertRevision db
      { id := revisionId, deploymentId, normalizedCompose := some values.normalizedCompose,
        checksum := values.checksum }
    return (db, .created)

/-- A deployment has a checksum once: a conflict inserts nothing. -/
def createDeploymentRevision (db : Db)
    (revisionId deploymentId sourceRepository normalizedCompose checksum : String) :
    Option (Db × Creation) :=
  match (db.deployments.find? deploymentId).filter fun d =>
      d.enabled && d.sourceRepository == sourceRepository with
  | none => some (db, .unavailable)
  | some _ =>
      if db.revisions.rows.any fun r => r.deploymentId == deploymentId && r.checksum == checksum
      then some (db, .unavailable)
      else do
        let db ← insertRevision db
          { id := revisionId, deploymentId, normalizedCompose := some normalizedCompose,
            checksum }
        return (db, .created)

/-! ### Transactions that leave the history alone -/

/-- What the history reads of a deployment. -/
def place (d : DeploymentRow) : String × Option String := (d.agentId, d.currentRevisionId)

/-- No deployment moves or changes its current revision, and a new one has none; no revision
is lost; no run of a deployment is new, or active again, or newly succeeded. -/
structure Quiet (db db' : Db) : Prop where
  revisions : ∀ id r, db.revisions.find? id = some r → db'.revisions.find? id = some r
  deployments : ∀ id d, db.deployments.find? id = some d →
    ∃ d', db'.deployments.find? id = some d' ∧ place d' = place d
  created : ∀ id d', db'.deployments.find? id = some d' →
    (db.deployments.find? id).isSome ∨ d'.currentRevisionId = none
  runs : ∀ op' ∈ db'.operations.rows, op'.kind = .deployment → ∃ op ∈ db.operations.rows,
    op.key = op'.key ∧ op.subject = op'.subject ∧ op.agentId = op'.agentId ∧
      (op'.status.active → op.status.active) ∧
      (op'.status = .succeeded → op.status = .succeeded)

namespace Quiet

variable {db db' db'' : Db}

lemma of_eq (ho : db'.operations = db.operations) (hd : db'.deployments = db.deployments)
    (hr : db'.revisions = db.revisions) : Quiet db db' where
  revisions := fun id r h => by rw [hr, h]
  deployments := fun id d h => ⟨d, by rw [hd, h], rfl⟩
  created := fun id d' h => .inl (by rw [← hd, h]; rfl)
  runs := fun op hop _ => ⟨op, ho ▸ hop, rfl, rfl, rfl, fun h => h, fun h => h⟩

lemma refl (db : Db) : Quiet db db := of_eq rfl rfl rfl

lemma trans (h : Quiet db db') (h' : Quiet db' db'') : Quiet db db'' where
  revisions := fun id r hr => h'.revisions id r (h.revisions id r hr)
  deployments := by
    intro id d hd
    obtain ⟨d', hd', hplace⟩ := h.deployments id d hd
    obtain ⟨d'', hd'', hplace'⟩ := h'.deployments id d' hd'
    exact ⟨d'', hd'', hplace'.trans hplace⟩
  created := by
    intro id d'' hd''
    rcases h'.created id d'' hd'' with hsome | hnone
    · obtain ⟨d', hd'⟩ := Option.isSome_iff_exists.mp hsome
      rcases h.created id d' hd' with hsome' | hnone'
      · exact .inl hsome'
      · obtain ⟨e, he, hplace⟩ := h'.deployments id d' hd'
        obtain rfl := Option.some.inj (he.symm.trans hd'')
        exact .inr ((Prod.mk.inj hplace).2.trans hnone')
    · exact .inr hnone
  runs := by
    intro op'' hop'' hkind
    obtain ⟨op', hop', hkey', hsub', hag', hact', hsucc'⟩ := h'.runs op'' hop'' hkind
    have hkind' : op'.kind = .deployment := by
      rw [OperationRow.kind, hsub']
      exact hkind
    obtain ⟨op, hop, hkey, hsub, hag, hact, hsucc⟩ := h.runs op' hop' hkind'
    exact ⟨op, hop, hkey.trans hkey', hsub.trans hsub', hag.trans hag',
      fun ha => hact (hact' ha), fun hs => hsucc (hsucc' hs)⟩

end Quiet

section

variable {db db' : Db}

/-- An update of operations that neither activates a run nor makes one succeed. -/
lemma quiet_updateOperations (p : OperationRow → Bool) (f : OperationRow → OperationRow)
    (hf : ∀ op, (f op).key = op.key)
    (h : ∀ op ∈ db.operations.rows, p op → op.kind = .deployment → (f op).subject = op.subject ∧
      (f op).agentId = op.agentId ∧ ((f op).status.active → op.status.active) ∧
      ((f op).status = .succeeded → op.status = .succeeded)) :
    Quiet db (db.updateOperations p f hf) where
  revisions := fun _ _ hr => hr
  deployments := fun _ d hd => ⟨d, hd, rfl⟩
  created := (Quiet.refl db).created
  runs := by
    intro op' hop' hkind
    obtain ⟨op, hop, rfl⟩ := List.mem_map.mp hop'
    by_cases hp : p op
    · rw [if_pos hp] at hkind ⊢
      have hkind' : op.kind = .deployment := (Prod.mk.inj (hf op)).1.symm.trans hkind
      obtain ⟨hsub, hag, hact, hsucc⟩ := h op hop hp hkind'
      exact ⟨op, hop, (hf op).symm, hsub.symm, hag.symm, hact, hsucc⟩
    · rw [if_neg hp]
      exact ⟨op, hop, rfl, rfl, rfl, fun h => h, fun h => h⟩

lemma quiet_updateCommands (p : CommandRow → Bool) (f : CommandRow → CommandRow)
    (hf : ∀ c, (f c).id = c.id) : Quiet db (db.updateCommands p f hf) := .of_eq rfl rfl rfl

lemma quiet_setDeployment (p : DeploymentRow → Bool) (f : DeploymentRow → DeploymentRow)
    (hf : ∀ d, (f d).id = d.id) (hplace : ∀ d, place (f d) = place d) :
    Quiet db (setDeployment db p f hf) where
  revisions := fun _ _ hr => hr
  deployments := by
    intro id d hd
    refine ⟨_, (Table.find?_update _ _ _ hf id).trans (by rw [hd, Option.map_some]), ?_⟩
    by_cases hp : p d
    · rw [if_pos hp, hplace]
    · rw [if_neg hp]
  created := by
    intro id d' hd'
    have hfound := (Table.find?_update db.deployments p f hf id).symm.trans hd'
    obtain ⟨d, hd, -⟩ := Option.map_eq_some_iff.mp hfound
    exact .inl (by rw [hd]; rfl)
  runs := fun op hop _ => ⟨op, hop, rfl, rfl, rfl, fun h => h, fun h => h⟩

lemma quiet_insertCommand {now : Time} {commandId agentId : String} {work : Work}
    (h : insertCommand db now commandId agentId work = some db') : Quiet db db' := by
  obtain ⟨commands, -, h⟩ := Option.bind_eq_some_iff.mp h
  obtain rfl := Option.some.inj h
  exact .of_eq rfl rfl rfl

lemma quiet_insertOperation {op : OperationRow} (h : insertOperation db op = some db')
    (hkind : op.kind ≠ .deployment) : Quiet db db' := by
  obtain ⟨operations, hinsert, h⟩ := Option.bind_eq_some_iff.mp h
  obtain rfl := Option.some.inj h
  have hsame : Quiet db db := .refl db
  refine ⟨hsame.revisions, hsame.deployments, hsame.created, ?_⟩
  intro op' hop' hkind'
  have hfound := Table.find?_of_mem hop'
  rw [Table.find?_insert hinsert] at hfound
  split_ifs at hfound
  · obtain rfl := Option.some.inj hfound
    exact absurd hkind' hkind
  · exact ⟨op', Table.mem_of_find? hfound, rfl, rfl, rfl, fun h => h, fun h => h⟩

lemma quiet_insertDeployment {d : DeploymentRow} (h : insertDeployment db d = some db')
    (hnone : d.currentRevisionId = none) : Quiet db db' := by
  obtain ⟨deployments, hinsert, h⟩ := Option.bind_eq_some_iff.mp h
  obtain rfl := Option.some.inj h
  have hfind := Table.find?_insert hinsert
  have hsame : Quiet db db := .refl db
  refine ⟨hsame.revisions, ?_, ?_, hsame.runs⟩
  · intro id d₀ hd₀
    have hne : id ≠ d.id := by
      rintro rfl
      rw [Table.find?_new hinsert] at hd₀
      cases hd₀
    exact ⟨d₀, by rw [hfind, if_neg hne, hd₀], rfl⟩
  · intro id d' hd'
    rw [hfind] at hd'
    split_ifs at hd'
    · obtain rfl := Option.some.inj hd'
      exact .inr hnone
    · exact .inl (by rw [hd']; rfl)

lemma quiet_insertRevision {r : RevisionRow} (h : insertRevision db r = some db') :
    Quiet db db' := by
  obtain ⟨revisions, hinsert, h⟩ := Option.bind_eq_some_iff.mp h
  obtain rfl := Option.some.inj h
  have hsame : Quiet db db := .refl db
  refine ⟨?_, hsame.deployments, hsame.created, hsame.runs⟩
  intro id r₀ hr₀
  have hne : id ≠ r.id := by
    rintro rfl
    rw [Table.find?_new hinsert] at hr₀
    cases hr₀
  rw [Table.find?_insert hinsert, if_neg hne, hr₀]

lemma quiet_foldl {α : Type} {f : Db → α → Db} (h : ∀ db a, Quiet db (f db a)) (l : List α)
    (db : Db) : Quiet db (l.foldl f db) := by
  induction l generalizing db with
  | nil => exact .refl db
  | cons a l ih => exact (h db a).trans (ih (f db a))

/-- Ending an operation as failed. -/
lemma quiet_failAwaiting (now : Time) (kind : OperationKind) (commandId : String)
    (p : OperationRow → Bool) (error : OperationRow → Option String) :
    Quiet db (failAwaiting db now kind commandId p error) := by
  apply quiet_updateOperations
  intro op _ _ _
  exact ⟨rfl, rfl, nofun, nofun⟩

/-- Ending an operation of another kind. -/
lemma quiet_updateOperation (kind : OperationKind) (id : String) (p : OperationRow → Bool)
    (f : OperationRow → OperationRow) (hf : ∀ op, (f op).key = op.key)
    (hkind : kind ≠ .deployment) : Quiet db (updateOperation db kind id p f hf) := by
  apply quiet_updateOperations
  intro op _ hp hop
  rw [Bool.and_eq_true, decide_eq_true_eq] at hp
  exact absurd ((Prod.mk.inj hp.1).1.symm.trans hop) hkind

lemma quiet_startOperation (now : Time) (kind : OperationKind) (id : String)
    (ofAgent : OperationRow → Bool) : Quiet db (startOperation db now kind id ofAgent) := by
  apply quiet_updateOperations
  intro op _ hp _
  rw [Bool.and_eq_true, beq_iff_eq] at hp
  refine ⟨rfl, rfl, fun _ => ?_, nofun⟩
  rw [hp.2]
  rfl

lemma quiet_startWork (now : Time) (agentId : String) (db : Db) (c : CommandRow) :
    Quiet db (startWork now agentId db c) := by
  unfold startWork
  cases c.work with
  | operation kind id => cases kind <;> exact quiet_startOperation now _ id _
  | _ => exact .of_eq rfl rfl rfl

lemma quiet_claimCommands (now : Time) (agentId : String) (limit : Nat)
    (locked : String → Bool) : Quiet db (claimCommands db now agentId limit locked).1 := by
  unfold claimCommands
  exact (quiet_updateCommands _ _ _).trans (quiet_foldl (quiet_startWork now agentId) _ _)

lemma quiet_failWork (now : Time) (db : Db) (c : CommandRow) : Quiet db (failWork now db c) := by
  unfold failWork
  cases c.work with
  | operation kind id =>
    cases kind with
    | logs => exact quiet_failAwaiting now _ _ _ _
    | backup | restore | action =>
      dsimp only
      split
      all_goals first
        | exact quiet_failAwaiting now _ _ _ _
        | exact (quiet_failAwaiting now _ _ _ _).trans (.of_eq rfl rfl rfl)
    | deployment =>
      dsimp only
      split
      · exact (quiet_failAwaiting now _ _ _ _).trans (quiet_setDeployment _ _ _ fun _ => rfl)
      · exact quiet_failAwaiting now _ _ _ _
  | _ => exact .of_eq rfl rfl rfl

lemma quiet_failStaleCommands (now staleBefore : Time) :
    Quiet db (failStaleCommands db now staleBefore) := by
  unfold failStaleCommands
  exact (quiet_updateCommands _ _ _).trans (quiet_foldl (quiet_failWork now) _ _)

lemma quiet_purgeRuntimeLogResults (completedBefore : Time) :
    Quiet db (purgeRuntimeLogResults db completedBefore) := by
  refine Quiet.trans (quiet_updateOperations (expired completedBefore)
    (fun op => { op with result := none }) (fun _ => rfl) ?_) (.of_eq rfl rfl rfl)
  intro op _ _ _
  exact ⟨rfl, rfl, fun h => h, fun h => h⟩

lemma quiet_linkCommand (key : OperationKind × String) (commandId : String) :
    Quiet db (linkCommand db key commandId) := by
  apply quiet_updateOperations
  intro op _ _ _
  exact ⟨rfl, rfl, fun h => h, fun h => h⟩

/-- So is every statement that creates no run. -/
lemma quiet_statement (h : Statement (· ≠ .deployment) db db') : Quiet db db' := by
  cases h with
  | insertCommand now commandId agentId work run => exact quiet_insertCommand run
  | insertOperation op kind pending run => exact quiet_insertOperation run kind
  | linkCommand key commandId run =>
    rw [run]
    exact quiet_linkCommand key commandId
  | requeue p work now pending run =>
    rw [run]
    exact quiet_updateCommands _ _ _
  | deploymentStatus p status run =>
    rw [run]
    exact quiet_setDeployment _ _ _ fun _ => rfl
  | rest commands operations deployments revisions events =>
    exact .of_eq operations deployments revisions

variable {answer : Creation}

lemma quiet_createDeployment {deploymentId revisionId : String} {values : DeploymentValues}
    (h : createDeployment db deploymentId revisionId values = some (db', answer)) :
    Quiet db db' := by
  unfold createDeployment at h
  split_ifs at h
  · obtain rfl := (Prod.mk.inj (Option.some.inj h)).1
    exact .refl _
  · obtain ⟨db₁, hdeployment, h⟩ := Option.bind_eq_some_iff.mp h
    obtain ⟨db₂, hrevision, h⟩ := Option.bind_eq_some_iff.mp h
    obtain rfl := (Prod.mk.inj (Option.some.inj h)).1
    exact (quiet_insertDeployment hdeployment rfl).trans (quiet_insertRevision hrevision)

lemma quiet_createDeploymentRevision
    {revisionId deploymentId sourceRepository normalizedCompose checksum : String}
    (h : createDeploymentRevision db revisionId deploymentId sourceRepository normalizedCompose
      checksum = some (db', answer)) : Quiet db db' := by
  unfold createDeploymentRevision at h
  split at h
  · obtain rfl := (Prod.mk.inj (Option.some.inj h)).1
    exact .refl _
  · split_ifs at h
    · obtain rfl := (Prod.mk.inj (Option.some.inj h)).1
      exact .refl _
    · obtain ⟨db₁, hrevision, h⟩ := Option.bind_eq_some_iff.mp h
      obtain rfl := (Prod.mk.inj (Option.some.inj h)).1
      exact quiet_insertRevision hrevision

/-- What does not create runs and does not record how a command ended is quiet; so is any
transaction that writes neither deployments nor revisions. -/
lemma quiet_transaction {t : Transaction} (h : t.run db db')
    (hother : t = .other → db'.deployments = db.deployments ∧ db'.revisions = db.revisions)
    (hrun : ∀ now operationId commandId deploymentId revisionId action,
      t ≠ .createDeploymentRun now operationId commandId deploymentId revisionId action)
    (hcomplete : ∀ now agentId commandId ending result,
      t ≠ .completeCommand now agentId commandId ending result) : Quiet db db' := by
  by_cases hspecial : special t = false
  · refine (sequence_transaction hspecial ?_ h).lift Quiet.refl Quiet.trans quiet_statement
    rintro kind hkind rfl
    cases t <;> simp [creates] at hkind
    exact hrun _ _ _ _ _ _ rfl
  cases t with
  | createBackup | createRestore | createRuntimeOperation | createRuntimeLogRequest
  | createDeploymentRun | createCommand | createConnector | updateConnector | createRoute
  | updateRoute | queueStackSync => exact absurd rfl hspecial
  | claimCommands now agentId limit locked =>
    obtain rfl := h
    exact quiet_claimCommands now agentId limit locked
  | completeCommand => exact absurd rfl (hcomplete _ _ _ _ _)
  | failStaleCommands now staleBefore =>
    obtain rfl := h
    exact quiet_failStaleCommands now staleBefore
  | purgeRuntimeLogResults completedBefore =>
    obtain rfl := h
    exact quiet_purgeRuntimeLogResults completedBefore
  | other =>
    obtain ⟨hdeployments, hrevisions⟩ := hother rfl
    exact .of_eq h.2.1 hdeployments hrevisions

end

/-! ### The two others -/

/-- The revision is one of the deployment's. -/
def Owned (db : Db) (deploymentId revisionId : String) : Prop :=
  ∃ r, db.revisions.find? revisionId = some r ∧ r.deploymentId = deploymentId

/-- A run is created while no other of its deployment is active: on the deployment's agent,
with the current revision as the prior one. -/
structure Started (db db' : Db) (run : OperationRow) (deployment : DeploymentRow)
    (revisionId action : String) : Prop where
  found : db.deployments.find? deployment.id = some deployment
  operations : ∀ key, db'.operations.find? key =
    if key = run.key then some run else db.operations.find? key
  subject : run.subject =
    .deployment deployment.id revisionId deployment.currentRevisionId action
  agentId : run.agentId = deployment.agentId
  status : run.status = .pending
  owned : Owned db deployment.id revisionId
  alone : ∀ op ∈ db.operations.rows, op.status.active →
    ∀ r p a, op.subject ≠ .deployment deployment.id r p a
  deployments : ∀ id d, db.deployments.find? id = some d →
    ∃ d', db'.deployments.find? id = some d' ∧ place d' = place d
  created : ∀ id d', db'.deployments.find? id = some d' →
    (db.deployments.find? id).isSome ∨ d'.currentRevisionId = none
  revisions : db'.revisions = db.revisions

lemma createDeploymentRun_cases {db db' : Db} {now : Time}
    {operationId commandId deploymentId revisionId action : String} {answer : Creation}
    (h : createDeploymentRun db now operationId commandId deploymentId revisionId action =
      some (db', answer)) :
    db' = db ∨ ∃ run deployment, Started db db' run deployment revisionId action := by
  unfold createDeploymentRun at h
  split at h
  · exact .inl (Prod.mk.inj (Option.some.inj h)).1.symm
  · next deployment hfound =>
    split at h
    · exact .inl (Prod.mk.inj (Option.some.inj h)).1.symm
    · next hready =>
      split at h
      · exact .inl (Prod.mk.inj (Option.some.inj h)).1.symm
      · next hactive =>
        right
        obtain ⟨db₁, hcommand, h⟩ := Option.bind_eq_some_iff.mp h
        obtain ⟨db₂, hoperation, h⟩ := Option.bind_eq_some_iff.mp h
        obtain rfl := (Prod.mk.inj (Option.some.inj h)).1
        obtain ⟨commands, -, hcommand⟩ := Option.bind_eq_some_iff.mp hcommand
        obtain rfl := Option.some.inj hcommand
        obtain ⟨operations, hinsert, hoperation⟩ := Option.bind_eq_some_iff.mp hoperation
        obtain rfl := Option.some.inj hoperation
        obtain rfl : deployment.id = deploymentId := Table.key_find? hfound
        have hset : Quiet db (setDeployment db (fun d => d.id = deployment.id)
            (fun d => { d with status := if action = "stop" then .stopping else .deploying })
            fun _ => rfl) := quiet_setDeployment _ _ _ fun _ => rfl
        refine ⟨_, deployment, hfound, Table.find?_insert hinsert, rfl, rfl, rfl, ?_, ?_,
          hset.deployments, hset.created, rfl⟩
        · simp only [Bool.or_eq_true, not_or, Bool.not_eq_true', Bool.not_eq_false] at hready
          have hany := hready.2
          rcases hr : db.revisions.find? revisionId with _ | r
          · rw [hr] at hany
            cases hany
          · rw [hr] at hany
            exact ⟨r, hr, beq_iff_eq.mp hany⟩
        · intro op hop hstatus r p a hsubject
          refine hactive (List.any_eq_true.mpr ⟨op, hop, ?_⟩)
          rw [hsubject]
          simpa using hstatus

/-- A run succeeds; unless it was a stop, its revision becomes the current one. -/
structure Succeeded (db db' : Db) (run run' : OperationRow) (deploymentId revisionId : String)
    (action : String) : Prop where
  found : db.operations.find? run.key = some run
  active : run.status.active
  subject : ∃ prior, run.subject = .deployment deploymentId revisionId prior action
  operations : ∀ key, db'.operations.find? key =
    if key = run.key then some run' else db.operations.find? key
  same : run'.key = run.key ∧ run'.subject = run.subject ∧ run'.agentId = run.agentId
  status : run'.status = .succeeded
  deployments : ∀ id, (db'.deployments.find? id).map place =
    (db.deployments.find? id).map fun d =>
      if id = deploymentId ∧ d.agentId = run.agentId then
        (d.agentId, if action = "stop" then d.currentRevisionId else some revisionId)
      else place d
  revisions : db'.revisions = db.revisions

section

variable {db db' : Db} {now : Time} {agentId id : String} {ending : Ending} {result : Json}

lemma quiet_enqueueEvent (h : Quiet db db') (e : Event) : Quiet db (db'.enqueueEvent e) :=
  ⟨h.revisions, h.deployments, h.created, h.runs⟩

lemma finishDeployment_cases
    (h : finishDeployment db now agentId id ending result = some db') :
    Quiet db db' ∨ ∃ run run' deploymentId revisionId action,
      Succeeded db db' run run' deploymentId revisionId action := by
  unfold finishDeployment at h
  obtain ⟨safe, -, h⟩ := Option.bind_eq_some_iff.mp h
  obtain ⟨kept, -, h⟩ := Option.bind_eq_some_iff.mp h
  obtain ⟨error, -, h⟩ := Option.bind_eq_some_iff.mp h
  dsimp only at h
  have hended : (∀ op ∈ db.operations.rows, op.key = (.deployment, id) →
      ofAgentActive agentId op → ending = .failed) →
        Quiet db (updateOperation db .deployment id (ofAgentActive agentId)
          (endOperation now ending (some kept) error) fun _ => rfl) := by
    intro hfailed
    apply quiet_updateOperations
    intro op hop hp _
    rw [Bool.and_eq_true, decide_eq_true_eq] at hp
    rw [hfailed op hop hp.1 hp.2]
    exact ⟨rfl, rfl, nofun, nofun⟩
  rcases hfound : (db.operations.find? (.deployment, id)).filter (ofAgentActive agentId)
    with _ | run
  · rw [hfound] at h
    obtain rfl := Option.some.inj h
    left
    apply hended
    intro op hop hkey hactive
    rw [← hkey, Table.find?_of_mem hop, Option.filter_some, if_pos hactive] at hfound
    cases hfound
  rw [hfound] at h
  obtain ⟨hrun, hactive⟩ := Option.filter_eq_some_iff.mp hfound
  have hkey := Table.key_find? hrun
  obtain ⟨runId, subject, runAgent, commandId, status, runResult, runError, startedAt,
    completedAt⟩ := run
  cases subject with
  | deployment deploymentId revisionId prior action =>
    dsimp only at h
    obtain rfl := Option.some.inj h
    cases ending with
    | failed =>
      left
      apply quiet_enqueueEvent
      refine (hended fun _ _ _ _ => rfl).trans (quiet_setDeployment _ _ _ ?_)
      simp [place]
    | succeeded =>
      right
      set run : OperationRow := ⟨runId, .deployment deploymentId revisionId prior action, runAgent,
        commandId, status, runResult, runError, startedAt, completedAt⟩
      obtain ⟨hagent, hstatus⟩ := Bool.and_eq_true_iff.mp hactive
      have hagent : run.agentId = agentId := beq_iff_eq.mp hagent
      rw [← hkey] at hrun
      refine ⟨run, endOperation now .succeeded (some kept) error run, deploymentId, revisionId,
        action, hrun, hstatus, ⟨prior, rfl⟩, ?_, ⟨rfl, rfl, rfl⟩, rfl, ?_, rfl⟩
      · intro key
        have hupdate := Table.find?_update db.operations
          (fun op => op.key = (.deployment, id) && ofAgentActive agentId op)
          (endOperation now .succeeded (some kept) error) (fun _ => rfl) key
        refine hupdate.trans ?_
        by_cases hk : key = run.key
        · subst hk
          rw [hrun, Option.map_some, if_pos, if_pos rfl]
          rw [Bool.and_eq_true, decide_eq_true_eq]
          exact ⟨hkey, hactive⟩
        · rw [if_neg hk]
          rcases hop : db.operations.find? key with _ | op
          · rfl
          · rw [Option.map_some, if_neg]
            rw [Bool.and_eq_true, decide_eq_true_eq]
            rintro ⟨hopKey, -⟩
            exact hk ((Table.key_find? hop).symm.trans (hopKey.trans hkey.symm))
      · intro k
        have hset := Table.find?_update db.deployments
          (fun d => d.id = deploymentId && d.agentId = agentId)
          (fun d => { d with
            status := if action = "stop" then .stopped else .active
            currentRevisionId := if Ending.succeeded = .succeeded ∧ action ≠ "stop" then
              some revisionId else d.currentRevisionId })
          (fun _ => rfl) k
        refine (congrArg (Option.map place) hset).trans ?_
        rw [Option.map_map, hagent]
        rcases hd : db.deployments.find? k with _ | d
        · rfl
        · obtain rfl := Table.key_find? hd
          by_cases hmine : d.id = deploymentId ∧ d.agentId = agentId
          · by_cases hstop : action = "stop" <;> simp [place, hmine, hstop]
          · simp [place, hmine]
  | _ => cases (Prod.mk.inj hkey).1

lemma finishWork_cases {c : CommandRow} (h : finishWork db now agentId c ending result = some db') :
    Quiet db db' ∨ ∃ run run' deploymentId revisionId action,
      Succeeded db db' run run' deploymentId revisionId action := by
  have hsync : ∀ {db₁}, Quiet db db₁ → Quiet db (syncFailed db₁ agentId c ending) := by
    intro db₁ hquiet
    cases ending with
    | succeeded => exact hquiet
    | failed => exact quiet_enqueueEvent hquiet _
  unfold finishWork at h
  cases hwork : c.work with
  | operation kind id =>
    rw [hwork] at h
    cases kind with
    | deployment => exact finishDeployment_cases h
    | backup =>
      left
      obtain ⟨kept, -, h⟩ := Option.bind_eq_some_iff.mp h
      dsimp only at h
      split at h <;> obtain rfl := Option.some.inj h
      · exact quiet_updateOperation .backup id _ _ _ (by decide)
      · exact quiet_enqueueEvent (quiet_updateOperation .backup id _ _ _ (by decide)) _
    | restore =>
      left
      obtain ⟨kept, -, h⟩ := Option.bind_eq_some_iff.mp h
      dsimp only at h
      split at h <;> obtain rfl := Option.some.inj h
      · exact quiet_enqueueEvent (quiet_updateOperation .restore id _ _ _ (by decide)) _
      · exact quiet_updateOperation .restore id _ _ _ (by decide)
    | action =>
      left
      obtain ⟨safe, -, h⟩ := Option.bind_eq_some_iff.mp h
      obtain ⟨kept, -, h⟩ := Option.bind_eq_some_iff.mp h
      obtain ⟨error, -, h⟩ := Option.bind_eq_some_iff.mp h
      dsimp only at h
      split at h <;> obtain rfl := Option.some.inj h
      · exact quiet_enqueueEvent (quiet_updateOperation .action id _ _ _ (by decide)) _
      · exact quiet_updateOperation .action id _ _ _ (by decide)
    | logs =>
      left
      obtain ⟨kept, -, h⟩ := Option.bind_eq_some_iff.mp h
      obtain ⟨error, -, h⟩ := Option.bind_eq_some_iff.mp h
      obtain rfl := Option.some.inj h
      exact quiet_updateOperation .logs id _ _ _ (by decide)
  | connectorSync connectorId revision =>
    rw [hwork] at h
    left
    obtain ⟨db₁, hfinish, h⟩ := Option.bind_eq_some_iff.mp h
    obtain rfl := Option.some.inj h
    obtain ⟨lastError, -, hfinish⟩ := Option.bind_eq_some_iff.mp hfinish
    obtain rfl := Option.some.inj hfinish
    exact hsync (.of_eq rfl rfl rfl)
  | stackSync stackId =>
    rw [hwork] at h
    left
    obtain rfl := Option.some.inj h
    apply hsync
    unfold finishStack
    split_ifs <;> exact .of_eq rfl rfl rfl
  | routeSync routeId =>
    rw [hwork] at h
    left
    obtain rfl := Option.some.inj h
    apply hsync
    unfold finishRoute
    split_ifs <;> exact .of_eq rfl rfl rfl
  | connectorRemove connectorId revision | plain type payload =>
    rw [hwork] at h
    left
    obtain rfl := Option.some.inj h
    exact .refl db

lemma Succeeded.of_quiet {db₀ : Db} {run run' : OperationRow}
    {deploymentId revisionId action : String}
    (h : Succeeded db db' run run' deploymentId revisionId action)
    (ho : db.operations = db₀.operations) (hd : db.deployments = db₀.deployments)
    (hr : db.revisions = db₀.revisions) :
    Succeeded db₀ db' run run' deploymentId revisionId action := by
  obtain ⟨hfound, hactive, hsubject, hoperations, hsame, hstatus, hdeployments, hrevisions⟩ := h
  rw [ho] at hfound
  refine ⟨hfound, hactive, hsubject, fun key => ?_, hsame, hstatus, fun id => ?_, ?_⟩
  · rw [hoperations, ho]
  · rw [hdeployments, hd]
  · rw [hrevisions, hr]

lemma completeCommand_cases {commandId : String} {answer : Completion}
    (h : completeCommand db now agentId commandId ending result = some (db', answer)) :
    Quiet db db' ∨ ∃ run run' deploymentId revisionId action,
      Succeeded db db' run run' deploymentId revisionId action := by
  rcases LockStep.completeCommand_cases h with rfl | ⟨current, kept, -, -, -, hfinish⟩
  · exact .inl (.refl _)
  · rcases finishWork_cases hfinish with hquiet | ⟨run, run', d, r, a, hsucceeded⟩
    · exact .inl ((quiet_updateCommands _ _ _).trans hquiet)
    · exact .inr ⟨run, run', d, r, a, hsucceeded.of_quiet rfl rfl rfl⟩

end

/-! ### Runs -/

/-- The database, and the runs that have succeeded, in the order in which they did. -/
structure State where
  db : Db
  log : List OperationRow

/-- The runs of deployments that a transaction makes succeed. -/
def newlySucceeded (db db' : Db) : List OperationRow :=
  db'.operations.rows.filter fun op => op.kind == .deployment && op.status == .succeeded &&
    !(db.operations.find? op.key).any (·.status == .succeeded)

/-- One committed transaction. Of the methods only those of this module write deployments
or revisions otherwise than the ones before them do. -/
inductive Commits (db db' : Db) : Prop where
  | transaction (t : Transaction) (run : t.run db db')
      (other : t = .other → db'.deployments = db.deployments ∧ db'.revisions = db.revisions)
  | createDeployment (deploymentId revisionId : String) (values : DeploymentValues)
      (answer : Creation)
      (run : createDeployment db deploymentId revisionId values = some (db', answer))
  | createDeploymentRevision
      (revisionId deploymentId sourceRepository normalizedCompose checksum : String)
      (answer : Creation)
      (run : createDeploymentRevision db revisionId deploymentId sourceRepository
        normalizedCompose checksum = some (db', answer))

def Step (s s' : State) : Prop := Commits s.db s'.db ∧ s'.log = s.log ++ newlySucceeded s.db s'.db

abbrev Run : State → State → Prop := Relation.ReflTransGen Step

/-- The revision that the run put in place, if it is one of the deployment and no stop. -/
def installed (deploymentId : String) (run : OperationRow) : Option String :=
  match run.subject with
  | .deployment id revisionId _ action =>
      if id = deploymentId ∧ action ≠ "stop" then some revisionId else none
  | _ => none

/-- The revision of the run that succeeded last, stops apart. -/
def lastInstalled (log : List OperationRow) (deploymentId : String) : Option String :=
  (log.filterMap (installed deploymentId)).getLast?

/-- What the claim says of runs, and what it rests on. -/
structure Consistent (s : State) : Prop where
  current : ∀ id d, s.db.deployments.find? id = some d →
    d.currentRevisionId = lastInstalled s.log id
  logged : ∀ op ∈ s.log, ∀ d r p a, op.subject = .deployment d r p a →
    (s.db.deployments.find? d).isSome
  loggedOwned : ∀ op ∈ s.log, ∀ d r p a, op.subject = .deployment d r p a → Owned s.db d r
  owned : ∀ op ∈ s.db.operations.rows, ∀ d r p a, op.subject = .deployment d r p a →
    Owned s.db d r ∧ ∀ p', p = some p' → Owned s.db d p'
  active : ∀ op ∈ s.db.operations.rows, ∀ d r p a, op.subject = .deployment d r p a →
    ∃ deployment, s.db.deployments.find? d = some deployment ∧
      deployment.agentId = op.agentId ∧ (op.status.active → p = deployment.currentRevisionId)
  alone : ∀ op ∈ s.db.operations.rows, ∀ op' ∈ s.db.operations.rows,
    op.status.active → op'.status.active → ∀ d r p a r' p' a',
      op.subject = .deployment d r p a → op'.subject = .deployment d r' p' a' → op = op'

lemma kind_deployment {op : OperationRow} {d r p a} (h : op.subject = .deployment d r p a) :
    op.kind = .deployment := by
  rw [OperationRow.kind, h]
  rfl

lemma Owned.mono {db db' : Db} {d r : String}
    (h : ∀ id r, db.revisions.find? id = some r → db'.revisions.find? id = some r)
    (howned : Owned db d r) : Owned db' d r := by
  obtain ⟨row, hrow, hd⟩ := howned
  exact ⟨row, h r row hrow, hd⟩

lemma installed_eq_some {id r : String} {op : OperationRow} (h : installed id op = some r) :
    ∃ p a, op.subject = .deployment id r p a := by
  unfold installed at h
  split at h
  · next p a hsubject =>
    split_ifs at h with hid
    obtain rfl := Option.some.inj h
    rw [← hid.1]
    exact ⟨p, a, hsubject⟩
  · cases h

/-- Nothing is installed on a deployment that has no run. -/
lemma lastInstalled_eq_none {log : List OperationRow} {id : String}
    (h : ∀ op ∈ log, ∀ r p a, op.subject ≠ .deployment id r p a) : lastInstalled log id = none := by
  have hnil : log.filterMap (installed id) = [] := by
    rw [List.filterMap_eq_nil_iff]
    intro op hop
    by_contra hsome
    obtain ⟨r, hr⟩ := Option.ne_none_iff_exists'.mp hsome
    obtain ⟨p, a, hsubject⟩ := installed_eq_some hr
    exact h op hop r p a hsubject
  rw [lastInstalled, hnil]
  rfl

lemma Consistent.currentOwned {s : State} (h : Consistent s) {id r : String} {d : DeploymentRow}
    (hd : s.db.deployments.find? id = some d) (hr : d.currentRevisionId = some r) :
    Owned s.db id r := by
  have hlast := (h.current id d hd).symm.trans hr
  obtain ⟨op, hop, hinstalled⟩ := List.mem_filterMap.mp (List.mem_of_getLast? hlast)
  obtain ⟨p, a, hsubject⟩ := installed_eq_some hinstalled
  exact h.loggedOwned op hop id r p a hsubject

/-! ### What a transaction makes succeed -/

section

variable {db db' : Db}

lemma newlySucceeded_eq_nil (h : ∀ op' ∈ db'.operations.rows, op'.kind = .deployment →
    op'.status = .succeeded → ∃ op, db.operations.find? op'.key = some op ∧
      op.status = .succeeded) : newlySucceeded db db' = [] := by
  unfold newlySucceeded
  rw [List.filter_eq_nil_iff]
  intro op' hop' hnew
  simp only [Bool.and_eq_true, beq_iff_eq, Bool.not_eq_true'] at hnew
  obtain ⟨⟨hkind, hstatus⟩, hbefore⟩ := hnew
  obtain ⟨op, hop, hsucceeded⟩ := h op' hop' hkind hstatus
  rw [hop, Option.any_some, hsucceeded] at hbefore
  cases hbefore

lemma newlySucceeded_quiet (h : Quiet db db') : newlySucceeded db db' = [] := by
  refine newlySucceeded_eq_nil fun op' hop' hkind hstatus => ?_
  obtain ⟨op, hop, hkey, -, -, -, hsucceeded⟩ := h.runs op' hop' hkind
  exact ⟨op, hkey ▸ Table.find?_of_mem hop, hsucceeded hstatus⟩

variable {run run' : OperationRow} {deployment : DeploymentRow}
  {deploymentId revisionId action : String}

lemma Started.cases (h : Started db db' run deployment revisionId action) {op : OperationRow}
    (hop : op ∈ db'.operations.rows) : op = run ∨ op ∈ db.operations.rows := by
  have hfound := Table.find?_of_mem hop
  rw [h.operations] at hfound
  split_ifs at hfound
  · exact .inl (Option.some.inj hfound).symm
  · exact .inr (Table.mem_of_find? hfound)

lemma newlySucceeded_started (h : Started db db' run deployment revisionId action) :
    newlySucceeded db db' = [] := by
  refine newlySucceeded_eq_nil fun op hop hkind hstatus => ?_
  rcases h.cases hop with rfl | hbefore
  · rw [h.status] at hstatus
    cases hstatus
  · exact ⟨op, Table.find?_of_mem hbefore, hstatus⟩

lemma Succeeded.cases (h : Succeeded db db' run run' deploymentId revisionId action)
    {op : OperationRow} (hop : op ∈ db'.operations.rows) :
    op = run' ∨ op ∈ db.operations.rows ∧ op ≠ run := by
  have hfound := Table.find?_of_mem hop
  rw [h.operations] at hfound
  split_ifs at hfound with hkey
  · exact .inl (Option.some.inj hfound).symm
  · refine .inr ⟨Table.mem_of_find? hfound, ?_⟩
    rintro rfl
    exact hkey rfl

lemma Succeeded.mem (h : Succeeded db db' run run' deploymentId revisionId action) :
    run' ∈ db'.operations.rows := by
  apply Table.mem_of_find? (k := run.key)
  rw [h.operations, if_pos rfl]

lemma newlySucceeded_succeeded
    (h : Succeeded db db' run run' deploymentId revisionId action) :
    newlySucceeded db db' = [run'] := by
  obtain ⟨prior, hsubject⟩ := h.subject
  have hactive := h.active
  refine Table.filter_unique h.mem ?_ fun op hop hnew => ?_
  · have hkind : run'.kind = .deployment := kind_deployment (h.same.2.1.trans hsubject)
    rw [h.same.1, h.found, Option.any_some, hkind, h.status]
    cases hstatus : run.status <;> rw [hstatus] at hactive <;> first | rfl | cases hactive
  · rcases h.cases hop with heq | ⟨hbefore, -⟩
    · exact heq
    · rw [Table.find?_of_mem hbefore, Option.any_some] at hnew
      cases hs : op.status <;> simp [hs] at hnew

end

/-! ### The invariant -/

section

variable {db db' : Db} {log : List OperationRow}

lemma consistent_quiet (h : Consistent ⟨db, log⟩) (hq : Quiet db db') :
    Consistent ⟨db', log⟩ := by
  have hfound : ∀ {id d'}, db'.deployments.find? id = some d' → ∀ {d},
      db.deployments.find? id = some d → place d' = place d := by
    intro id d' hd' d hd
    obtain ⟨e, he, hplace⟩ := hq.deployments id d hd
    obtain rfl := Option.some.inj (he.symm.trans hd')
    exact hplace
  refine ⟨?_, ?_, ?_, ?_, ?_, ?_⟩
  · intro id d' hd'
    rcases hd : db.deployments.find? id with _ | d
    · have hnone : d'.currentRevisionId = none := by
        rcases hq.created id d' hd' with hsome | hnone
        · rw [hd] at hsome
          cases hsome
        · exact hnone
      rw [hnone]
      refine (lastInstalled_eq_none fun op hop r p a hsubject => ?_).symm
      have hsome := h.logged op hop id r p a hsubject
      rw [hd] at hsome
      cases hsome
    · rw [(Prod.mk.inj (hfound hd' hd)).2]
      exact h.current id d hd
  · intro op hop d r p a hsubject
    obtain ⟨deployment, hd⟩ := Option.isSome_iff_exists.mp (h.logged op hop d r p a hsubject)
    obtain ⟨d', hd', -⟩ := hq.deployments d deployment hd
    rw [hd']
    rfl
  · intro op hop d r p a hsubject
    exact (h.loggedOwned op hop d r p a hsubject).mono hq.revisions
  · intro op' hop' d r p a hsubject
    obtain ⟨op, hop, -, hsub, -⟩ := hq.runs op' hop' (kind_deployment hsubject)
    obtain ⟨hr, hp⟩ := h.owned op hop d r p a (hsub.trans hsubject)
    exact ⟨hr.mono hq.revisions, fun p' hp' => (hp p' hp').mono hq.revisions⟩
  · intro op' hop' d r p a hsubject
    obtain ⟨op, hop, -, hsub, hag, hact, -⟩ := hq.runs op' hop' (kind_deployment hsubject)
    obtain ⟨deployment, hd, hagent, hprior⟩ := h.active op hop d r p a (hsub.trans hsubject)
    obtain ⟨d', hd', hplace⟩ := hq.deployments d deployment hd
    obtain ⟨hplaceAgent, hplaceCurrent⟩ := Prod.mk.inj hplace
    refine ⟨d', hd', hplaceAgent.trans (hagent.trans hag), fun hactive => ?_⟩
    rw [hplaceCurrent]
    exact hprior (hact hactive)
  · intro op₁ hop₁ op₂ hop₂ hactive₁ hactive₂ d r p a r' p' a' hs₁ hs₂
    obtain ⟨o₁, ho₁, hkey₁, hsub₁, -, hact₁, -⟩ := hq.runs op₁ hop₁ (kind_deployment hs₁)
    obtain ⟨o₂, ho₂, hkey₂, hsub₂, -, hact₂, -⟩ := hq.runs op₂ hop₂ (kind_deployment hs₂)
    have heq := h.alone o₁ ho₁ o₂ ho₂ (hact₁ hactive₁) (hact₂ hactive₂) d r p a r' p' a'
      (hsub₁.trans hs₁) (hsub₂.trans hs₂)
    have hkey : op₁.key = op₂.key := by rw [← hkey₁, ← hkey₂, heq]
    have hfind := Table.find?_of_mem hop₁
    rw [hkey, Table.find?_of_mem hop₂] at hfind
    exact (Option.some.inj hfind).symm

lemma consistent_started {run : OperationRow} {deployment : DeploymentRow}
    {revisionId action : String} (h : Consistent ⟨db, log⟩)
    (hs : Started db db' run deployment revisionId action) : Consistent ⟨db', log⟩ := by
  -- Of deployments and revisions nothing changes, so what is left is the new run itself.
  have hrest : Consistent ⟨{ db' with operations := db.operations }, log⟩ := by
    refine consistent_quiet h ⟨?_, hs.deployments, hs.created, (Quiet.refl db).runs⟩
    intro id r hr
    change db'.revisions.find? id = some r
    rw [hs.revisions, hr]
  obtain ⟨d', hd', hplace⟩ := hs.deployments deployment.id deployment hs.found
  obtain ⟨hplaceAgent, hplaceCurrent⟩ := Prod.mk.inj hplace
  have howned : ∀ {d r}, Owned db d r → Owned db' d r :=
    fun ho => ho.mono fun id r hr => by rw [hs.revisions, hr]
  refine ⟨hrest.current, hrest.logged, hrest.loggedOwned, ?_, ?_, ?_⟩
  · intro op hop d r p a hsubject
    rcases hs.cases hop with rfl | hbefore
    · rw [hs.subject] at hsubject
      obtain ⟨rfl, rfl, rfl, rfl⟩ := Subject.deployment.inj hsubject
      refine ⟨howned hs.owned, fun p' hp' => ?_⟩
      -- The current revision is that of a run that succeeded, or there is none.
      exact howned (h.currentOwned hs.found hp')
    · exact hrest.owned op hbefore d r p a hsubject
  · intro op hop d r p a hsubject
    rcases hs.cases hop with rfl | hbefore
    · rw [hs.subject] at hsubject
      obtain ⟨rfl, rfl, rfl, rfl⟩ := Subject.deployment.inj hsubject
      exact ⟨d', hd', hplaceAgent.trans hs.agentId.symm, fun _ => hplaceCurrent.symm⟩
    · exact hrest.active op hbefore d r p a hsubject
  · intro op₁ hop₁ op₂ hop₂ hactive₁ hactive₂ d r p a r' p' a' hs₁ hs₂
    rcases hs.cases hop₁ with rfl | hbefore₁
    · rcases hs.cases hop₂ with rfl | hbefore₂
      · rfl
      · rw [hs.subject] at hs₁
        obtain ⟨rfl, -⟩ := Subject.deployment.inj hs₁
        exact absurd hs₂ (hs.alone op₂ hbefore₂ hactive₂ r' p' a')
    · rcases hs.cases hop₂ with rfl | hbefore₂
      · rw [hs.subject] at hs₂
        obtain ⟨rfl, -⟩ := Subject.deployment.inj hs₂
        exact absurd hs₁ (hs.alone op₁ hbefore₁ hactive₁ r p a)
      · exact h.alone op₁ hbefore₁ op₂ hbefore₂ hactive₁ hactive₂ d r p a r' p' a' hs₁ hs₂

lemma lastInstalled_append (log : List OperationRow) (run : OperationRow) (id : String) :
    lastInstalled (log ++ [run]) id = (installed id run).or (lastInstalled log id) := by
  unfold lastInstalled
  rw [List.filterMap_append, List.getLast?_append]
  rcases hinstalled : installed id run with _ | r <;> simp [hinstalled]

lemma consistent_succeeded {run run' : OperationRow} {deploymentId revisionId action : String}
    (h : Consistent ⟨db, log⟩)
    (hs : Succeeded db db' run run' deploymentId revisionId action) :
    Consistent ⟨db', log ++ [run']⟩ := by
  obtain ⟨prior, hsubject⟩ := hs.subject
  have hsubject' : run'.subject = .deployment deploymentId revisionId prior action :=
    hs.same.2.1.trans hsubject
  have hrun : run ∈ db.operations.rows := Table.mem_of_find? hs.found
  obtain ⟨deployment, hdeployment, hagent, -⟩ := h.active run hrun _ _ _ _ hsubject
  have hinactive : ¬ run'.status.active := by
    rw [hs.status]
    nofun
  have howned : ∀ {d r}, Owned db d r → Owned db' d r :=
    fun ho => ho.mono fun id r hr => by rw [hs.revisions, hr]
  -- Every deployment stays where it is, and of the others also the current revision.
  have hplace : ∀ {id d}, db.deployments.find? id = some d → ∃ d',
      db'.deployments.find? id = some d' ∧ d'.agentId = d.agentId ∧
        (id ≠ deploymentId → d'.currentRevisionId = d.currentRevisionId) := by
    intro id d hd
    have hmap := hs.deployments id
    rw [hd, Option.map_some] at hmap
    obtain ⟨d', hd', hplace⟩ := Option.map_eq_some_iff.mp hmap
    refine ⟨d', hd', ?_, fun hne => ?_⟩
    · split_ifs at hplace <;> exact (Prod.mk.inj hplace).1
    · rw [if_neg (fun hboth => hne hboth.1)] at hplace
      exact (Prod.mk.inj hplace).2
  refine ⟨?_, ?_, ?_, ?_, ?_, ?_⟩
  · intro id d' hd'
    have hmap := hs.deployments id
    rw [hd', Option.map_some] at hmap
    obtain ⟨d, hd, hnew⟩ := Option.map_eq_some_iff.mp hmap.symm
    have hcurrent := h.current id d hd
    rw [lastInstalled_append, installed, hsubject']
    dsimp only
    by_cases hid : id = deploymentId
    · subst hid
      obtain rfl := Option.some.inj (hd.symm.trans hdeployment)
      rw [if_pos ⟨rfl, hagent⟩] at hnew
      rw [← (Prod.mk.inj hnew).2]
      by_cases hstop : action = "stop"
      · rw [if_pos hstop, if_neg (fun hboth => hboth.2 hstop), Option.none_or, hcurrent]
      · rw [if_neg hstop, if_pos ⟨rfl, hstop⟩, Option.some_or]
    · rw [if_neg (fun hboth => hid hboth.1)] at hnew
      rw [if_neg (fun hboth => hid hboth.1.symm), Option.none_or, ← (Prod.mk.inj hnew).2, hcurrent]
  · intro op hop d r p a hop_subject
    have hbefore : ∃ e, db.deployments.find? d = some e := by
      rcases List.mem_append.mp hop with hop | hop
      · exact Option.isSome_iff_exists.mp (h.logged op hop d r p a hop_subject)
      · obtain rfl := List.mem_singleton.mp hop
        obtain ⟨rfl, -⟩ := Subject.deployment.inj (hsubject'.symm.trans hop_subject)
        exact ⟨deployment, hdeployment⟩
    obtain ⟨e, he⟩ := hbefore
    obtain ⟨e', he', -⟩ := hplace he
    rw [he']
    rfl
  · intro op hop d r p a hop_subject
    rcases List.mem_append.mp hop with hop | hop
    · exact howned (h.loggedOwned op hop d r p a hop_subject)
    · obtain rfl := List.mem_singleton.mp hop
      exact howned (h.owned run hrun d r p a (hs.same.2.1.symm.trans hop_subject)).1
  · intro op hop d r p a hop_subject
    obtain ⟨op₀, hop₀, hsub⟩ : ∃ op₀ ∈ db.operations.rows, op₀.subject = op.subject := by
      rcases hs.cases hop with rfl | ⟨hbefore, -⟩
      · exact ⟨run, hrun, hs.same.2.1.symm⟩
      · exact ⟨op, hbefore, rfl⟩
    obtain ⟨hr, hp⟩ := h.owned op₀ hop₀ d r p a (hsub.trans hop_subject)
    exact ⟨howned hr, fun p' hp' => howned (hp p' hp')⟩
  · intro op hop d r p a hop_subject
    rcases hs.cases hop with rfl | ⟨hbefore, hne⟩
    · obtain ⟨rfl, -⟩ := Subject.deployment.inj (hsubject'.symm.trans hop_subject)
      obtain ⟨d', hd', hagent', -⟩ := hplace hdeployment
      exact ⟨d', hd', hagent'.trans (hagent.trans hs.same.2.2.symm),
        fun hactive => absurd hactive hinactive⟩
    · obtain ⟨e, he, hagent', hprior⟩ := h.active op hbefore d r p a hop_subject
      obtain ⟨e', he', hsame, hcurrent⟩ := hplace he
      refine ⟨e', he', hsame.trans hagent', fun hactive => ?_⟩
      have hother : d ≠ deploymentId := by
        rintro rfl
        exact hne (h.alone op hbefore run hrun hactive hs.active _ _ _ _ _ _ _ hop_subject
          hsubject)
      rw [hcurrent hother]
      exact hprior hactive
  · intro op₁ hop₁ op₂ hop₂ hactive₁ hactive₂ d r p a r' p' a' hs₁ hs₂
    rcases hs.cases hop₁ with rfl | ⟨hbefore₁, -⟩
    · exact absurd hactive₁ hinactive
    · rcases hs.cases hop₂ with rfl | ⟨hbefore₂, -⟩
      · exact absurd hactive₂ hinactive
      · exact h.alone op₁ hbefore₁ op₂ hbefore₂ hactive₁ hactive₂ d r p a r' p' a' hs₁ hs₂

end

/-- **Step lemma.** -/
lemma consistent_step {s s' : State} (h : Consistent s) (hs : Step s s') : Consistent s' := by
  obtain ⟨db, log⟩ := s
  obtain ⟨db', log'⟩ := s'
  obtain ⟨hcommits, rfl⟩ : Commits db db' ∧ log' = log ++ newlySucceeded db db' := hs
  have hquiet : Quiet db db' → Consistent ⟨db', log ++ newlySucceeded db db'⟩ := by
    intro hq
    rw [newlySucceeded_quiet hq, List.append_nil]
    exact consistent_quiet h hq
  cases hcommits with
  | createDeployment deploymentId revisionId values answer run =>
    exact hquiet (quiet_createDeployment run)
  | createDeploymentRevision revisionId deploymentId sourceRepository compose checksum answer run =>
    exact hquiet (quiet_createDeploymentRevision run)
  | transaction t run other =>
    by_cases hcreates : ∃ now operationId commandId deploymentId revisionId action,
        t = .createDeploymentRun now operationId commandId deploymentId revisionId action
    · obtain ⟨now, operationId, commandId, deploymentId, revisionId, action, rfl⟩ := hcreates
      obtain ⟨answer, run⟩ := run
      rcases createDeploymentRun_cases run with rfl | ⟨op, deployment, hstarted⟩
      · exact hquiet (.refl _)
      · rw [newlySucceeded_started hstarted, List.append_nil]
        exact consistent_started h hstarted
    by_cases hcompletes : ∃ now agentId commandId ending result,
        t = .completeCommand now agentId commandId ending result
    · obtain ⟨now, agentId, commandId, ending, result, rfl⟩ := hcompletes
      obtain ⟨answer, run⟩ := run
      rcases completeCommand_cases run with hq | ⟨op, op', d, r, a, hsucceeded⟩
      · exact hquiet hq
      · rw [newlySucceeded_succeeded hsucceeded]
        exact consistent_succeeded h hsucceeded
    · apply hquiet
      refine quiet_transaction run other ?_ ?_
      · rintro now operationId commandId deploymentId revisionId action rfl
        exact hcreates ⟨_, _, _, _, _, _, rfl⟩
      · rintro now agentId commandId ending result rfl
        exact hcompletes ⟨_, _, _, _, _, rfl⟩

/-- **Run lemma.** -/
lemma consistent_run {s s' : State} (h : Consistent s) (hrun : Run s s') : Consistent s' := by
  induction hrun with
  | refl => exact h
  | tail _ hstep ih => exact consistent_step ih hstep

/-- Nothing has been run, and nothing is in place. -/
structure Initial (s : State) : Prop where
  operations : s.db.operations = ∅
  current : ∀ id d, s.db.deployments.find? id = some d → d.currentRevisionId = none
  log : s.log = []

lemma consistent_initial {s : State} (h : Initial s) : Consistent s where
  current := by
    intro id d hd
    rw [h.current id d hd, h.log]
    rfl
  logged := by
    intro op hop
    rw [h.log] at hop
    cases hop
  loggedOwned := by
    intro op hop
    rw [h.log] at hop
    cases hop
  owned := by
    intro op hop
    rw [h.operations] at hop
    cases hop
  active := by
    intro op hop
    rw [h.operations] at hop
    cases hop
  alone := by
    intro op hop
    rw [h.operations] at hop
    cases hop

/-! ### What is handed out for a rollback -/

/-- The current revision of a deployment with its document, if there is one to send. -/
def currentDocument (db : Db) (deployment : DeploymentRow) : Option (String × String) := do
  let id ← deployment.currentRevisionId
  let text ← (← db.revisions.find? id).normalizedCompose
  if text = "" then none else some (id, text)

/-- What an agent installs when a run fails. -/
def rollbackEntries (S : Settings) : Option (String × String) → Entries
  | none => []
  | some (id, text) => [("priorRevisionId", .str id), ("priorCompose", .str text),
      ("priorChecksum", .str (S.sha256 text))]

/-- The payload's own entries name no prior revision; what follows them is the document of
the deployment's current revision. -/
def SendsCurrent (S : Settings) (db : Db) (deployment : DeploymentRow)
    (payload : AgentTypes.Payload) : Prop :=
  ∃ own : Entries, payload =
      payloadText (own ++ rollbackEntries S (currentDocument db deployment)) ∧
    ∀ entry ∈ own, entry.1 ∉ ["priorRevisionId", "priorCompose", "priorChecksum"]

lemma sendsCurrent {S : Settings} {s : State} (h : Consistent s) {op : OperationRow}
    (hop : op ∈ s.db.operations.rows) {deploymentId revisionId action : String}
    {prior : Option String}
    (hsubject : op.subject = .deployment deploymentId revisionId prior action)
    {deployment : DeploymentRow} (hd : s.db.deployments.find? deploymentId = some deployment)
    (hprior : prior = deployment.currentRevisionId) {agentId : String} {c : CommandRow}
    {payload : AgentTypes.Payload}
    (hpayload : deploymentPayload S s.db agentId c op.id = .ok payload) :
    SendsCurrent S s.db deployment payload := by
  obtain rfl := Table.key_find? hd
  have hfound : s.db.operations.find? (.deployment, op.id) = some op := by
    have := Table.find?_of_mem hop
    rwa [OperationRow.key, kind_deployment hsubject] at this
  -- The revision that was current at the creation still is, and is one of the deployment's.
  have hrow : (prior.bind s.db.revisions.find?).filter (·.deploymentId = deployment.id) =
      deployment.currentRevisionId.bind s.db.revisions.find? := by
    rw [hprior]
    rcases hcurrent : deployment.currentRevisionId with _ | id
    · rfl
    · obtain ⟨r, hr, hmine⟩ := h.currentOwned hd hcurrent
      rw [Option.bind_some, hr, Option.filter_some, if_pos (by simpa using hmine)]
  unfold deploymentPayload at hpayload
  split at hpayload
  · cases hpayload
  · next source hsource =>
    obtain ⟨hsource, -⟩ := Option.filter_eq_some_iff.mp hsource
    unfold getDeploymentCommandSource at hsource
    rw [hfound] at hsource
    dsimp only [Option.bind_eq_bind, Option.bind_some] at hsource
    rw [hsubject] at hsource
    dsimp only at hsource
    rw [hd, Option.bind_some, hrow] at hsource
    obtain ⟨revision, -, hsource⟩ := Option.bind_eq_some_iff.mp hsource
    obtain rfl := Option.some.inj hsource
    split at hpayload
    · cases hpayload
    · next compose sent hdocuments =>
      obtain rfl := Except.ok.inj hpayload
      have hsent : sent = currentDocument s.db deployment := by
        obtain ⟨text, -, hdocuments⟩ := Option.bind_eq_some_iff.mp hdocuments
        split_ifs at hdocuments
        unfold currentDocument
        dsimp only [Option.bind_eq_bind] at hdocuments ⊢
        rcases hcurrent : deployment.currentRevisionId with _ | id
        · rw [hcurrent] at hdocuments
          exact (Prod.mk.inj (Option.some.inj hdocuments)).2.symm
        · obtain ⟨r, hr, -⟩ := h.currentOwned hd hcurrent
          rw [hcurrent, Option.bind_some, hr] at hdocuments
          obtain ⟨document, hdocument, hdocuments⟩ := Option.bind_eq_some_iff.mp hdocuments
          rw [Option.bind_some, hr, Option.bind_some, hdocument, Option.bind_some,
            ← Table.key_find? hr]
          exact (Prod.mk.inj (Option.some.inj hdocuments)).2.symm
      refine ⟨[("runId", .str op.id), ("revisionId", .str revision.id),
        ("projectName", .str deployment.projectName), ("sourceCompose", .str compose),
        ("checksum", .str revision.checksum), ("action", .str action)], ?_, ?_⟩
      · rw [← hsent]
        rcases sent with _ | ⟨id, text⟩ <;> rfl
      · simp

/-- **Deployment history.** In every state a run reaches, a deployment's current revision is
that of its run that succeeded last, stops apart; the revision of a run and its prior one are
of the run's deployment; and for an active run the prior revision is the current one, so that
what is handed out for a rollback is the document of the current revision. -/
theorem history_consistent {s₀ s : State} (hinit : Initial s₀) (hrun : Run s₀ s) :
    (∀ d ∈ s.db.deployments.rows, d.currentRevisionId = lastInstalled s.log d.id) ∧
    ∀ op ∈ s.db.operations.rows, ∀ deploymentId revisionId prior action,
      op.subject = .deployment deploymentId revisionId prior action →
      Owned s.db deploymentId revisionId ∧ (∀ id, prior = some id → Owned s.db deploymentId id) ∧
        (op.status.active → ∃ deployment, s.db.deployments.find? deploymentId = some deployment ∧
          prior = deployment.currentRevisionId ∧ ∀ S agentId c payload,
            deploymentPayload S s.db agentId c op.id = .ok payload →
              SendsCurrent S s.db deployment payload) := by
  have h := consistent_run (consistent_initial hinit) hrun
  refine ⟨fun d hd => h.current d.id d (Table.find?_of_mem hd), ?_⟩
  intro op hop deploymentId revisionId prior action hsubject
  obtain ⟨hrevision, hprior⟩ := h.owned op hop _ _ _ _ hsubject
  refine ⟨hrevision, hprior, fun hactive => ?_⟩
  obtain ⟨deployment, hd, -, hcurrent⟩ := h.active op hop _ _ _ _ hsubject
  refine ⟨deployment, hd, hcurrent hactive, fun S agentId c payload hpayload => ?_⟩
  exact sendsCurrent h hop hsubject hd (hcurrent hactive) hpayload

/-! ### A run -/

def sampleStart : Db := { agents := .single ⟨"agent", true, true⟩ }

/-- The database after a transaction that commits. -/
def after {α : Type} (o : Option (Db × α)) : Db := (o.map (·.1)).getD {}

def sampleValues : DeploymentValues :=
  { agentId := "agent", projectName := "shop", sourceRepository := "https://example.org/shop.git",
    normalizedCompose := "name: shop", checksum := "sum" }

def sampleDeployed : Db :=
  after <| createDeployment sampleStart "deployment" "first" sampleValues

def sampleRequested : Db :=
  after <| createDeploymentRun sampleDeployed 0 "run" "command" "deployment" "first" "deploy"

def sampleClaimed : Db := (claimCommands sampleRequested 1 "agent" 1 fun _ => false).1

def sampleActive : Db :=
  after <| completeCommand sampleClaimed 2 "agent" "command" .succeeded (.obj [])

def sampleAgain : Db :=
  after <| createDeploymentRun sampleActive 3 "again" "next" "deployment" "first" "rollback"

lemma step_of_commits {db db' : Db} {log : List OperationRow} (h : Commits db db') :
    Step ⟨db, log⟩ ⟨db', log ++ newlySucceeded db db'⟩ := ⟨h, rfl⟩

/-- One run succeeds, and another is created. -/
lemma sample_run : ∃ log, Run ⟨sampleStart, []⟩ ⟨sampleAgain, log⟩ := by
  have h₁ : Commits sampleStart sampleDeployed :=
    .createDeployment "deployment" "first" sampleValues .created rfl
  have h₂ : Commits sampleDeployed sampleRequested :=
    .transaction (.createDeploymentRun 0 "run" "command" "deployment" "first" "deploy")
      ⟨.created, rfl⟩ nofun
  have h₃ : Commits sampleRequested sampleClaimed :=
    .transaction (.claimCommands 1 "agent" 1 fun _ => false) rfl nofun
  have h₄ : Commits sampleClaimed sampleActive :=
    .transaction (.completeCommand 2 "agent" "command" .succeeded (.obj [])) ⟨.updated, rfl⟩ nofun
  have h₅ : Commits sampleActive sampleAgain :=
    .transaction (.createDeploymentRun 3 "again" "next" "deployment" "first" "rollback")
      ⟨.created, rfl⟩ nofun
  exact ⟨_, ((((Relation.ReflTransGen.single (step_of_commits h₁)).tail (step_of_commits h₂)).tail
    (step_of_commits h₃)).tail (step_of_commits h₄)).tail (step_of_commits h₅)⟩

theorem history_consistent_sample : ∃ log op deployment,
    Run ⟨sampleStart, []⟩ ⟨sampleAgain, log⟩ ∧ op ∈ sampleAgain.operations.rows ∧
      op.status.active ∧ sampleAgain.deployments.find? "deployment" = some deployment ∧
      deployment.currentRevisionId = some "first" ∧
      op.subject = .deployment "deployment" "first" deployment.currentRevisionId "rollback" := by
  obtain ⟨log, hrun⟩ := sample_run
  obtain ⟨op, hop, hsubject, hactive⟩ : ∃ op ∈ sampleAgain.operations.rows,
      op.subject = .deployment "deployment" "first" (some "first") "rollback" ∧
        op.status.active :=
    ⟨_, List.mem_cons_of_mem _ List.mem_cons_self, rfl, rfl⟩
  have hinit : Initial ⟨sampleStart, []⟩ := ⟨rfl, nofun, rfl⟩
  obtain ⟨-, -, hcurrent⟩ := (history_consistent hinit hrun).2 op hop _ _ _ _ hsubject
  obtain ⟨deployment, hd, hprior, -⟩ := hcurrent hactive
  refine ⟨log, op, deployment, hrun, hop, hactive, hd, hprior.symm, ?_⟩
  rw [hsubject, hprior]

end GatewayControl.DeploymentHistory
