import GatewayControl.LockStep
import GatewayControl.Statements

/-!
Failures and the events that announce them.

Every failure of an operation is the failure of its command, so the failures of a transaction
are counted by the commands it fails, and each of these is shown to add the events it should.
-/

namespace GatewayControl.FailureEvents

open Database Json LockStep Statements Store Transactions

/-- What a failure event is about, which says of which kind it is. -/
inductive Failure where
  | backup (id : String)
  | restore (id : String)
  | action (agentId action scope projectName : String) (serviceName : Option String)
  | deploymentRun (id : String)
  | sync (commandId : String)
deriving DecidableEq

def entry (e : Event) (key : String) : String := (e.payload.lookup key).getD ""

/-- What an event announces; none but the three kinds of failure event announce anything. -/
def announced (e : Event) : Option Failure :=
  if e.type = "backup.failed" then
    if (e.payload.lookup "restoreId").isSome then some (.restore (entry e "restoreId"))
    else some (.backup (entry e "backupId"))
  else if e.type = "runtime.action.failed" then
    some (.action (e.agentId.getD "") (entry e "action") (entry e "scope")
      (e.projectName.getD "") e.serviceName)
  else if e.type = "deployment.failed" then
    if (e.payload.lookup "runId").isSome then some (.deploymentRun (entry e "runId"))
    else some (.sync (entry e "commandId"))
  else none

/-- The failure of an operation; that of a request for logs is not announced. -/
def failureOf (op : OperationRow) : Option Failure :=
  match op.subject with
  | .backup _ _ _ => some (.backup op.id)
  | .restore _ _ => some (.restore op.id)
  | .action action scope projectName serviceName =>
      some (.action op.agentId action scope projectName serviceName)
  | .deployment _ _ _ _ => some (.deploymentRun op.id)
  | .logs _ _ _ _ => none

/-- A sync has no row of its own: its command is what fails. -/
def syncFailure (c : CommandRow) : Option Failure :=
  match c.work with
  | .connectorSync _ _ | .stackSync _ | .routeSync _ => some (.sync c.id)
  | _ => none

def failedOperations (db db' : Db) : List OperationRow :=
  db'.operations.rows.filter fun op => op.status == .failed &&
    !(db.operations.find? op.key).any (·.status == .failed)

def failedCommands (db db' : Db) : List CommandRow :=
  db'.commands.rows.filter fun c => c.status == .failed &&
    !(db.commands.find? c.id).any (·.status == .failed)

/-- What fails in a transaction. -/
def failures (db db' : Db) : List Failure :=
  (failedOperations db db').filterMap failureOf ++ (failedCommands db db').filterMap syncFailure

/-- The events of a transaction announce `fs`, in this order. -/
def Emits (db db' : Db) (fs : List Failure) : Prop :=
  ∃ l, db'.events = db.events ++ l ∧ l.filterMap announced = fs

/-- Every failure has one event, and every failure event a failure. -/
def Announces (db db' : Db) : Prop := ∃ fs, Emits db db' fs ∧ fs.Perm (failures db db')

namespace Emits

variable {db db' db'' : Db} {fs gs : List Failure}

lemma of_eq (h : db'.events = db.events) : Emits db db' [] := ⟨[], by rw [h, List.append_nil], rfl⟩

lemma trans (h : Emits db db' fs) (h' : Emits db' db'' gs) : Emits db db'' (fs ++ gs) := by
  obtain ⟨l, hl, rfl⟩ := h
  obtain ⟨l', hl', rfl⟩ := h'
  exact ⟨l ++ l', by rw [hl', hl, List.append_assoc], List.filterMap_append⟩

lemma enqueueEvent (h : Emits db db' fs) (e : Event) :
    Emits db (db'.enqueueEvent e) (fs ++ (announced e).toList) := by
  obtain ⟨l, hl, rfl⟩ := h
  refine ⟨l ++ [e], ?_, ?_⟩
  · rw [Db.enqueueEvent, hl, List.append_assoc]
  · rw [List.filterMap_append]
    rcases he : announced e with _ | f <;> simp [he]

/-- A transaction announces one thing only. -/
lemma unique (h : Emits db db' fs) (h' : Emits db db' gs) : fs = gs := by
  obtain ⟨l, hl, rfl⟩ := h
  obtain ⟨l', hl', rfl⟩ := h'
  rw [List.append_cancel_left (hl.symm.trans hl')]

end Emits

lemma announces_iff {db db' : Db} {fs : List Failure} (h : Emits db db' fs) :
    Announces db db' ↔ fs.Perm (failures db db') := by
  constructor
  · rintro ⟨gs, hgs, hperm⟩
    rwa [h.unique hgs]
  · exact fun hperm => ⟨fs, h, hperm⟩

/-! ### Transactions in which nothing fails -/

/-- No event is added, and no row fails. -/
structure Silent (db db' : Db) : Prop where
  events : db'.events = db.events
  operations : ∀ op' ∈ db'.operations.rows, op'.status = .failed →
    ∃ op, db.operations.find? op'.key = some op ∧ op.status = .failed
  commands : ∀ c' ∈ db'.commands.rows, c'.status = .failed →
    ∃ c, db.commands.find? c'.id = some c ∧ c.status = .failed

namespace Silent

variable {db db' db'' : Db}

lemma of_eq (hc : db'.commands = db.commands) (ho : db'.operations = db.operations)
    (he : db'.events = db.events) : Silent db db' where
  events := he
  operations := fun op hop hs => ⟨op, Table.find?_of_mem (ho ▸ hop), hs⟩
  commands := fun c hc' hs => ⟨c, Table.find?_of_mem (hc ▸ hc'), hs⟩

lemma refl (db : Db) : Silent db db := of_eq rfl rfl rfl

lemma trans (h : Silent db db') (h' : Silent db' db'') : Silent db db'' where
  events := h'.events.trans h.events
  operations := by
    intro op'' hop'' hs''
    obtain ⟨op', hop', hs'⟩ := h'.operations op'' hop'' hs''
    obtain ⟨op, hop, hs⟩ := h.operations op' (Table.mem_of_find? hop') hs'
    exact ⟨op, by rw [← Table.key_find? hop', hop], hs⟩
  commands := by
    intro c'' hc'' hs''
    obtain ⟨c', hc', hs'⟩ := h'.commands c'' hc'' hs''
    obtain ⟨c, hc, hs⟩ := h.commands c' (Table.mem_of_find? hc') hs'
    exact ⟨c, by rw [← Table.key_find? hc', hc], hs⟩

end Silent

lemma silent_insertCommand {db db' : Db} {now : Time} {commandId agentId : String} {work : Work}
    (h : insertCommand db now commandId agentId work = some db') : Silent db db' := by
  obtain ⟨commands, hinsert, h⟩ := Option.bind_eq_some_iff.mp h
  obtain rfl := Option.some.inj h
  refine ⟨rfl, (Silent.refl db).operations, ?_⟩
  intro c hc hs
  have hfound := Table.find?_of_mem hc
  rw [Table.find?_insert hinsert] at hfound
  split_ifs at hfound
  · obtain rfl := Option.some.inj hfound
    cases hs
  · exact ⟨c, hfound, hs⟩

lemma silent_insertOperation {db db' : Db} {op : OperationRow}
    (h : insertOperation db op = some db') (hstatus : op.status = .pending) : Silent db db' := by
  obtain ⟨operations, hinsert, h⟩ := Option.bind_eq_some_iff.mp h
  obtain rfl := Option.some.inj h
  refine ⟨rfl, ?_, (Silent.refl db).commands⟩
  intro op' hop' hs
  have hfound := Table.find?_of_mem hop'
  rw [Table.find?_insert hinsert] at hfound
  split_ifs at hfound
  · obtain rfl := Option.some.inj hfound
    rw [hstatus] at hs
    cases hs
  · exact ⟨op', hfound, hs⟩

/-- An update that fails nothing. -/
lemma silent_updateOperations {db : Db} (p : OperationRow → Bool)
    (f : OperationRow → OperationRow) (hf : ∀ op, (f op).key = op.key)
    (h : ∀ op, (f op).status = .failed → op.status = .failed) :
    Silent db (db.updateOperations p f hf) where
  events := rfl
  operations := by
    intro op' hop' hs
    obtain ⟨op, hop, rfl⟩ := List.mem_map.mp hop'
    by_cases hp : p op
    · rw [if_pos hp] at hs ⊢
      exact ⟨op, by rw [hf, Table.find?_of_mem hop], h op hs⟩
    · rw [if_neg hp] at hs ⊢
      exact ⟨op, Table.find?_of_mem hop, hs⟩
  commands := (Silent.refl db).commands

lemma silent_updateCommands {db : Db} (p : CommandRow → Bool) (f : CommandRow → CommandRow)
    (hf : ∀ c, (f c).id = c.id) (h : ∀ c, (f c).status = .failed → c.status = .failed) :
    Silent db (db.updateCommands p f hf) where
  events := rfl
  operations := (Silent.refl db).operations
  commands := by
    intro c' hc' hs
    obtain ⟨c, hc, rfl⟩ := List.mem_map.mp hc'
    by_cases hp : p c
    · rw [if_pos hp] at hs ⊢
      exact ⟨c, by rw [hf, Table.find?_of_mem hc], h c hs⟩
    · rw [if_neg hp] at hs ⊢
      exact ⟨c, Table.find?_of_mem hc, hs⟩

lemma silent_statement {k : OperationKind → Prop} {db db' : Db} (h : Statement k db db') :
    Silent db db' := by
  cases h with
  | insertCommand now commandId agentId work run => exact silent_insertCommand run
  | insertOperation op kind pending run => exact silent_insertOperation run pending
  | linkCommand key commandId run =>
    rw [run]
    exact silent_updateOperations _ _ _ fun _ hs => hs
  | requeue p work now pending run =>
    rw [run]
    exact silent_updateCommands _ _ _ fun _ hs => hs
  | deploymentStatus p status run =>
    rw [run]
    exact .of_eq rfl rfl rfl
  | rest commands operations deployments revisions events =>
    exact .of_eq commands operations events

lemma silent_startWork (now : Time) (agentId : String) (db : Db) (c : CommandRow) :
    Silent db (startWork now agentId db c) := by
  unfold startWork
  cases c.work with
  | operation kind id => cases kind <;> exact silent_updateOperations _ _ _ fun _ hs => by cases hs
  | _ => exact .of_eq rfl rfl rfl

lemma silent_claimCommands (db : Db) (now : Time) (agentId : String) (limit : Nat)
    (locked : String → Bool) : Silent db (claimCommands db now agentId limit locked).1 := by
  have hfold : ∀ (l : List CommandRow) (db : Db),
      Silent db (l.foldl (startWork now agentId) db) := by
    intro l
    induction l with
    | nil => exact Silent.refl
    | cons c l ih => exact fun db => (silent_startWork now agentId db c).trans (ih _)
  unfold claimCommands
  exact (silent_updateCommands _ _ _ fun _ hs => by cases hs).trans (hfold _ _)

lemma silent_purgeRuntimeLogResults (db : Db) (completedBefore : Time) :
    Silent db (purgeRuntimeLogResults db completedBefore) := by
  unfold purgeRuntimeLogResults
  refine Silent.trans ?_ (silent_updateCommands _ _ _ fun _ hs => hs)
  exact silent_updateOperations _ _ _ fun _ hs => hs

lemma failures_silent {db db' : Db} (h : Silent db db') : failures db db' = [] := by
  have hoperations : failedOperations db db' = [] := by
    unfold failedOperations
    rw [List.filter_eq_nil_iff]
    intro op' hop' hnew
    rw [Bool.and_eq_true, beq_iff_eq, Bool.not_eq_true'] at hnew
    obtain ⟨op, hop, hs⟩ := h.operations op' hop' hnew.1
    rw [hop, Option.any_some, hs] at hnew
    cases hnew.2
  have hcommands : failedCommands db db' = [] := by
    unfold failedCommands
    rw [List.filter_eq_nil_iff]
    intro c' hc' hnew
    rw [Bool.and_eq_true, beq_iff_eq, Bool.not_eq_true'] at hnew
    obtain ⟨c, hc, hs⟩ := h.commands c' hc' hnew.1
    rw [hc, Option.any_some, hs] at hnew
    cases hnew.2
  rw [failures, hoperations, hcommands]
  rfl

lemma announces_silent {db db' : Db} (h : Silent db db') : Announces db db' := by
  rw [announces_iff (.of_eq h.events), failures_silent h]

/-! ### Failures, counted by their commands -/

def operationOf (db : Db) (c : CommandRow) : Option OperationRow :=
  match c.work with
  | .operation kind id => db.operations.find? (kind, id)
  | _ => none

/-- The failure of a command: that of its operation, or its own. -/
def failureBy (db : Db) (c : CommandRow) : Option Failure :=
  ((operationOf db c).bind failureOf).or (syncFailure c)

lemma command_failed {s : OperationStatus} : s.command = .failed ↔ s = .failed := by
  cases s <;> simp [OperationStatus.command]

section

variable {db db' : Db} {F : CommandRow → CommandRow} {G : OperationRow → OperationRow}

lemma operationOf_some {c : CommandRow} {op : OperationRow} (h : operationOf db c = some op) :
    op ∈ db.operations.rows ∧ c.work = .operation op.kind op.id := by
  unfold operationOf at h
  split at h
  · next kind id hwork =>
    have hkey : op.key = (kind, id) := Table.key_find? h
    obtain ⟨hkind, hid⟩ := Prod.mk.inj hkey
    exact ⟨Table.mem_of_find? h, by rw [hwork, ← hkind, ← hid]⟩
  · cases h

lemma operationOf_linked {op : OperationRow} {c : CommandRow} (hop : op ∈ db.operations.rows)
    (h : Linked db op c) : operationOf db c = some op := by
  unfold operationOf
  rw [h.work]
  exact Table.find?_of_mem hop

/-- The operation found is the one the command is linked to. -/
lemma linked_operationOf (hdb : InStep db) {c : CommandRow} (hc : c ∈ db.commands.rows)
    {op : OperationRow} (h : operationOf db c = some op) : Linked db op c := by
  obtain ⟨hop, hwork⟩ := operationOf_some h
  obtain ⟨c', hc'⟩ := hdb.command op hop
  rwa [hdb.unique hop hc' hc hwork]

/-- Linked rows stay linked. -/
lemma status_mapped (hdb' : InStep db') (h : Mapped db db' F G) {op : OperationRow}
    {c : CommandRow} (hop : op ∈ db.operations.rows) (hc : Linked db op c) :
    (F c).status = (G op).status.command := by
  have hkey : (G op).key = op.key := by
    obtain ⟨hid, hsubject, -⟩ := h.operation op
    rw [OperationRow.key, OperationRow.key, OperationRow.kind, OperationRow.kind, hsubject, hid]
  have hmem : G op ∈ db'.operations.rows := by
    apply Table.mem_of_find? (k := op.key)
    rw [h.operations, Table.find?_of_mem hop, Option.map_some]
  obtain ⟨c', hc'⟩ := hdb'.command (G op) hmem
  have hid : c'.id = c.id := by
    have := hc'.id
    rw [(h.operation op).2.2.2, hc.id] at this
    exact (Option.some.inj this).symm
  have hfound := hc'.found
  rw [hid, h.commands, hc.found, Option.map_some] at hfound
  rw [Option.some.inj hfound, hc'.status]

/-- The commands that fail. -/
def failed (db : Db) (F : CommandRow → CommandRow) : List CommandRow :=
  db.commands.rows.filter fun c => (F c).status == .failed && !(c.status == .failed)

lemma failedCommands_perm (h : Mapped db db' F G) :
    (failedCommands db db').Perm ((failed db F).map F) := by
  refine (List.perm_ext_iff_of_nodup ((Table.nodup_rows _).filter _) ?_).mpr fun c' => ?_
  · refine List.Nodup.map_on ?_ ((Table.nodup_rows _).filter _)
    intro c₁ hc₁ c₂ hc₂ heq
    have hid : c₁.id = c₂.id := by rw [← (h.command c₁).1, ← (h.command c₂).1, heq]
    exact eq_of_id (List.mem_of_mem_filter hc₂) (List.mem_of_mem_filter hc₁) hid
  · unfold failed
    rw [List.mem_filter, List.mem_map]
    constructor
    · rintro ⟨hc', hnew⟩
      obtain ⟨c, hc, rfl⟩ := h.mem_commands hc'
      rw [(h.command c).1, Table.find?_of_mem hc, Option.any_some] at hnew
      exact ⟨c, List.mem_filter.mpr ⟨hc, hnew⟩, rfl⟩
    · rintro ⟨c, hc, rfl⟩
      obtain ⟨hc, hnew⟩ := List.mem_filter.mp hc
      refine ⟨?_, ?_⟩
      · apply Table.mem_of_find? (k := c.id)
        rw [h.commands, Table.find?_of_mem hc, Option.map_some]
      · rw [(h.command c).1, Table.find?_of_mem hc, Option.any_some]
        exact hnew

lemma failedOperations_perm (hdb : InStep db) (hdb' : InStep db') (h : Mapped db db' F G) :
    (failedOperations db db').Perm
      ((failed db F).filterMap fun c => (operationOf db c).map G) := by
  have hkey : ∀ op, (G op).key = op.key := by
    intro op
    obtain ⟨hid, hsubject, -⟩ := h.operation op
    rw [OperationRow.key, OperationRow.key, OperationRow.kind, OperationRow.kind, hsubject, hid]
  have hstatus : ∀ op ∈ db.operations.rows, ∀ c, Linked db op c →
      ((G op).status == .failed && !(op.status == .failed)) =
        ((F c).status == .failed && !(c.status == .failed)) := by
    intro op hop c hc
    have hmoved := status_mapped hdb' h hop hc
    rw [Bool.eq_iff_iff]
    simp only [Bool.and_eq_true, beq_iff_eq, Bool.not_eq_true', beq_eq_false_iff_ne, ne_eq,
      hmoved, hc.status, command_failed]
  refine (List.perm_ext_iff_of_nodup ((Table.nodup_rows _).filter _) ?_).mpr fun op' => ?_
  · refine (List.pairwise_filterMap ..).mpr ?_
    refine ((Table.nodup_rows _).filter _).imp_of_mem ?_
    intro c₁ c₂ hc₁ hc₂ hne op₁ hop₁ op₂ hop₂ heq
    obtain ⟨o₁, ho₁, rfl⟩ := Option.map_eq_some_iff.mp hop₁
    obtain ⟨o₂, ho₂, rfl⟩ := Option.map_eq_some_iff.mp hop₂
    have hkeys : o₁.key = o₂.key := by rw [← hkey o₁, ← hkey o₂, heq]
    have hfind := Table.find?_of_mem (operationOf_some ho₁).1
    rw [hkeys, Table.find?_of_mem (operationOf_some ho₂).1] at hfind
    obtain rfl := Option.some.inj hfind
    have hid₁ := (linked_operationOf hdb (List.mem_of_mem_filter hc₁) ho₁).id
    have hid₂ := (linked_operationOf hdb (List.mem_of_mem_filter hc₂) ho₂).id
    exact hne (eq_of_id (List.mem_of_mem_filter hc₂) (List.mem_of_mem_filter hc₁)
      (Option.some.inj (hid₁.symm.trans hid₂)))
  · rw [List.mem_filterMap]
    unfold failed
    rw [List.mem_filter]
    constructor
    · rintro ⟨hop', hnew⟩
      obtain ⟨op, hop, rfl⟩ := h.mem_operations hop'
      rw [hkey, Table.find?_of_mem hop, Option.any_some] at hnew
      obtain ⟨c, hc⟩ := hdb.command op hop
      refine ⟨c, List.mem_filter.mpr ⟨hc.mem, ?_⟩, ?_⟩
      · rwa [← hstatus op hop c hc]
      · rw [operationOf_linked hop hc, Option.map_some]
    · rintro ⟨c, hc, hsome⟩
      obtain ⟨hc, hnew⟩ := List.mem_filter.mp hc
      obtain ⟨op, hop, rfl⟩ := Option.map_eq_some_iff.mp hsome
      have hmem := (operationOf_some hop).1
      refine ⟨?_, ?_⟩
      · apply Table.mem_of_find? (k := op.key)
        rw [h.operations, Table.find?_of_mem hmem, Option.map_some]
      · rw [hkey, Table.find?_of_mem hmem, Option.any_some,
          hstatus op hmem c (linked_operationOf hdb hc hop)]
        exact hnew

lemma failureOf_mapped (hG : Mapped db db' F G) (op : OperationRow) :
    failureOf (G op) = failureOf op := by
  obtain ⟨hid, hsubject, hagent, -⟩ := hG.operation op
  rw [failureOf, failureOf, hsubject, hid, hagent]

lemma operationOf_mapped (hG : Mapped db db' F G) (c : CommandRow) :
    operationOf db' c = (operationOf db c).map G := by
  unfold operationOf
  cases c.work with
  | operation kind id => exact hG.operations (kind, id)
  | _ => rfl

/-- One of the two is `none`. -/
lemma filterMap_or {α β : Type} (f g : α → Option β) (l : List α)
    (h : ∀ a ∈ l, f a = none ∨ g a = none) :
    (l.filterMap f ++ l.filterMap g).Perm (l.filterMap fun a => (f a).or (g a)) := by
  induction l with
  | nil => exact .refl _
  | cons a l ih =>
    have ih := ih fun b hb => h b (List.mem_cons_of_mem a hb)
    rcases hf : f a with _ | b
    · rcases hg : g a with _ | b
      · simpa [List.filterMap_cons, hf, hg] using ih
      · simp only [List.filterMap_cons, hf, hg, Option.none_or]
        exact List.perm_middle.trans (ih.cons b)
    · have hg : g a = none := by
        rcases h a List.mem_cons_self with hnone | hnone
        · rw [hf] at hnone
          cases hnone
        · exact hnone
      simp only [List.filterMap_cons, hf, hg, Option.some_or, List.cons_append]
      exact ih.cons b

/-- What fails is what the failing commands stand for. -/
lemma failures_perm (hdb : InStep db) (hdb' : InStep db') (h : Mapped db db' F G) :
    (failures db db').Perm ((failed db F).filterMap (failureBy db)) := by
  have hoperations := (failedOperations_perm hdb hdb' h).filterMap failureOf
  have hcommands := (failedCommands_perm h).filterMap syncFailure
  rw [List.filterMap_filterMap] at hoperations
  rw [List.filterMap_map] at hcommands
  have hsync : syncFailure ∘ F = syncFailure := by
    funext c
    obtain ⟨hid, hwork, -⟩ := h.command c
    rw [Function.comp_apply, syncFailure, syncFailure, hwork, hid]
  rw [hsync] at hcommands
  have hmap : ∀ c, ((operationOf db c).map G).bind failureOf =
      (operationOf db c).bind failureOf := by
    intro c
    rcases operationOf db c with _ | op
    · rfl
    · exact failureOf_mapped h op
  simp only [hmap] at hoperations
  refine (hoperations.append hcommands).trans (filterMap_or _ _ _ ?_)
  intro c _
  unfold operationOf syncFailure
  cases c.work <;> simp

end

/-! ### Completions -/

/-- What a completed command announces. -/
def completed (db : Db) (ending : Ending) (c : CommandRow) : List Failure :=
  match ending with
  | .succeeded => []
  | .failed => (failureBy db c).toList

section

variable {db db' : Db} {now : Time} {agentId id : String} {ending : Ending} {result : Json}
  {c : CommandRow} {op : OperationRow}

lemma failureBy_operation {kind : OperationKind} (hwork : c.work = .operation kind id)
    (hop : db.operations.find? (kind, id) = some op) : failureBy db c = failureOf op := by
  rw [failureBy, operationOf, syncFailure, hwork]
  dsimp only
  rw [hop, Option.bind_some, Option.or_none]

lemma emits_finishBackup (h : finishBackup db now agentId id ending result = some db')
    (hwork : c.work = .operation .backup id) (hop : db.operations.find? (.backup, id) = some op)
    (hagent : op.agentId = agentId) : Emits db db' (completed db ending c) := by
  have hkey : op.key = (.backup, id) := Table.key_find? hop
  obtain ⟨hkind, rfl⟩ := Prod.mk.inj hkey
  obtain ⟨kept, -, h⟩ := Option.bind_eq_some_iff.mp h
  dsimp only at h
  rw [hop, Option.filter_some, if_pos (by simpa using hagent)] at h
  obtain rfl := Option.some.inj h
  have hfailure : failureOf op = some (.backup op.id) := by
    unfold failureOf
    cases hs : op.subject <;> rw [OperationRow.kind, hs] at hkind <;> first | rfl | cases hkind
  refine ⟨[_], rfl, ?_⟩
  cases ending with
  | succeeded => simp [completed, announced]
  | failed =>
    rw [completed, failureBy_operation hwork hop, hfailure]
    simp [announced, entry]

lemma emits_finishRestore (h : finishRestore db now agentId id ending result = some db')
    (hwork : c.work = .operation .restore id) (hop : db.operations.find? (.restore, id) = some op)
    (hagent : op.agentId = agentId) : Emits db db' (completed db ending c) := by
  have hkey : op.key = (.restore, id) := Table.key_find? hop
  obtain ⟨hkind, rfl⟩ := Prod.mk.inj hkey
  obtain ⟨kept, -, h⟩ := Option.bind_eq_some_iff.mp h
  dsimp only at h
  rw [hop, Option.filter_some, if_pos (by simpa using hagent)] at h
  cases ending with
  | succeeded =>
    obtain rfl := Option.some.inj h
    exact .of_eq rfl
  | failed =>
    rw [completed, failureBy_operation hwork hop]
    obtain ⟨opId, subject, opAgent, commandId, status, opResult, opError, startedAt,
      completedAt⟩ := op
    cases subject with
    | restore stackId backupId =>
      obtain rfl := Option.some.inj h
      refine ⟨[_], rfl, ?_⟩
      simp [announced, entry, failureOf]
    | _ => cases hkind

lemma emits_finishAction (h : finishAction db now agentId id ending result = some db')
    (hwork : c.work = .operation .action id) (hop : db.operations.find? (.action, id) = some op)
    (hagent : op.agentId = agentId) (hactive : op.status.active) :
    Emits db db' (completed db ending c) := by
  have hkey : op.key = (.action, id) := Table.key_find? hop
  obtain ⟨hkind, rfl⟩ := Prod.mk.inj hkey
  obtain ⟨safe, -, h⟩ := Option.bind_eq_some_iff.mp h
  obtain ⟨kept, -, h⟩ := Option.bind_eq_some_iff.mp h
  obtain ⟨error, -, h⟩ := Option.bind_eq_some_iff.mp h
  dsimp only at h
  rw [hop, Option.filter_some, if_pos (by simp [ofAgentActive, hagent, hactive])] at h
  obtain ⟨opId, subject, opAgent, commandId, status, opResult, opError, startedAt,
    completedAt⟩ := op
  obtain rfl : opAgent = agentId := hagent
  cases subject with
  | action action scope projectName serviceName =>
    obtain rfl := Option.some.inj h
    refine ⟨[_], rfl, ?_⟩
    cases ending with
    | succeeded => simp [completed, announced]
    | failed =>
      rw [completed, failureBy_operation hwork hop]
      simp [announced, entry, failureOf, List.lookup_cons]
  | _ => cases hkind

lemma emits_finishLogs (h : finishLogs db now agentId id ending result = some db')
    (hwork : c.work = .operation .logs id) (hop : db.operations.find? (.logs, id) = some op) :
    Emits db db' (completed db ending c) := by
  have hkey : op.key = (.logs, id) := Table.key_find? hop
  obtain ⟨hkind, rfl⟩ := Prod.mk.inj hkey
  obtain ⟨kept, -, h⟩ := Option.bind_eq_some_iff.mp h
  obtain ⟨error, -, h⟩ := Option.bind_eq_some_iff.mp h
  obtain rfl := Option.some.inj h
  have hfailure : failureOf op = none := by
    unfold failureOf
    cases hs : op.subject <;> rw [OperationRow.kind, hs] at hkind <;> first | rfl | cases hkind
  have hnone : completed db ending c = [] := by
    cases ending with
    | succeeded => rfl
    | failed => rw [completed, failureBy_operation hwork hop, hfailure, Option.toList_none]
  rw [hnone]
  exact .of_eq rfl

lemma emits_finishDeployment (h : finishDeployment db now agentId id ending result = some db')
    (hwork : c.work = .operation .deployment id)
    (hop : db.operations.find? (.deployment, id) = some op)
    (hagent : op.agentId = agentId) (hactive : op.status.active) :
    Emits db db' (completed db ending c) := by
  have hkey : op.key = (.deployment, id) := Table.key_find? hop
  obtain ⟨hkind, rfl⟩ := Prod.mk.inj hkey
  obtain ⟨safe, -, h⟩ := Option.bind_eq_some_iff.mp h
  obtain ⟨kept, -, h⟩ := Option.bind_eq_some_iff.mp h
  obtain ⟨error, -, h⟩ := Option.bind_eq_some_iff.mp h
  dsimp only at h
  rw [hop, Option.filter_some, if_pos (by simp [ofAgentActive, hagent, hactive])] at h
  obtain ⟨opId, subject, opAgent, commandId, status, opResult, opError, startedAt,
    completedAt⟩ := op
  cases subject with
  | deployment deploymentId revisionId prior action =>
    obtain rfl := Option.some.inj h
    refine ⟨[_], rfl, ?_⟩
    cases ending with
    | succeeded => simp [completed, announced]
    | failed =>
      rw [completed, failureBy_operation hwork hop]
      simp [announced, entry, failureOf, List.lookup_cons]
  | _ => cases hkind

lemma emits_syncFailed {db₁ : Db} (h : db₁.events = db.events)
    (hsync : failureBy db c = some (.sync c.id)) :
    Emits db (syncFailed db₁ agentId c ending) (completed db ending c) := by
  cases ending with
  | succeeded => exact .of_eq h
  | failed =>
    refine ⟨[_], congrArg (· ++ [_]) h, ?_⟩
    rw [completed, hsync]
    simp [announced, entry, List.lookup_cons]

/-- **Completions announce exactly what fails.** -/
lemma emits_finishWork (h : finishWork db now agentId c ending result = some db')
    (hop : ∀ kind id, c.work = .operation kind id → ∃ op,
      db.operations.find? (kind, id) = some op ∧ op.agentId = agentId ∧ op.status.active) :
    Emits db db' (completed db ending c) := by
  have hsync : (∀ kind id, c.work ≠ .operation kind id) → ∀ f, syncFailure c = some f →
      failureBy db c = some f := by
    intro hwork f hf
    have hnone : operationOf db c = none := by
      unfold operationOf
      split
      · next kind id heq => exact absurd heq (hwork kind id)
      · rfl
    rw [failureBy, hnone, hf]
    rfl
  unfold finishWork at h
  cases hwork : c.work with
  | operation kind id =>
    obtain ⟨op, hfound, hagent, hactive⟩ := hop kind id hwork
    rw [hwork] at h
    cases kind with
    | backup => exact emits_finishBackup h hwork hfound hagent
    | restore => exact emits_finishRestore h hwork hfound hagent
    | action => exact emits_finishAction h hwork hfound hagent hactive
    | logs => exact emits_finishLogs h hwork hfound
    | deployment => exact emits_finishDeployment h hwork hfound hagent hactive
  | connectorSync connectorId revision =>
    rw [hwork] at h
    obtain ⟨db₁, hfinish, h⟩ := Option.bind_eq_some_iff.mp h
    obtain rfl := Option.some.inj h
    obtain ⟨lastError, -, hfinish⟩ := Option.bind_eq_some_iff.mp hfinish
    obtain rfl := Option.some.inj hfinish
    exact emits_syncFailed rfl (hsync (by simp [hwork]) _ (by simp [syncFailure, hwork]))
  | stackSync stackId =>
    rw [hwork] at h
    obtain rfl := Option.some.inj h
    refine emits_syncFailed ?_ (hsync (by simp [hwork]) _ (by simp [syncFailure, hwork]))
    unfold finishStack
    split_ifs <;> rfl
  | routeSync routeId =>
    rw [hwork] at h
    obtain rfl := Option.some.inj h
    refine emits_syncFailed ?_ (hsync (by simp [hwork]) _ (by simp [syncFailure, hwork]))
    unfold finishRoute
    split_ifs <;> rfl
  | connectorRemove connectorId revision | plain type payload =>
    rw [hwork] at h
    obtain rfl := Option.some.inj h
    have hnone : completed db ending c = [] := by
      cases ending <;> simp [completed, failureBy, operationOf, syncFailure, hwork]
    rw [hnone]
    exact .of_eq rfl

end

/-! ### The sweep -/

/-- What the sweep announces of a stale command: nothing of a deployment run, and nothing of
a connector's sync. -/
def staleFailure (db : Db) (c : CommandRow) : Option Failure :=
  match c.work with
  | .operation .deployment _ => none
  | .operation _ _ => (operationOf db c).bind failureOf
  | _ => none

/-- The operation of a command waits for it, and no other does. -/
structure Awaited (db : Db) (c : CommandRow) (op : OperationRow) : Prop where
  found : operationOf db c = some op
  commandId : op.commandId = some c.id
  agentId : op.agentId = c.agentId
  active : op.status.active
  alone : ∀ op' ∈ db.operations.rows, op'.commandId = some c.id → op' = op

/-- Backups and restores are of stacks that exist. -/
def Stacked (db : Db) : Prop := ∀ op ∈ db.operations.rows, ∀ id,
  op.subject.stackId = some id → (db.managedStacks.find? id).isSome

section

variable {db db' : Db} {c : CommandRow} {op : OperationRow}

lemma find?_unique {α : Type} {l : List α} {p : α → Bool} {a : α} (ha : a ∈ l) (hp : p a)
    (h : ∀ x ∈ l, p x → x = a) : l.find? p = some a := by
  rcases hfind : l.find? p with _ | x
  · exact absurd hp (List.find?_eq_none.mp hfind a ha)
  · rw [h x (List.mem_of_find?_eq_some hfind) (List.find?_some hfind)]

/-- The operation that fails with its command is the awaited one. -/
lemma Awaited.find (h : Awaited db c op) (p : OperationRow → Bool) (hp : p op) :
    db.operations.rows.find? (fun op' => awaits c.id op.kind op' && p op') = some op := by
  refine find?_unique (operationOf_some h.found).1 ?_ fun op' hop' hawaits => ?_
  · simp [awaits, h.commandId, h.active, hp]
  · unfold awaits at hawaits
    simp only [Bool.and_eq_true, beq_iff_eq] at hawaits
    exact h.alone op' hop' hawaits.1.1.2

lemma onStack_of_stacked (h : Stacked db) (hop : op ∈ db.operations.rows) {stackId : String}
    (hid : op.subject.stackId = some stackId) : onStack db op := by
  rw [onStack, hid, Option.any_some]
  exact h op hop stackId hid

lemma emits_failWork (now : Time) (hstacked : Stacked db)
    (h : ∀ kind id, c.work = .operation kind id → ∃ op, Awaited db c op) :
    Emits db (failWork now db c) (staleFailure db c).toList := by
  unfold failWork staleFailure
  cases hwork : c.work with
  | operation kind id =>
    obtain ⟨op, hawaited⟩ := h kind id hwork
    obtain ⟨hmem, hwork'⟩ := operationOf_some hawaited.found
    obtain ⟨rfl, rfl⟩ := Work.operation.inj (hwork.symm.trans hwork')
    have hagent := hawaited.agentId
    have hfind := hawaited.find
    have honStack : ∀ stackId, op.subject.stackId = some stackId → onStack db op :=
      fun _ hid => onStack_of_stacked hstacked hmem hid
    rw [hawaited.found, Option.bind_some]
    obtain ⟨opId, subject, opAgent, commandId, status, opResult, opError, startedAt,
      completedAt⟩ := op
    cases subject with
    | backup stackId target stackRevision =>
      have hfind := hfind (onStack db) (honStack stackId rfl)
      dsimp only [OperationRow.kind, Subject.kind] at hfind ⊢
      rw [hfind]
      refine ⟨[_], rfl, ?_⟩
      simp [announced, entry, failureOf, List.lookup_cons]
    | restore stackId backupId =>
      have hfind := hfind (onStack db) (honStack stackId rfl)
      dsimp only [OperationRow.kind, Subject.kind] at hfind ⊢
      rw [hfind]
      refine ⟨[_], rfl, ?_⟩
      simp [announced, entry, failureOf]
    | action action scope projectName serviceName =>
      have hfind := hfind (fun _ => true) rfl
      dsimp only [OperationRow.kind, Subject.kind] at hfind ⊢
      simp only [Bool.and_true] at hfind
      rw [hfind]
      refine ⟨[_], rfl, ?_⟩
      obtain rfl : opAgent = c.agentId := hagent
      simp [announced, entry, failureOf, List.lookup_cons]
    | logs projectName serviceName tail since => exact .of_eq rfl
    | deployment deploymentId revisionId prior action =>
      dsimp only [OperationRow.kind, Subject.kind]
      split <;> exact .of_eq rfl
  | _ => exact .of_eq rfl

/-- What moves operations and no more keeps what is awaited, but for what it ends. -/
lemma Awaited.mapped {F G} (h : Awaited db c op) (hG : Mapped db db' F G)
    (hactive : (G op).status = op.status) : Awaited db' c (G op) := by
  obtain ⟨hmem, hwork⟩ := operationOf_some h.found
  obtain ⟨hid, hsubject, hagent, hcommand⟩ := hG.operation op
  have hfind : db'.operations.find? op.key = some (G op) := by
    rw [hG.operations, Table.find?_of_mem hmem, Option.map_some]
  refine ⟨?_, hcommand.trans h.commandId, hagent.trans h.agentId, ?_, fun op' hop' hop'_id => ?_⟩
  · rw [operationOf, hwork]
    exact hfind
  · rw [hactive]
    exact h.active
  · obtain ⟨op₀, hop₀, rfl⟩ := hG.mem_operations hop'
    rw [(hG.operation op₀).2.2.2] at hop'_id
    rw [h.alone op₀ hop₀ hop'_id]

lemma staleFailure_mapped {F G} (hG : Mapped db db' F G) (c : CommandRow) :
    staleFailure db' c = staleFailure db c := by
  have hbind : (operationOf db' c).bind failureOf = (operationOf db c).bind failureOf := by
    rw [operationOf_mapped hG]
    rcases operationOf db c with _ | op
    · rfl
    · exact failureOf_mapped hG op
  unfold staleFailure
  rw [hbind]

lemma stacked_mapped {F G} (h : Stacked db) (hG : Mapped db db' F G) : Stacked db' := by
  intro op hop id hid
  obtain ⟨op₀, hop₀, rfl⟩ := hG.mem_operations hop
  rw [(hG.operation op₀).2.1] at hid
  exact hG.managedStacks id (h op₀ hop₀ id hid)

/-- By induction on the stale commands: failing one leaves the others awaited. -/
lemma emits_foldl_failWork (now : Time) (l : List CommandRow) (hl : (l.map (·.id)).Nodup)
    (db : Db) (hstacked : Stacked db)
    (h : ∀ c ∈ l, ∀ kind id, c.work = .operation kind id → ∃ op, Awaited db c op) :
    Emits db (l.foldl (failWork now) db) (l.filterMap (staleFailure db)) := by
  induction l generalizing db with
  | nil => exact .of_eq rfl
  | cons c l ih =>
    rw [List.map_cons, List.nodup_cons] at hl
    obtain ⟨G, hG, hmove⟩ := moves_failWork db now c hstacked
    have hfirst := emits_failWork now hstacked (h c List.mem_cons_self)
    have hrest : ∀ c' ∈ l, ∀ kind id, c'.work = .operation kind id →
        ∃ op, Awaited (failWork now db c) c' op := by
      intro c' hc' kind id hwork
      obtain ⟨op, hawaited⟩ := h c' (List.mem_cons_of_mem c hc') kind id hwork
      refine ⟨G op, hawaited.mapped hG ?_⟩
      have hne : c'.id ≠ c.id := fun heq => hl.1 (heq ▸ List.mem_map_of_mem hc')
      rw [hmove op (operationOf_some hawaited.found).1]
      have hnot : failing c op = false := by
        unfold failing awaits
        simp [hawaited.commandId, hne]
      simp [swept, hnot]
    have hsecond := ih hl.2 (failWork now db c) (stacked_mapped hstacked hG) hrest
    have heq : l.filterMap (staleFailure (failWork now db c)) = l.filterMap (staleFailure db) :=
      List.filterMap_congr fun c' _ => staleFailure_mapped hG c'
    rw [heq] at hsecond
    have hboth := hfirst.trans hsecond
    rw [List.filterMap_cons]
    rcases hf : staleFailure db c with _ | f <;> rw [hf] at hboth <;> exact hboth

end

/-! ### The two transactions that fail commands -/

section

variable {db db' : Db}

/-- **Completions.** -/
lemma announces_completeCommand (hdb : InStep db) {now : Time} {agentId commandId : String}
    {ending : Ending} {result : Json} {answer : Completion}
    (h : completeCommand db now agentId commandId ending result = some (db', answer)) :
    Announces db db' := by
  rcases completeCommand_cases h with rfl | ⟨current, kept, hfound, hagent, hclaimed, hfinish⟩
  · exact announces_silent (.refl _)
  have hid := Table.key_find? hfound
  have hmem := Table.mem_of_find? hfound
  have hdb' := (good_completeCommand h hdb).1
  obtain ⟨G, hmapped, -⟩ := mapped_finishWork hfinish
  have hlinked : ∀ kind id, current.work = .operation kind id → ∃ op,
      db.operations.find? (kind, id) = some op ∧ op.agentId = agentId ∧ op.status.active := by
    intro kind id hwork
    obtain ⟨op, hop, -⟩ := hdb.operation current hmem kind id hwork
    have hof : operationOf db current = some op := by
      rw [operationOf, hwork]
      exact hop
    have hlink := linked_operationOf hdb hmem hof
    refine ⟨op, hop, hlink.agent.symm.trans hagent, ?_⟩
    rw [command_claimed.mp (hlink.status.symm.trans hclaimed)]
    rfl
  have hemits : Emits db db' (completed db ending current) := by
    obtain ⟨l, hl, hannounced⟩ := emits_finishWork hfinish hlinked
    exact ⟨l, hl, hannounced⟩
  rw [announces_iff hemits]
  refine List.Perm.trans (.of_eq ?_) (failures_perm hdb hdb' hmapped).symm
  cases ending with
  | succeeded =>
    have hnone : failed db (fun c => if (c.id = commandId && c.agentId = agentId : Bool) then
        completeRow now .succeeded kept c else c) = [] := by
      unfold failed
      rw [List.filter_eq_nil_iff]
      intro c _
      by_cases hc : (c.id = commandId && c.agentId = agentId : Bool) <;>
        simp [hc, completeRow, Ending.command]
    rw [hnone]
    rfl
  | failed =>
    have hone : failed db (fun c => if (c.id = commandId && c.agentId = agentId : Bool) then
        completeRow now .failed kept c else c) = [current] := by
      refine Table.filter_unique hmem ?_ fun c hc hnew => ?_
      · simp [hid, hagent, hclaimed, completeRow, Ending.command]
      · by_cases hchosen : (c.id = commandId && c.agentId = agentId : Bool)
        · rw [Bool.and_eq_true, decide_eq_true_eq] at hchosen
          exact eq_of_id hmem hc (hchosen.1.trans hid.symm)
        · dsimp only at hnew
          rw [if_neg hchosen] at hnew
          cases hs : c.status <;> simp [hs] at hnew
    rw [hone, completed]
    rcases hf : failureBy db current with _ | f <;> simp [hf]

/-- The failure that the sweep does not announce. -/
def unannounced (c : CommandRow) : Bool :=
  match c.work with
  | .operation .deployment _ | .connectorSync _ _ => true
  | _ => false

/-- Where one list leaves out what the other has, it is shorter. -/
lemma filterMap_perm_iff {α β : Type} (f g : α → Option β) (l : List α)
    (h : ∀ a ∈ l, f a = none ∨ f a = g a) :
    (l.filterMap f).Perm (l.filterMap g) ↔ ∀ a ∈ l, f a = g a := by
  have hlength : ∀ l : List α, (∀ a ∈ l, f a = none ∨ f a = g a) →
      (l.filterMap f).length ≤ (l.filterMap g).length ∧
        ((l.filterMap f).length = (l.filterMap g).length → ∀ a ∈ l, f a = g a) := by
    intro l
    induction l with
    | nil => exact fun _ => ⟨le_rfl, fun _ => nofun⟩
    | cons a l ih =>
      intro h
      obtain ⟨hle, hall⟩ := ih fun b hb => h b (List.mem_cons_of_mem a hb)
      have hhead := h a List.mem_cons_self
      rcases hf : f a with _ | b <;> rcases hg : g a with _ | b' <;>
        rw [hf, hg] at hhead <;> simp only [List.filterMap_cons, hf, hg, List.length_cons]
      · refine ⟨hle, fun heq => List.forall_mem_cons.mpr ⟨hf.trans hg.symm, hall heq⟩⟩
      · exact ⟨by omega, fun heq => by omega⟩
      · simp at hhead
      · refine ⟨by omega, fun heq => List.forall_mem_cons.mpr ⟨?_, hall (by omega)⟩⟩
        rw [hf, hg]
        simpa using hhead
  constructor
  · exact fun hperm => (hlength l h).2 hperm.length_eq
  · intro hall
    rw [List.filterMap_congr hall]

/-- **The sweep.** It announces all that it fails exactly if it fails no deployment run and no
connector's sync. -/
lemma announces_failStaleCommands (hdb : InStep db) (now staleBefore : Time) :
    Announces db (failStaleCommands db now staleBefore) ↔
      ∀ c ∈ db.commands.rows, isStale staleBefore now c → unannounced c = false := by
  have hdb' := (good_failStaleCommands db now staleBefore hdb).1
  obtain ⟨G, hmapped, -⟩ := mapped_failStaleCommands hdb now staleBefore
  set l := db.commands.rows.filter (isStale staleBefore now) with hl
  have hfailed : failed db (fun c => if isStale staleBefore now c then failRow now c else c) =
      l := by
    refine List.filter_congr fun c _ => ?_
    dsimp only
    by_cases hstale : isStale staleBefore now c
    · rw [if_pos hstale, hstale]
      rcases isStale_status hstale with hs | hs <;> simp [failRow, completeRow, Ending.command, hs]
    · rw [if_neg hstale]
      rw [Bool.not_eq_true] at hstale
      rw [hstale]
      cases hs : c.status <;> rfl
  have hawaited : ∀ c ∈ l, ∀ kind id, c.work = .operation kind id → ∃ op, Awaited db c op := by
    intro c hc kind id hwork
    obtain ⟨hc, hstale⟩ := List.mem_filter.mp hc
    obtain ⟨op, hop, -⟩ := hdb.operation c hc kind id hwork
    have hof : operationOf db c = some op := by
      rw [operationOf, hwork]
      exact hop
    have hlink := linked_operationOf hdb hc hof
    refine ⟨op, hof, hlink.id, hlink.agent.symm, ?_, fun op' hop' hid => ?_⟩
    · rcases isStale_status hstale with hs | hs <;> rw [hlink.status] at hs
      · rw [command_pending.mp hs]
        rfl
      · rw [command_claimed.mp hs]
        rfl
    · obtain ⟨c', hc'⟩ := hdb.command op' hop'
      have hids : c'.id = c.id := Option.some.inj (hc'.id.symm.trans hid)
      obtain rfl := eq_of_id hc hc'.mem hids
      have hof' := operationOf_linked hop' hc'
      exact Option.some.inj (hof'.symm.trans hof)
  have hids : (l.map (·.id)).Nodup :=
    db.commands.distinct.sublist (List.filter_sublist.map _)
  have hemits : Emits db (failStaleCommands db now staleBefore)
      (l.filterMap (staleFailure db)) := by
    refine emits_foldl_failWork now l hids
      (db.updateCommands (isStale staleBefore now) (failRow now) fun _ => rfl) hdb.stack ?_
    intro c hc kind id hwork
    obtain ⟨op, h⟩ := hawaited c hc kind id hwork
    exact ⟨op, h.found, h.commandId, h.agentId, h.active, h.alone⟩
  have hfailures := failures_perm hdb hdb' hmapped
  rw [hfailed] at hfailures
  -- Of each stale command the sweep announces the failure or nothing.
  have heither : ∀ c ∈ l, staleFailure db c = none ∨ staleFailure db c = failureBy db c := by
    intro c _
    unfold staleFailure failureBy syncFailure
    cases c.work with
    | operation kind id => cases kind <;> simp
    | _ => exact .inl rfl
  have hsame : ∀ c ∈ l, staleFailure db c = failureBy db c ↔ unannounced c = false := by
    intro c hc
    have hstale := (List.mem_filter.mp hc).2
    cases hwork : c.work with
    | operation kind id =>
      obtain ⟨op, hop⟩ := hawaited c hc kind id hwork
      obtain ⟨-, hwork'⟩ := operationOf_some hop.found
      obtain ⟨rfl, rfl⟩ := Work.operation.inj (hwork.symm.trans hwork')
      have hfailure : op.kind = .deployment → failureOf op ≠ none := by
        unfold OperationRow.kind failureOf
        cases op.subject <;> simp [Subject.kind]
      unfold staleFailure failureBy syncFailure unannounced
      rw [hop.found, hwork]
      cases hkind : op.kind <;> simp [Ne.symm, hfailure, hkind]
    | connectorSync connectorId revision =>
      simp [staleFailure, failureBy, operationOf, syncFailure, unannounced, hwork]
    | stackSync stackId | routeSync routeId | plain type payload =>
      rw [isStale, hwork, Bool.and_false] at hstale
      cases hstale
    | connectorRemove connectorId revision =>
      simp [staleFailure, failureBy, operationOf, syncFailure, unannounced, hwork]
  rw [announces_iff hemits, hfailures.congr_right, filterMap_perm_iff _ _ _ heither]
  constructor
  · exact fun h c hc hstale => (hsame c (List.mem_filter.mpr ⟨hc, hstale⟩)).mp
      (h c (List.mem_filter.mpr ⟨hc, hstale⟩))
  · intro h c hc
    exact (hsame c hc).mpr (h c (List.mem_filter.mp hc).1 (List.mem_filter.mp hc).2)

end

/-! ### Runs -/

/-- The sweep, if it is one, fails no deployment run and no connector's sync. -/
def Spares (db : Db) (t : Transaction) : Prop :=
  ∀ now staleBefore, t = .failStaleCommands now staleBefore →
    ∀ c ∈ db.commands.rows, isStale staleBefore now c → unannounced c = false

/-- **Failures and their events.** A transaction in a state that a run reaches adds exactly
one event for each failure it makes, of the kind of that failure, and no other failure event,
if and only if it is not a sweep that fails a deployment run or a connector's sync. -/
theorem failures_announced {db₀ db db' : Db} (hcommands : db₀.commands = ∅)
    (hoperations : db₀.operations = ∅) (hrun : Run db₀ db) (t : Transaction)
    (h : t.run db db') (hother : t = .other → Emits db db' []) :
    Announces db db' ↔ Spares db t := by
  have hdb := (good_run hrun (inStep_empty hcommands hoperations)).1
  have hspared : (∀ now staleBefore, t ≠ .failStaleCommands now staleBefore) →
      Announces db db' → (Announces db db' ↔ Spares db t) :=
    fun hne hannounces => iff_of_true hannounces fun now staleBefore heq =>
      absurd heq (hne now staleBefore)
  by_cases hspecial : special t = false
  · refine hspared (by rintro now staleBefore rfl; cases hspecial) (announces_silent ?_)
    exact (sequence_transaction hspecial (fun _ _ => trivial) h).lift Silent.refl Silent.trans
      (silent_statement (k := fun _ => True))
  cases t with
  | createBackup | createRestore | createRuntimeOperation | createRuntimeLogRequest
  | createDeploymentRun | createCommand | createConnector | updateConnector | createRoute
  | updateRoute | queueStackSync => exact absurd rfl hspecial
  | claimCommands now agentId limit locked =>
    obtain rfl := h
    exact hspared nofun (announces_silent (silent_claimCommands db now agentId limit locked))
  | completeCommand now agentId commandId ending result =>
    obtain ⟨answer, h⟩ := h
    exact hspared nofun (announces_completeCommand hdb h)
  | failStaleCommands now staleBefore =>
    obtain rfl := h
    rw [announces_failStaleCommands hdb now staleBefore]
    constructor
    · rintro hall _ _ ⟨⟩
      exact hall
    · exact fun hspares => hspares now staleBefore rfl
  | purgeRuntimeLogResults completedBefore =>
    obtain rfl := h
    exact hspared nofun (announces_silent (silent_purgeRuntimeLogResults db completedBefore))
  | other =>
    obtain ⟨hc, ho, -⟩ := h
    refine hspared nofun ((announces_iff (hother rfl)).mpr (.of_eq ?_))
    have hsilent : Silent db { db' with events := db.events } := .of_eq hc ho rfl
    exact (failures_silent hsilent).symm

/-- The database after a transaction that commits. -/
def committed {α : Type} (o : Option (Db × α)) : Db := (o.map (·.1)).getD {}

def sampleBackup : Db := committed (createBackup oneStack 0 "backup" "command" "stack" "target")

/-- A stale backup fails with its event. -/
theorem failures_announced_sample : Run oneStack sampleBackup ∧
    Announces sampleBackup (failStaleCommands sampleBackup 1 1) ∧
      failures sampleBackup (failStaleCommands sampleBackup 1 1) = [.backup "backup"] := by
  have hrun : Run oneStack sampleBackup :=
    .single ⟨.createBackup 0 "backup" "command" "stack" "target", .created, rfl⟩
  refine ⟨hrun, ?_, rfl⟩
  refine (failures_announced rfl rfl hrun (.failStaleCommands 1 1) rfl nofun).mpr ?_
  rintro now staleBefore ⟨⟩ c hc -
  obtain rfl := List.mem_singleton.mp hc
  rfl

def sampleDeployment : Db :=
  { agents := .single ⟨"agent", true, true⟩,
    deployments := .single
      { id := "deployment", agentId := "agent", projectName := "shop",
        sourceRepository := "https://example.org/shop.git", enabled := true },
    revisions := .single
      { id := "revision", deploymentId := "deployment", normalizedCompose := some "name: shop",
        checksum := "sum" } }

def sampleRequested : Db :=
  committed (createDeploymentRun sampleDeployment 0 "run" "command" "deployment" "revision" "deploy")

/-- A stale deployment run fails without one. -/
theorem run_unannounced : Run sampleDeployment sampleRequested ∧
    failures sampleRequested (failStaleCommands sampleRequested 1 1) = [.deploymentRun "run"] ∧
      ¬ Announces sampleRequested (failStaleCommands sampleRequested 1 1) := by
  have hfailures : failures sampleRequested (failStaleCommands sampleRequested 1 1) =
      [.deploymentRun "run"] := rfl
  refine ⟨.single ⟨.createDeploymentRun 0 "run" "command" "deployment" "revision" "deploy",
    .created, rfl⟩, hfailures, ?_⟩
  rintro ⟨fs, ⟨l, hl, rfl⟩, hperm⟩
  have hnil : l = [] := hl.symm
  rw [hfailures, hnil] at hperm
  exact absurd hperm.length_eq (by decide)

end GatewayControl.FailureEvents
