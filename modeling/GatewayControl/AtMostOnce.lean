import GatewayControl.AgentLoop

/-!
At-most-once execution. A command is executed only once its record is on disk, a record
is never dropped, and a command that has a record is never executed.

The invariant orders three sets of command IDs: the executed ones are on disk, what is
on disk (or about to be) is in memory.
-/

namespace GatewayControl.AtMostOnce

open Text AgentTypes AgentStore AgentLoop Programs

variable {H : Interface} {W : Type}

/-- One agent over one state directory, with arbitrary surroundings. A crash falls
between any two effects and leaves what the file held. -/
def agentSystem (S : Surroundings H W) (enrollmentToken : String)
    (executor : Command → Prog H CommandResult) :
    System (Agent.interface H) (Agent × W) Unit Phase Unit where
  exec := fun _ s o r t => effect S s.1 s.2 o r t.1 t.2
  start := fun _ phase s p t => p = pass enrollmentToken executor phase ∧ t = s
  environment := fun _ s t => t.1 = s.1
  crash := fun _ s t p => t.1 = s.1.restart ∧ p = pass enrollmentToken executor .enrolling

/-- A process just started, nothing executed yet, whatever the directory holds. -/
def Fresh (enrollmentToken : String) (executor : Command → Prog H CommandResult)
    (c : Config (Agent.interface H) (Agent × W) Unit Phase) : Prop :=
  (∃ file, c.state.1 = Agent.restart { file := file }) ∧
    c.thread () = pass enrollmentToken executor .enrolling

/-! ### The invariant -/

structure Recorded (a : Agent) : Prop where
  file : ∀ id, a.OnDisk id → (a.data.command id).isSome
  kept : ∀ d id, a.temporary = some d → a.OnDisk id → (d.command id).isSome
  temporary : ∀ d id, a.temporary = some d → (d.command id).isSome →
    (a.data.command id).isSome
  executed : ∀ id ∈ a.executions, a.OnDisk id
  once : a.executions.Nodup
  executing : ∀ id, a.executing = some id → id ∈ a.executions

lemma recorded_restart {a : Agent} (h : Recorded a) : Recorded a.restart where
  file := by
    rintro id ⟨d, hd, hid⟩
    simp only [Agent.restart] at hd ⊢
    simpa [hd] using hid
  kept := by simp [Agent.restart]
  temporary := by simp [Agent.restart]
  executed := h.executed
  once := h.once
  executing := by simp [Agent.restart]

lemma recorded_assign {a : Agent} (h : Recorded a) (id : String) (r : CommandRecord) :
    Recorded { a with data := a.data.assign id r } :=
  { h with
    file := fun k hk => Data.command_isSome_assign _ _ (h.file k hk)
    temporary := fun d k hd hk => Data.command_isSome_assign _ _ (h.temporary d k hd hk) }

lemma recorded_write {a : Agent} (h : Recorded a) :
    Recorded { a with temporary := some a.data } :=
  { h with
    kept := by
      rintro d id hd hid
      obtain rfl : a.data = d := by simpa using hd
      exact h.file id hid
    temporary := by
      rintro d id hd hid
      obtain rfl : a.data = d := by simpa using hd
      exact hid }

lemma recorded_renamed {a : Agent} (h : Recorded a) : Recorded a.renamed := by
  unfold Agent.renamed
  split
  · next d hd =>
      exact
        { h with
          file := by
            rintro id ⟨e, he, hid⟩
            obtain rfl : d = e := by simpa using he
            exact h.temporary d id hd hid
          kept := by simp
          temporary := by simp
          executed := fun id hid => ⟨d, rfl, h.kept d id hd (h.executed id hid)⟩ }
  · exact h

lemma recorded_enter {a : Agent} (h : Recorded a) {id : String} (hdisk : a.OnDisk id)
    (hnew : id ∉ a.executions) :
    Recorded { a with executing := some id, executions := id :: a.executions } :=
  { h with
    executed := by
      rintro k hk
      rcases List.mem_cons.1 hk with rfl | hk
      · exact hdisk
      · exact h.executed k hk
    once := List.nodup_cons.2 ⟨hnew, h.once⟩
    executing := by
      rintro k hk
      obtain rfl : id = k := by simpa using hk
      exact List.mem_cons_self }

def isEnter : AgentOp H → Prop
  | .enter _ => True
  | _ => False

/-- Only entering an execution needs more than the invariant to keep it. -/
lemma recorded_effect {S : Surroundings H W} {a a' : Agent} {w w' : W} {o : AgentOp H}
    {r : o.Res} (ho : ¬ isEnter o) (h : Recorded a) (hs : effect S a w o r a' w') :
    Recorded a' ∧ a'.executions = a.executions := by
  cases o with
  | enter c => exact absurd trivial ho
  | assign id record =>
      obtain ⟨rfl, -⟩ := hs
      exact ⟨recorded_assign h _ _, rfl⟩
  | assignCredentials c =>
      obtain ⟨rfl, -⟩ := hs
      exact ⟨{ h with file := h.file, temporary := h.temporary }, rfl⟩
  | writeTemporary =>
      obtain ⟨-, ⟨-, rfl⟩ | ⟨-, rfl⟩⟩ := hs
      · exact ⟨recorded_write h, rfl⟩
      · exact ⟨{ h with kept := by simp, temporary := by simp }, rfl⟩
  | rename =>
      obtain ⟨-, ⟨-, rfl⟩ | ⟨-, rfl⟩⟩ := hs
      · refine ⟨recorded_renamed h, ?_⟩
        unfold Agent.renamed
        split <;> rfl
      · exact ⟨h, rfl⟩
  | logFailure id =>
      obtain ⟨rfl, -⟩ := hs
      exact ⟨{ h with }, rfl⟩
  | poll =>
      obtain ⟨rfl, -⟩ := hs
      cases r with
      | ok _ => exact ⟨{ h with }, rfl⟩
      | error _ => exact ⟨h, rfl⟩
  | submit result =>
      obtain ⟨rfl, -⟩ := hs
      cases r with
      | ok _ => exact ⟨{ h with }, rfl⟩
      | error _ => exact ⟨h, rfl⟩
  | leave =>
      obtain ⟨rfl, -⟩ := hs
      exact ⟨{ h with executing := by simp }, rfl⟩
  | command _ | pendingResults | credentials =>
      obtain ⟨-, rfl, -⟩ := hs
      exact ⟨h, rfl⟩
  | chmod | syncDirectory | now | cancelled | enroll | host _ =>
      obtain ⟨rfl, -⟩ := hs
      exact ⟨h, rfl⟩

/-! ### The contract -/

/-- No foreign step touches the agent, and an execution may start only on a command that
is on disk and was never executed. -/
def contract (S : Surroundings H W) : Contract (Agent.interface H) (Agent × W) Unit where
  exec := fun _ s o r t => effect S s.1 s.2 o r t.1 t.2
  inv := fun s => Recorded s.1
  rely := fun _ s t => t.1 = s.1
  allowed := fun _ s o => ∀ c, o = .enter c → s.1.OnDisk c.id ∧ c.id ∉ s.1.executions

variable {S : Surroundings H W} {α : Type}

lemma contract_lawful : (contract S).Lawful where
  refl := fun _ _ => rfl
  trans := fun _ _ _ _ h h' => h'.trans h

lemma stable_agent (P : Agent → Prop) : Stable (contract S) () fun s => P s.1 := by
  rintro s t - - (h : t.1 = s.1) hP
  simpa [h] using hP

/-- A program that enters no execution keeps what it never executed. -/
lemma triple_quiet {p : AgentProg H α} (hp : p.Only fun o => ¬ isEnter o) :
    Triple (contract S) () (fun _ => True) p fun _ _ => True := by
  refine triple_only hp (stable_agent fun _ => True) ?_ ?_
  · rintro s o ho - - c rfl
    exact absurd trivial ho
  · intro s o r t ho hi _ hs
    exact ⟨(recorded_effect ho hi hs).1, fun j hj => absurd rfl hj, trivial⟩

/-- One effect other than entering an execution, between two assertions on the agent. -/
lemma triple_effect {o : AgentOp H} {P : Agent → Prop} {R : o.Res → Agent → Prop}
    (ho : ¬ isEnter o)
    (hstep : ∀ a w r a' w', Recorded a → P a → effect S a w o r a' w' → R r a') :
    Triple (contract S) () (fun s => P s.1) (eff o) fun r s => R r s.1 := by
  refine triple_perform (stable_agent P) (fun r => stable_agent (R r)) ?_ ?_
  · rintro s - - c rfl
    exact absurd trivial ho
  · intro s r t hi hP hs
    exact ⟨(recorded_effect ho hi hs).1, fun j hj => absurd rfl hj,
      hstep _ _ _ _ _ hi hP hs⟩

/-! ### The programs -/

/-- The effects that only read or write the agent's own state and files, or talk to the
control plane. -/
lemma only_eff {o : AgentOp H} (ho : ¬ isEnter o) : (eff o).Only fun o => ¬ isEnter o :=
  ⟨ho, fun _ => trivial⟩

lemma persistLocked_quiet : (persistLocked (H := H)).run.Only fun o => ¬ isEnter o := by
  refine only_bind (only_eff id) fun _ => ?_
  refine only_bind (only_eff id) fun _ => ?_
  refine only_bind (only_eff id) fun _ => ?_
  exact only_eff id

lemma assign_quiet (id : String) (f : Time → CommandRecord) :
    (do lift (eff (.assign id (f (← lift (eff .now))))); persistLocked :
      AgentFallible H Unit).run.Only fun o => ¬ isEnter o := by
  refine only_bind (.lift (only_eff fun h => h)) fun _ => ?_
  refine only_bind (.lift (only_eff fun h => h)) fun _ => ?_
  exact persistLocked_quiet

lemma markDelivered_quiet (id : String) :
    (markDelivered (H := H) id).run.Only fun o => ¬ isEnter o := by
  unfold markDelivered
  refine only_bind (.lift (only_eff fun h => h)) fun record => ?_
  cases record with
  | none => trivial
  | some record =>
      simp only
      split
      · trivial
      · exact assign_quiet _ _

lemma deliverResult_quiet (result : CommandResult) :
    (deliverResult (H := H) result).run.Only fun o => ¬ isEnter o :=
  only_bind (only_eff fun h => h) fun _ => markDelivered_quiet _

lemma handleRecorded_quiet (command : Command) (record : CommandRecord) :
    (handleRecorded (H := H) command record).run.Only fun o => ¬ isEnter o := by
  unfold handleRecorded
  split
  · exact deliverResult_quiet _
  · refine only_bind (.lift (only_eff fun h => h)) fun _ => ?_
    exact only_bind (assign_quiet _ _) fun _ => deliverResult_quiet _

lemma deliverPending_quiet : (deliverPending (H := H)).run.Only fun o => ¬ isEnter o := by
  have hall : ∀ results, (deliverAll (H := H) results).run.Only fun o => ¬ isEnter o := by
    intro results
    induction results with
    | nil => trivial
    | cons result results ih => exact only_bind (deliverResult_quiet _) fun _ => ih
  exact only_bind (.lift (only_eff fun h => h)) hall

lemma onHost_quiet (p : Prog H α) : (onHost p).Only fun o => ¬ isEnter o := by
  induction p with
  | pure a => trivial
  | op o k ih => exact ⟨id, ih⟩

lemma ensureEnrollment_quiet (token : String) :
    (ensureEnrollment (H := H) token).Only fun o => ¬ isEnter o := by
  have hagain : (again (H := H) .enrolling).Only fun o => ¬ isEnter o :=
    .bind (only_eff fun h => h) fun _ => trivial
  unfold ensureEnrollment
  refine .bind (only_eff fun h => h) fun c => ?_
  cases c with
  | some _ => trivial
  | none =>
      simp only
      split
      · trivial
      · refine .bind (only_eff fun h => h) fun r => ?_
        cases r with
        | error _ => exact hagain
        | ok c =>
            refine .bind ?_ fun r => by cases r <;> trivial
            unfold saveCredentials
            split
            · trivial
            · exact only_bind (.lift (only_eff fun h => h)) fun _ => persistLocked_quiet

/-! ### Marking running -/

/-- `id` was never executed, and its record has come as far as `stage` says. -/
def Unexecuted (id : String) (stage : Agent → Prop) (a : Agent) : Prop :=
  id ∉ a.executions ∧ stage a

/-- The next effect brings a never executed command one stage further. -/
lemma triple_stage {id : String} {o : AgentOp H} {P : Agent → Prop} {R : o.Res → Agent → Prop}
    (ho : ¬ isEnter o)
    (hstep : ∀ a w r a' w', P a → effect S a w o r a' w' → R r a') :
    Triple (contract S) () (fun s => Unexecuted id P s.1) (eff o)
      fun r s => Unexecuted id (R r) s.1 := by
  refine triple_effect ho fun a w r a' w' hi hP hs => ?_
  refine ⟨?_, hstep a w r a' w' hP.2 hs⟩
  rw [(recorded_effect ho hi hs).2]
  exact hP.1

/-- A stage whose error ends the program. -/
lemma triple_attempt {id : String} {p : AgentProg H (Except String Unit)}
    {f : Unit → AgentFallible H Unit} {P R : Agent → Prop}
    {ok : Unit → Agent × W → Prop}
    (hp : Triple (contract S) () (fun s => Unexecuted id P s.1) p
      fun r s => Unexecuted id (fun a => r = .ok () → R a) s.1)
    (hf : Triple (contract S) () (fun s => Unexecuted id R s.1) (f ()).run
      (Outcome ok fun _ _ => True)) :
    Triple (contract S) () (fun s => Unexecuted id P s.1) (attempt p >>= f).run
      (Outcome ok fun _ _ => True) := by
  refine triple_fallible_bind contract_lawful (fun _ => stable_true) ?_ fun _ => hf
  refine triple_conseq hp (fun _ _ h => h) fun r s _ h => ?_
  cases r with
  | ok _ => exact ⟨h.1, h.2 rfl⟩
  | error _ => trivial

lemma persistLocked_triple (id : String) :
    Triple (contract S) ()
      (fun s => Unexecuted id (fun a => (a.data.command id).isSome) s.1)
      persistLocked.run
      (Outcome (fun _ s => Unexecuted id (fun a => a.OnDisk id) s.1) fun _ _ => True) := by
  unfold persistLocked
  refine triple_attempt (R := fun a => ∃ d, a.temporary = some d ∧ (d.command id).isSome)
    (triple_stage (fun h => h) ?_) ?_
  · rintro a w r a' w' hP ⟨-, ⟨-, rfl⟩ | ⟨⟨e, rfl⟩, -⟩⟩ hr
    · exact ⟨a.data, rfl, hP⟩
    · cases hr
  refine triple_attempt (R := fun a => a.OnDisk id) (triple_stage (fun h => h) ?_) ?_
  · rintro a w r a' w' ⟨d, hd, hid⟩ ⟨-, ⟨-, rfl⟩ | ⟨⟨e, rfl⟩, -⟩⟩ hr
    · exact ⟨d, by simp [Agent.renamed, hd], hid⟩
    · cases hr
  refine triple_attempt (R := fun a => a.OnDisk id) (triple_stage (fun h => h) ?_) ?_
  · rintro a w r a' w' hP ⟨rfl, -⟩ -
    exact hP
  refine triple_conseq (triple_stage (R := fun _ a => a.OnDisk id) (fun h => h) ?_)
    (fun _ _ h => h) ?_
  · rintro a w r a' w' hP ⟨rfl, -⟩
    exact hP
  · rintro (_ | _) s - h
    · trivial
    · exact h

lemma triple_absurd {P : Agent × W → Prop} {p : AgentProg H α} {Q : α → Agent × W → Prop}
    (h : ∀ s, ¬ P s) : Triple (contract S) () P p Q :=
  fun s _ hP => absurd hP (h s)

/-- `MarkRunning` returns without an error only with the record on disk. -/
lemma markRunning_triple (id : String) :
    Triple (contract S) () (fun _ => True) (markRunning id).run
      (Outcome (fun _ s => Unexecuted id (fun a => a.OnDisk id) s.1) fun _ _ => True) := by
  unfold markRunning
  have hread : Triple (contract S) () (fun _ => True) (eff (.command id))
      fun r s => r = none → Unexecuted id (fun _ => True) s.1 := by
    refine triple_effect (o := .command id) (P := fun _ => True)
      (R := fun r a => r = none → Unexecuted id (fun _ => True) a) (fun h => h) ?_
    rintro a w r a' w' hi - ⟨rfl, rfl, -⟩ hnone
    refine ⟨fun hid => ?_, trivial⟩
    simpa [hnone] using hi.file id (hi.executed id hid)
  refine triple_fallible_bind contract_lawful (fun _ => stable_true)
    (triple_lift contract_lawful (fun r => stable_agent fun a => r = none → _) hread) ?_
  rintro (_ | _)
  · refine triple_fallible_bind contract_lawful (fun _ => stable_true)
      (triple_lift contract_lawful
        (fun _ => stable_agent (Unexecuted id fun _ => True))
        (triple_conseq (triple_stage (R := fun _ _ => True) (fun h => h) fun _ _ _ _ _ _ _ => trivial)
          (fun _ _ h => h rfl) fun _ _ _ h => h)) fun now => ?_
    refine triple_fallible_bind contract_lawful (fun _ => stable_true)
      (triple_lift contract_lawful
        (fun _ => stable_agent (Unexecuted id fun a => (a.data.command id).isSome))
        (triple_stage (R := fun _ a => (a.data.command id).isSome) (fun h => h) ?_))
      fun _ => persistLocked_triple id
    rintro a w r a' w' - ⟨rfl, -⟩
    simp
  · exact triple_fallible_throw (stable_agent fun a => _ = none → _) fun _ _ _ => trivial

/-- An execution starts on a command that `MarkRunning` has put on disk. -/
lemma execute_triple (executor : Command → Prog H CommandResult) (command : Command) :
    Triple (contract S) ()
      (fun s => Unexecuted command.id (fun a => a.OnDisk command.id) s.1)
      (execute executor command) fun _ _ => True := by
  unfold execute
  refine triple_bind contract_lawful (Q := fun _ _ => True) (triple_perform
    (stable_agent (Unexecuted command.id fun a => a.OnDisk command.id))
    (fun _ => stable_true) ?_ ?_) fun _ => ?_
  · rintro s - hP c hc
    obtain rfl : command = c := by simpa using hc
    exact ⟨hP.2, hP.1⟩
  · rintro s r t hi hP ⟨ht, -⟩
    refine ⟨?_, fun j hj => absurd rfl hj, trivial⟩
    show Recorded t.1
    rw [ht]
    exact recorded_enter hi hP.2 hP.1
  · refine triple_quiet (.bind (onHost_quiet _) fun _ => ?_)
    exact .bind (only_eff (by exact id)) fun _ => trivial

lemma handleNew_triple (executor : Command → Prog H CommandResult) (command : Command) :
    Triple (contract S) () (fun _ => True) (handleNew executor command).run fun _ _ => True := by
  refine triple_conseq (Q := Outcome (fun _ _ => True) fun _ _ => True) ?_ (fun _ _ h => h)
    fun _ _ _ _ => trivial
  refine triple_fallible_bind contract_lawful (fun _ => stable_true)
    (markRunning_triple command.id) fun _ => ?_
  refine triple_fallible_bind contract_lawful (fun _ => stable_true)
    (triple_lift contract_lawful (fun _ => stable_true) (execute_triple executor command))
    fun result => ?_
  refine triple_conseq (triple_quiet (only_bind (assign_quiet _ _) fun _ =>
    deliverResult_quiet _)) (fun _ _ h => h) ?_
  rintro (_ | _) _ - - <;> trivial

lemma handleCommand_triple (executor : Command → Prog H CommandResult) (command : Command) :
    Triple (contract S) () (fun _ => True) (handleCommand executor command).run
      fun _ _ => True := by
  unfold handleCommand
  split
  · exact triple_pure stable_true fun _ _ _ => trivial
  · refine triple_bind contract_lawful (p := ExceptT.run (lift (eff (.command command.id))))
      (Q := fun _ _ => True) (triple_quiet (.lift (only_eff fun h => h))) ?_
    rintro (_ | _ | record)
    · exact triple_pure stable_true fun _ _ _ => trivial
    · exact handleNew_triple executor command
    · exact triple_quiet (handleRecorded_quiet command record)

lemma processCommands_triple (executor : Command → Prog H CommandResult)
    (commands : List Command) :
    Triple (contract S) () (fun _ => True) (processCommands executor commands)
      fun _ _ => True := by
  induction commands with
  | nil => exact triple_pure stable_true fun _ _ _ => trivial
  | cons command commands ih =>
      refine triple_bind contract_lawful (Q := fun _ _ => True)
        (triple_quiet (only_eff fun h => h)) fun stop => ?_
      split
      · exact triple_pure stable_true fun _ _ _ => trivial
      · refine triple_bind contract_lawful (Q := fun _ _ => True) ?_ fun _ => ih
        refine triple_bind contract_lawful (handleCommand_triple executor command) ?_
        rintro (_ | _)
        · exact triple_quiet (only_eff fun h => h)
        · exact triple_pure stable_true fun _ _ _ => trivial

lemma pass_triple (token : String) (executor : Command → Prog H CommandResult)
    (phase : Phase) :
    Triple (contract S) () (fun _ => True) (pass token executor phase) fun _ _ => True := by
  have hagain : ∀ phase, (again (H := H) phase).Only fun o => ¬ isEnter o := fun _ =>
    .bind (only_eff fun h => h) fun _ => trivial
  cases phase with
  | enrolling => exact triple_quiet (ensureEnrollment_quiet token)
  | stopped => exact triple_pure stable_true fun _ _ _ => trivial
  | looping =>
      refine triple_bind contract_lawful (triple_quiet deliverPending_quiet) ?_
      rintro (_ | _)
      · exact triple_quiet (hagain _)
      · refine triple_bind contract_lawful (triple_quiet (only_eff fun h => h)) ?_
        rintro (_ | commands)
        · exact triple_quiet (hagain _)
        · exact triple_bind contract_lawful (processCommands_triple executor commands)
            fun _ => triple_quiet (hagain _)

lemma keeps_agentSystem (token : String) (executor : Command → Prog H CommandResult) :
    Keeps (agentSystem S token executor) (contract S) fun _ _ _ => True where
  lawful := contract_lawful
  exec := fun _ _ _ _ _ h => h
  start := by
    rintro _ phase s p t ⟨rfl, rfl⟩ hi -
    exact ⟨hi, fun j hj => absurd rfl hj, pass_triple token executor phase t hi trivial⟩
  environment := by
    rintro _ s t (ht : t.1 = s.1) hi
    refine ⟨?_, fun _ => ht⟩
    show Recorded t.1
    rwa [ht]
  crash := by
    rintro _ s t p ⟨ht, rfl⟩ hi
    have hi' : Recorded t.1 := ht ▸ recorded_restart hi
    exact ⟨hi', fun j hj => absurd rfl hj, pass_triple token executor .enrolling t hi' trivial⟩

lemma recorded_fresh (file : Option Data) :
    Recorded (Agent.restart { file := file }) where
  file := by
    rintro id ⟨d, hd, hid⟩
    simp only [Agent.restart] at hd ⊢
    simpa [hd] using hid
  kept := by simp [Agent.restart]
  temporary := by simp [Agent.restart]
  executed := by simp [Agent.restart]
  once := by simp [Agent.restart]
  executing := by simp [Agent.restart]

/-- **At-most-once execution.** Whatever is polled, however often, whichever writes fail
and wherever the process is cut and restarted, no command is executed twice, and while a
command is being executed its record is in the state file. -/
theorem execute_at_most_once (S : Surroundings H W) (token : String)
    (executor : Command → Prog H CommandResult)
    (c : Config (Agent.interface H) (Agent × W) Unit Phase)
    (h : Reach (agentSystem S token executor) (Fresh token executor) c) :
    c.state.1.executions.Nodup ∧
      ∀ id, c.state.1.executing = some id → c.state.1.OnDisk id := by
  have hsound : Sound (contract S) (fun _ _ _ => True) c := by
    refine reach_sound (keeps_agentSystem token executor) ?_ h
    rintro c ⟨⟨file, hfile⟩, hth⟩
    have hi : Recorded c.state.1 := hfile ▸ recorded_fresh file
    refine ⟨hi, fun i => ?_⟩
    rw [show i = () from rfl, hth]
    exact pass_triple token executor .enrolling c.state hi trivial
  obtain ⟨hi, -⟩ := hsound
  exact ⟨hi.once, fun id hid => hi.executed id (hi.executing id hid)⟩

/-! ### A run that executes a command -/

abbrev noHost : Interface := ⟨Empty, fun _ => Unit⟩

def ping : Command := ⟨"3f2504e0-4f89-41d3-9a0c-0305e82c3301", "ping", .raw "\x7b\x7d"⟩

def pong (c : Command) : Prog noHost CommandResult :=
  pure { commandId := c.id, type := c.type, success := true, exitCode := 0, stdout := "pong",
         startedAt := 1, finishedAt := 1 }

/-- A control plane that hands out one ping at each poll. -/
def pinging : Surroundings noHost Unit where
  enroll := fun _ _ _ => True
  poll := fun _ r _ => r = .ok [ping]
  submit := fun _ _ _ _ => True
  host := fun _ _ _ _ => True

def pingAnswers : Answers noHost Unit where
  now := 1
  enroll := fun w => (.ok ⟨"a", "b"⟩, w)
  poll := fun w => (.ok [ping], w)
  submit := fun _ w => (.ok (), w)
  host := fun w _ => ((), w)

lemma pingAnswers_for : pingAnswers.For pinging where
  enroll := fun _ => trivial
  poll := fun _ => rfl
  submit := fun _ _ => trivial
  host := fun _ _ => trivial

/-- A directory of an enrolled agent. -/
def enrolled : Agent := Agent.restart { file := some { credentials := some ⟨"a", "b"⟩ } }

/-- The second pass of the loop, up to and into the execution of the ping it polled. -/
def executingPing : Config (Agent.interface noHost) (Agent × Unit) Unit Phase :=
  let p := (pass "" pong .looping).runFor (fun s o => succeed pingAnswers s.1 s.2 o) 12
    (enrolled, ())
  ⟨p.2, fun _ => p.1⟩

theorem execute_at_most_once_ping :
    executingPing.state.1.executing = some ping.id ∧
      executingPing.state.1.executions.Nodup ∧
      ∀ id, executingPing.state.1.executing = some id → executingPing.state.1.OnDisk id := by
  refine ⟨by decide, execute_at_most_once pinging "" pong executingPing ?_⟩
  let h := fun (s : Agent × Unit) o => succeed pingAnswers s.1 s.2 o
  have hh : ∀ s o, (agentSystem pinging "" pong).exec () s o (h s o).1 (h s o).2 :=
    fun s o => effect_succeed pingAnswers_for s.1 s.2 o
  have h0 : Reach (agentSystem pinging "" pong) (Fresh "" pong)
      ⟨(enrolled, ()), fun _ => pass "" pong .enrolling⟩ := .init ⟨⟨_, rfl⟩, rfl⟩
  have h1 := (reach_runFor hh 1 h0).step (.start () (a := .looping) rfl ⟨rfl, rfl⟩)
  simp only [Function.update_eq_const_of_subsingleton] at h1
  have h2 := reach_runFor hh 12 h1
  simp only [Function.update_eq_const_of_subsingleton] at h2
  exact h2

end GatewayControl.AtMostOnce
