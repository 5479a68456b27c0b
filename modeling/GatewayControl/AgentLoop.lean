import GatewayControl.AgentStore
import GatewayControl.Programs

/-!
The agent's command loop as a program. Every step that can fail or be cut by a crash is
an effect of its own: the three system calls of a persist that change what is on disk,
the requests to the control plane, and the beginning and end of an execution.

The executor is a parameter, a program over its own host effects, and so is what the
network and the host do.
-/

namespace GatewayControl.AgentLoop

open Text AgentTypes AgentStore Programs

inductive AgentOp (H : Interface) where
  | command (id : String)
  | assign (id : String) (record : CommandRecord)
  | pendingResults
  | credentials
  | assignCredentials (c : Credentials)
  | writeTemporary
  | rename
  | chmod
  | syncDirectory
  | now
  | cancelled
  | logFailure (commandId : String)
  | enroll
  | poll
  | submit (result : CommandResult)
  | enter (command : Command)
  | leave
  | host (o : H.Op)

abbrev AgentOp.Res {H : Interface} : AgentOp H → Type
  | .command _ => Option CommandRecord
  | .pendingResults => List CommandResult
  | .credentials => Option Credentials
  | .writeTemporary | .rename | .chmod | .syncDirectory | .submit _ => Except String Unit
  | .now => Time
  | .cancelled => Bool
  | .enroll => Except String Credentials
  | .poll => Except String (List Command)
  | .host o => H.Res o
  | .assign _ _ | .assignCredentials _ | .logFailure _ | .enter _ | .leave => Unit

abbrev Agent.interface (H : Interface) : Interface := ⟨AgentOp H, AgentOp.Res⟩

variable {H : Interface}

abbrev AgentProg (H : Interface) := Prog (Agent.interface H)

abbrev AgentFallible (H : Interface) := Fallible (Agent.interface H)

/-- Perform an effect. -/
def eff (o : AgentOp H) : AgentProg H (AgentOp.Res o) := Prog.perform (F := Agent.interface H) o

/-- Perform an effect that cannot fail, inside a program that can. -/
def lift (p : AgentProg H α) : AgentFallible H α := ExceptT.lift p

/-- Perform an effect that reports an error, and stop at the error. -/
def attempt (p : AgentProg H (Except String α)) : AgentFallible H α := ExceptT.mk p

/-! ### The store's methods -/

def persistLocked : AgentFallible H Unit := do
  attempt (eff .writeTemporary)
  attempt (eff .rename)
  attempt (eff .chmod)
  attempt (eff .syncDirectory)

def saveCredentials (c : Credentials) : AgentFallible H Unit :=
  if c.agentId = "" ∨ c.apiCredential = "" then
    throw "agent ID and API credential are required"
  else do
    lift (eff (.assignCredentials c))
    persistLocked

def markRunning (id : String) : AgentFallible H Unit := do
  match ← lift (eff (.command id)) with
  | some _ => throw "command already recorded"
  | none =>
      lift (eff (.assign id (runningRecord (← lift (eff .now)))))
      persistLocked

def saveResult (result : CommandResult) : AgentFallible H Unit := do
  lift (eff (.assign result.commandId (completedRecord result (← lift (eff .now)))))
  persistLocked

def markDelivered (id : String) : AgentFallible H Unit := do
  match ← lift (eff (.command id)) with
  | none => throw "command result is not recorded"
  | some record =>
      if record.result.isNone then
        throw "command result is not recorded"
      else do
        lift (eff (.assign id (deliveredRecord record (← lift (eff .now)))))
        persistLocked

/-! ### The loop -/

/-- The executor's program among the agent's effects. -/
def onHost : Prog H α → AgentProg H α
  | .pure a => .pure a
  | .op o k => .op (.host o) fun r => onHost (k r)

def execute (executor : Command → Prog H CommandResult) (command : Command) :
    AgentProg H CommandResult := do
  eff (.enter command)
  let result ← onHost (executor command)
  eff .leave
  pure result

def deliverResult (result : CommandResult) : AgentFallible H Unit := do
  attempt (eff (.submit result))
  markDelivered result.commandId

/-- A command that already has a record: deliver its result, or report it interrupted. -/
def handleRecorded (command : Command) (record : CommandRecord) : AgentFallible H Unit :=
  match record.result with
  | some result => deliverResult result
  | none => do
      let result := interruptedResult command (← lift (eff .now))
      saveResult result
      deliverResult result

/-- A command without a record: mark it running, execute it, deliver its result. -/
def handleNew (executor : Command → Prog H CommandResult) (command : Command) :
    AgentFallible H Unit := do
  markRunning command.id
  let result ← lift (execute executor command)
  saveResult result
  deliverResult result

def handleCommand (executor : Command → Prog H CommandResult) (command : Command) :
    AgentFallible H Unit :=
  if !commandIDPattern command.id then
    throw "control plane returned an invalid command ID"
  else do
    match ← lift (eff (.command command.id)) with
    | some record => handleRecorded command record
    | none => handleNew executor command

/-- One command of a batch; its error is logged and dropped. -/
def processCommand (executor : Command → Prog H CommandResult) (command : Command) :
    AgentProg H Unit := do
  match ← (handleCommand executor command).run with
  | .ok _ => pure ()
  | .error _ => eff (.logFailure command.id)

def processCommands (executor : Command → Prog H CommandResult) :
    List Command → AgentProg H Unit
  | [] => pure ()
  | command :: commands => do
      if ← eff .cancelled then
        pure ()
      else
        processCommand executor command
        processCommands executor commands

def deliverAll : List CommandResult → AgentFallible H Unit
  | [] => pure ()
  | result :: results => do
      deliverResult result
      deliverAll results

def deliverPending : AgentFallible H Unit := do
  deliverAll (← lift (eff .pendingResults))

/-- Where the process stands between two passes of a loop. -/
inductive Phase where
  | enrolling
  | looping
  | stopped
deriving DecidableEq

/-- A pass that failed is retried, unless the context was cancelled. -/
def again (phase : Phase) : AgentProg H Phase := do
  return if ← eff .cancelled then .stopped else phase

/-- One pass of the retry loop of `ensureEnrollment`. -/
def ensureEnrollment (enrollmentToken : String) : AgentProg H Phase := do
  match ← eff .credentials with
  | some _ => return .looping
  | none =>
      if enrollmentToken = "" then
        return .stopped
      else
        match ← eff .enroll with
        | .error _ => again .enrolling
        | .ok c =>
            match ← (saveCredentials c).run with
            | .ok _ => return .looping
            | .error _ => return .stopped

/-- One pass of `commandLoop`; a cancelled context ends it. -/
def commandLoop (executor : Command → Prog H CommandResult) : AgentProg H Phase := do
  match ← deliverPending.run with
  | .error _ => again .looping
  | .ok _ =>
      match ← eff .poll with
      | .error _ => again .looping
      | .ok commands =>
          processCommands executor commands
          again .looping

/-- What the process does next. -/
def pass (enrollmentToken : String) (executor : Command → Prog H CommandResult) :
    Phase → AgentProg H Phase
  | .enrolling => ensureEnrollment enrollmentToken
  | .looping => commandLoop executor
  | .stopped => pure .stopped

/-! ### What the effects do -/

/-- The agent's process with its state directory, and what it has in hand: the commands
of the batch under way, the execution under way, and every execution so far. -/
structure Agent where
  data : Data := {}
  temporary : Option Data := none
  file : Option Data := none
  inHand : List String := []
  executing : Option String := none
  executions : List String := []

/-- What surrounds the agent: how the control plane and the host answer. -/
structure Surroundings (H : Interface) (W : Type) where
  enroll : W → Except String Credentials → W → Prop
  poll : W → Except String (List Command) → W → Prop
  submit : CommandResult → W → Except String Unit → W → Prop
  host : W → (o : H.Op) → H.Res o → W → Prop

namespace Agent

/-- The file takes the temporary file's contents at once. -/
def renamed (a : Agent) : Agent :=
  match a.temporary with
  | some d => { a with temporary := none, file := some d }
  | none => a

/-- A new process over the same directory: `Open` reads the file. -/
def restart (a : Agent) : Agent where
  data := a.file.getD {}
  file := a.file
  executions := a.executions

def polled (a : Agent) : Except String (List Command) → Agent
  | .ok commands => { a with inHand := commands.map (·.id) }
  | .error _ => a

def submitted (a : Agent) (result : CommandResult) : Except String Unit → Agent
  | .ok _ => { a with inHand := a.inHand.erase result.commandId }
  | .error _ => a

/-- The command has a record on disk. -/
def OnDisk (a : Agent) (id : String) : Prop :=
  ∃ d, a.file = some d ∧ (d.command id).isSome

end Agent

variable {W : Type}

/-- The effects' meaning. A failed system call leaves the file as it was; a failed write
leaves no temporary file. -/
def effect (S : Surroundings H W) (a : Agent) (w : W) :
    (o : AgentOp H) → o.Res → Agent → W → Prop
  | .command id, r, a', w' => r = a.data.command id ∧ a' = a ∧ w' = w
  | .assign id record, _, a', w' => a' = { a with data := a.data.assign id record } ∧ w' = w
  | .pendingResults, r, a', w' => r.Perm a.data.pendingResults ∧ a' = a ∧ w' = w
  | .credentials, r, a', w' => r = a.data.credentials ∧ a' = a ∧ w' = w
  | .assignCredentials c, _, a', w' =>
      a' = { a with data := { a.data with credentials := some c } } ∧ w' = w
  | .writeTemporary, r, a', w' => w' = w ∧
      (r = .ok () ∧ a' = { a with temporary := some a.data } ∨
        (∃ e, r = .error e) ∧ a' = { a with temporary := none })
  | .rename, r, a', w' => w' = w ∧ (r = .ok () ∧ a' = a.renamed ∨ (∃ e, r = .error e) ∧ a' = a)
  | .chmod, _, a', w' => a' = a ∧ w' = w
  | .syncDirectory, _, a', w' => a' = a ∧ w' = w
  | .now, _, a', w' => a' = a ∧ w' = w
  | .cancelled, _, a', w' => a' = a ∧ w' = w
  | .logFailure id, _, a', w' => a' = { a with inHand := a.inHand.erase id } ∧ w' = w
  | .enroll, r, a', w' => a' = a ∧ S.enroll w r w'
  | .poll, r, a', w' => a' = a.polled r ∧ S.poll w r w'
  | .submit result, r, a', w' => a' = a.submitted result r ∧ S.submit result w r w'
  | .enter c, _, a', w' =>
      a' = { a with executing := some c.id, executions := c.id :: a.executions } ∧ w' = w
  | .leave, _, a', w' => a' = { a with executing := none } ∧ w' = w
  | .host o, r, a', w' => a' = a ∧ S.host w o r w'

/-! ### Runs on given answers -/

/-- One answer of the surroundings to each request. -/
structure Answers (H : Interface) (W : Type) where
  now : Time
  enroll : W → Except String Credentials × W
  poll : W → Except String (List Command) × W
  submit : CommandResult → W → Except String Unit × W
  host : W → (o : H.Op) → H.Res o × W

structure Answers.For (A : Answers H W) (S : Surroundings H W) : Prop where
  enroll : ∀ w, S.enroll w (A.enroll w).1 (A.enroll w).2
  poll : ∀ w, S.poll w (A.poll w).1 (A.poll w).2
  submit : ∀ r w, S.submit r w (A.submit r w).1 (A.submit r w).2
  host : ∀ w o, S.host w o (A.host w o).1 (A.host w o).2

/-- Every system call succeeds, and the context is never cancelled. -/
def succeed (A : Answers H W) (a : Agent) (w : W) : (o : AgentOp H) → o.Res × Agent × W
  | .command id => (a.data.command id, a, w)
  | .assign id record => ((), { a with data := a.data.assign id record }, w)
  | .pendingResults => (a.data.pendingResults, a, w)
  | .credentials => (a.data.credentials, a, w)
  | .assignCredentials c =>
      ((), { a with data := { a.data with credentials := some c } }, w)
  | .writeTemporary => (.ok (), { a with temporary := some a.data }, w)
  | .rename => (.ok (), a.renamed, w)
  | .chmod | .syncDirectory => (.ok (), a, w)
  | .now => (A.now, a, w)
  | .cancelled => (false, a, w)
  | .logFailure id => ((), { a with inHand := a.inHand.erase id }, w)
  | .enroll => ((A.enroll w).1, a, (A.enroll w).2)
  | .poll => ((A.poll w).1, a.polled (A.poll w).1, (A.poll w).2)
  | .submit result =>
      ((A.submit result w).1, a.submitted result (A.submit result w).1, (A.submit result w).2)
  | .enter c =>
      ((), { a with executing := some c.id, executions := c.id :: a.executions }, w)
  | .leave => ((), { a with executing := none }, w)
  | .host o => ((A.host w o).1, a, (A.host w o).2)

lemma effect_succeed {A : Answers H W} {S : Surroundings H W} (hA : A.For S) (a : Agent)
    (w : W) (o : AgentOp H) :
    effect S a w o (succeed A a w o).1 (succeed A a w o).2.1 (succeed A a w o).2.2 := by
  cases o with
  | pendingResults => exact ⟨.refl _, rfl, rfl⟩
  | writeTemporary => exact ⟨rfl, .inl ⟨rfl, rfl⟩⟩
  | rename => exact ⟨rfl, .inl ⟨rfl, rfl⟩⟩
  | enroll => exact ⟨rfl, hA.enroll w⟩
  | poll => exact ⟨rfl, hA.poll w⟩
  | submit result => exact ⟨rfl, hA.submit result w⟩
  | host o => exact ⟨rfl, hA.host w o⟩
  | command _ | credentials => exact ⟨rfl, rfl, rfl⟩
  | assign _ _ | assignCredentials _ | chmod | syncDirectory | now | cancelled
  | logFailure _ | enter _ | leave => exact ⟨rfl, rfl⟩

end GatewayControl.AgentLoop
