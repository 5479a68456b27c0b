import GatewayControl.RecoveryRequests

/-!
Runs over one spool: any number of requests to apply a restore, and the supervisor that
takes their files. A supervisor run here leaves the table as it is.

A request stays active in the table until its call takes it back. Nothing takes it back
once the call is gone.
-/

namespace GatewayControl.RecoverySpool

open Programs Staging RecoveryRequests

/-! ### The system -/

/-- A call of `requestApply`, with the token drawn for it. -/
structure Call where
  input : ApplyInput
  token : String
  deriving DecidableEq

/-- A request file in the spool; the token of the temporary file it was linked from is kept
for the statements only. -/
structure Spooled where
  request : Request
  token : String
  deriving DecidableEq

/-- The table and the spool, with the calls at work. The tokens drawn so far are kept for
the statements only. A temporary file that was not written to its end holds `none`. -/
structure SpoolState where
  requests : Requests
  temporary : String → Option (Option Request)
  pending : Option Spooled
  claimed : Option Spooled
  task : ℕ → Option Call
  tokens : List String

namespace SpoolState

def putTemporary (s : SpoolState) (token : String) (c : Option (Option Request)) :
    SpoolState :=
  { s with temporary := Function.update s.temporary token c }

def assign (s : SpoolState) (i : ℕ) (c : Option Call) : SpoolState :=
  { s with task := Function.update s.task i c }

@[simp] lemma assign_self (s : SpoolState) (i : ℕ) (c : Option Call) :
    (s.assign i c).task i = c := by simp [assign]

lemma assign_ne (s : SpoolState) {i j : ℕ} (c : Option Call) (h : j ≠ i) :
    (s.assign i c).task j = s.task j := by simp [assign, h]

end SpoolState

open SpoolState

/-- The request of that token has its file in the spool. -/
def InSpool (token : String) (s : SpoolState) : Prop :=
  ∃ f, (s.pending = some f ∨ s.claimed = some f) ∧ f.token = token

/-- A request that is active has its file in the spool. -/
def Settled (token : String) (s : SpoolState) : Prop :=
  ∀ r ∈ s.requests.rows, r.ownershipToken = token → r.active → InSpool token s

/-- What each effect does. Under `careful` an insertion whose answer is lost has not
happened, and a request without a file is not left active by a lost update. -/
def spoolEffect (careful : Prop) (s : SpoolState) : (o : SpoolOp) → o.Res → SpoolState → Prop
  | .createSystemRecoveryRequest restoreId userId token, r, t =>
      ∃ id, match createSystemRecoveryRequest s.requests id restoreId userId token with
        | none => (r = none ∨ r = some none) ∧ t = s
        | some requests =>
            r = none ∧ t = s ∨ r = none ∧ ¬ careful ∧ t = { s with requests := requests } ∨
              r = some (some id) ∧ t = { s with requests := requests }
  | .writeTemporary token q, r, t =>
      s.temporary token ≠ none ∧ r = .exists ∧ t = s ∨
      s.temporary token = none ∧
        (r = .ok ∧ t = s.putTemporary token (some (some q)) ∨ r = .failed ∧
          (t = s ∨ t = s.putTemporary token (some none)))
  | .link token, r, t =>
      s.pending ≠ none ∧ r = .exists ∧ t = s ∨
      s.pending = none ∧ (r = .failed ∧ t = s ∨ ∃ q, s.temporary token = some (some q) ∧
        r = .ok ∧ t = { s with pending := some ⟨q, token⟩ })
  | .removeTemporary token, r, t =>
      r = true ∧ t = s.putTemporary token none ∨ r = false ∧ t = s
  | .finishSystemRecoveryRequest id token status error, r, t =>
      let (requests, updated) := finishSystemRecoveryRequest s.requests id token status error
      (r = some updated ∨ r = none) ∧ t = { s with requests := requests } ∨
        r = none ∧ t = s ∧ (careful → Settled token s)
  | _, _, t => t = s

/-- A restore that can be requested, and the id the database gives the request. -/
structure Offer where
  restore : SystemRestore
  backup : SystemBackup
  artifact : Artifact
  archive : Archive
  requestId : String

/-- Every effect answered as it is when nothing fails. -/
def works (offer : Offer) (s : SpoolState) : (o : SpoolOp) → o.Res × SpoolState
  | .getSystemRestore _ => (some (some offer.restore), s)
  | .getSystemBackup _ => (some (some offer.backup), s)
  | .artifact _ => (some offer.artifact, s)
  | .unpack _ => (.ok offer.archive, s)
  | .requestRoot => (some true, s)
  | .listDump | .syncDirectory | .recordSystemBackupTransferEvent _ _ => (true, s)
  | .createSystemRecoveryRequest restoreId userId token =>
      match createSystemRecoveryRequest s.requests offer.requestId restoreId userId token with
      | none => (some none, s)
      | some requests => (some (some offer.requestId), { s with requests := requests })
  | .writeTemporary token q =>
      if s.temporary token = none then (.ok, s.putTemporary token (some (some q)))
      else (.exists, s)
  | .link token =>
      if s.pending = none then
        match s.temporary token with
        | some (some q) => (.ok, { s with pending := some ⟨q, token⟩ })
        | _ => (.failed, s)
      else (.exists, s)
  | .removeTemporary token => (true, s.putTemporary token none)
  | .finishSystemRecoveryRequest id token status error =>
      let (requests, updated) := finishSystemRecoveryRequest s.requests id token status error
      (some updated, { s with requests := requests })

/-- A program run for its effects. -/
def runToEnd {ε α : Type} (p : ExceptT ε (Prog spool) α) : Prog spool Unit :=
  p.run >>= fun _ => .pure ()

/-- What follows a call that has returned: it is over, or another begins. -/
inductive Starts (S : Service) (s : SpoolState) (i : ℕ) : Prog spool Unit → SpoolState → Prop
  where
  | finish : Starts S s i (.pure ()) (s.assign i none)
  | request (c : Call) (idle : s.task i = none) (fresh : c.token ∉ s.tokens) :
      Starts S s i (runToEnd (requestApply S c.input c.token))
        ({ s with tokens := c.token :: s.tokens }.assign i (some c))

/-- The supervisor claims a pending file, and moves a claimed one away once the restore has
run; what it runs in between leaves the table as it is. Under `careful` it finishes with no
request that is active. -/
inductive Supervised (S : Service) (careful : Prop) (s : SpoolState) : SpoolState → Prop where
  | claim (f : Spooled) (pending : s.pending = some f) (free : s.claimed = none) :
      Supervised S careful s { s with pending := none, claimed := some f }
  | finish (f : Spooled) (claimed : s.claimed = some f)
      (signed : f.request = S.sign f.request.restoreId)
      (inactive : careful → ∀ r ∈ s.requests.rows, r.ownershipToken = f.token →
        r.active = false) :
      Supervised S careful s { s with claimed := none }

/-- A call can be killed before any effect; under `careful` it does not leave an active
request without a file. -/
def system (S : Service) (careful : Prop) : System spool SpoolState ℕ Unit Unit where
  exec := fun _ => spoolEffect careful
  start := fun i _ s p t => Starts S s i p t
  environment := fun _ s t => Supervised S careful s t
  crash := fun i s t p => p = .pure () ∧ t = s.assign i none ∧
    (careful → ∀ c, s.task i = some c → Settled c.token s)

def empty : Config spool SpoolState ℕ Unit :=
  ⟨⟨∅, fun _ => none, none, none, fun _ => none, []⟩, fun _ => .pure ()⟩

def initial (c : Config spool SpoolState ℕ Unit) : Prop := c = empty

/-! ### What calls find -/

/-- Nothing of that token is left from before. -/
def Fresh (token id : String) (s : SpoolState) : Prop :=
  token ∉ s.tokens ∧ id ∉ s.requests.rows.map RecoveryRequest.id

/-- Some call is at work for the active request, or some file is in the spool. -/
def Publishing (s : SpoolState) : Prop :=
  (∃ i c, s.task i = some c ∧
    ∃ r ∈ s.requests.rows, r.active ∧ r.ownershipToken = c.token) ∨
  s.pending ≠ none ∨ s.claimed ≠ none

/-- The restore is staged and the backup is this installation's. -/
structure Welcome (S : Service) (offer : Offer) (c : Call) : Prop where
  enabled : S.recoverySupervisorEnabled = true ∧ S.recoveryRequestSecret ≠ ""
  confirmed : c.input.confirmation = "APPLY " ++ c.input.restoreId
  staged : offer.restore.status = .staged
  artifact : matchesRecord offer.backup offer.artifact = .ok ()
  archive : checkArchive S.recovery offer.restore.backupId offer.archive = .ok ()

/-- A call from `s`, by itself and with nothing failing. -/
def requested (S : Service) (offer : Offer) (i : ℕ) (c : Call) (s : SpoolState) :
    Except Thrown Unit × SpoolState :=
  (requestApply S c.input c.token).run.outcome (works offer)
    ({ s with tokens := c.token :: s.tokens }.assign i (some c))

/-- An insertion is refused only while a request is on its way, and when none is, a restore
that is staged can be requested. -/
def Unblocked (S : Service) (s : SpoolState) : Prop :=
  (∀ id restoreId userId token, Fresh token id s →
    createSystemRecoveryRequest s.requests id restoreId userId token = none → Publishing s) ∧
  ((∀ i, s.task i = none) → s.pending = none → s.claimed = none →
    ∀ offer i c, Fresh c.token offer.requestId s → Welcome S offer c →
      (requested S offer i c s).1 = .ok ())

end GatewayControl.RecoverySpool
