import GatewayControl.StagingApply

/-!
Whether staging can always go on. As long as no attempt is killed between taking the lock
and publishing its marker, a refusal means that a restore is waiting to be applied, and
applying it clears the way.
-/

namespace GatewayControl.StagingProgress

open Text Programs Staging StageRuns StageState StagingSafety StagingApply

variable {ε α β : Type} {offer : Offer} {i : Runner} {s t : StageState} {R : Recovery}
  {A : Attempt}

/-! ### Programs whose effects all work -/

/-- What a program returns, and leaves, when no effect fails. -/
def result (offer : Offer) (i : Runner) (p : ExceptT ε (Prog interface) α) (s : StageState) :
    Except ε α × StageState :=
  p.run.outcome (works offer i) s

lemma result_pure (a : α) : result offer i (pure a : ExceptT ε (Prog interface) α) s =
    (.ok a, s) := rfl

lemma result_throw (e : ε) : result offer i (throw e : ExceptT ε (Prog interface) α) s =
    (.error e, s) := rfl

variable {m : RestoreMarker} {name : MarkerName}

/-- Nothing stands in the way of a new attempt. -/
def Clear (s : StageState) : Prop :=
  s.files .lock = none ∧ ∀ p, s.files (.marker p) = none

/-- A backup that can be staged. -/
structure Welcome (R : Recovery) (offer : Offer) (A : Attempt) : Prop where
  artifact : checkArtifact offer.backup offer.artifact = .ok ()
  archive : checkArchive R A.backupId A.archive = .ok ()
  backupId : commandIDPattern A.backupId = true
  restoreId : commandIDPattern offer.restoreId = true

/-- Nothing is in the way, and the attempt has not begun to write. -/
structure Open (A : Attempt) (i : Runner) (s : StageState) : Prop where
  task : s.task i = some (.stage A)
  clear : Clear s
  dump : s.files (.dump A.backupId A.token) = none
  temporary : s.files (.temporary A.token) = none

/-- A new attempt `n` with a fresh token, about to run. -/
def begun (n : Nat) (A : Attempt) (s : StageState) : StageState :=
  { s with attempts := A :: s.attempts }.assign (.attempt n) (some (.stage A))

/-- What `stageRestore` answers a new attempt when nothing fails. -/
def staging (R : Recovery) (offer : Offer) (n : Nat) (A : Attempt) (s : StageState) :
    Except Thrown String :=
  (result offer (.attempt n) (stageRestore R A.backupId A.token) (begun n A s)).1

def FreshToken (A : Attempt) (s : StageState) : Prop := ∀ B ∈ s.attempts, B.token ≠ A.token

/-- What an apply run returns and leaves when nothing fails. -/
def applied (offer : Offer) (s : StageState) : Except String Bool × StageState :=
  let (r, t) := result offer .recovery applyStagedSystemRestore
    (s.assign .recovery (some .apply))
  (r, t.assign .recovery none)

/-- A refusal for what is staged means that an apply run, with a working database, comes to
completion, and every backup can be staged after it. -/
def Recoverable (R : Recovery) (s : StageState) : Prop :=
  ∀ offer n A, FreshToken A s → staging R offer n A s = .error alreadyStaged →
    (applied offer s).1 = .ok true ∧
    ∀ offer' n' A', FreshToken A' (applied offer s).2 → Welcome R offer' A' →
      staging R offer' n' A' (applied offer s).2 = .ok offer'.restoreId

end GatewayControl.StagingProgress
