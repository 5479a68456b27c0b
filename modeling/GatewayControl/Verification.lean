import GatewayControl.Calls

/-!
The check that a published host name answers over HTTPS. Each tick takes up a few guided
operations that wait for it, and ends them one way or the other.
-/

namespace GatewayControl.Verification

open Database Publishing Calls Programs

/-- How the result of a publication is shown. -/
abbrev Render := RouteRow → AccessRow → Json

def certificateFine (observation : TlsObservation) : Bool :=
  observation.status = .valid || observation.status = .expiring

def observationError (observation : TlsObservation) : String :=
  observation.error.getD
    (if observation.status = .expired then "certificate_expired" else "https_unreachable")

/-- `Date.now()` is only asked for where there is a deadline. -/
def deadlinePassed (operation : GuidedRow) : Handler Bool :=
  match operation.verificationDeadlineAt with
  | none => return false
  | some deadline => do
      let now ← call .now
      return deadline ≤ now

def succeed (render : Render) (operation : GuidedRow) (route : RouteRow) (access : AccessRow) :
    Handler Unit := do
  match ← call (.outcome access.id access.revision .active none) with
  | none => return
  | some active =>
      let _ ← call (.updateGuided operation.id
        { status := some .succeeded, stage := some "complete",
          result := some (render route active), error := some none,
          clearEncryptedRequest := true, incrementVerificationAttempts := true })

def failOrWait (operation : GuidedRow) (access : AccessRow) (error : String) :
    Handler Unit := do
  if ← deadlinePassed operation then
    let _ ← call (.outcome access.id access.revision .failed (some error))
    let _ ← call (.updateGuided operation.id
      { status := some .failed, stage := some "https_verification_failed",
        error := some (some error), incrementVerificationAttempts := true })
  else
    let _ ← call (.updateGuided operation.id
      { error := some (some error), incrementVerificationAttempts := true })

/-- What follows the two reads of an operation. -/
def verifyAccess (render : Render) (operation : GuidedRow) (route : RouteRow)
    (access : AccessRow) : Handler Unit := do
  let observation ← call (.observe access.hostname)
  call (.saveObservation access.id observation)
  if certificateFine observation then succeed render operation route access
  else failOrWait operation access (observationError observation)

/-- One turn of the loop. -/
def verifyOne (render : Render) (operation : GuidedRow) : Handler Unit :=
  match operation.domainAccessId, operation.routeId with
  | some accessId, some routeId => do
      let accesses ← call .listAccess
      let route ← call (.route routeId)
      match accesses.find? (·.id = accessId), route with
      | some access, some route =>
          if access.revision < 1 then return else verifyAccess render operation route access
      | _, _ => return
  | _, _ => return

def verifyAll (render : Render) : List GuidedRow → Handler Unit
  | [] => return
  | operation :: rest => do
      verifyOne render operation
      verifyAll render rest

/-- A tick. An error ends it, and is only logged. -/
def reconcileGuidedVerifications (render : Render) : Handler Unit := do
  let operations ← call (.pendingVerifications 5)
  verifyAll render operations

/-! ### The calls of a tick -/

def isTickCall : Call → Bool
  | .pendingVerifications _ | .listAccess | .route _ | .observe _ | .saveObservation _ _ => true
  | .outcome _ _ _ _ | .updateGuided _ _ | .now => true
  | _ => false

variable (render : Render)

lemma deadlinePassed_only (operation : GuidedRow) :
    (deadlinePassed operation).run.Only (isTickCall ·) := by
  unfold deadlinePassed
  split
  · trivial
  · exact only_bind (only_call rfl) fun _ => trivial

lemma succeed_only (operation : GuidedRow) (route : RouteRow) (access : AccessRow) :
    (succeed render operation route access).run.Only (isTickCall ·) := by
  refine only_bind (only_call rfl) fun active => ?_
  cases active with
  | none => trivial
  | some active => exact only_bind (only_call rfl) fun _ => trivial

lemma failOrWait_only (operation : GuidedRow) (access : AccessRow) (error : String) :
    (failOrWait operation access error).run.Only (isTickCall ·) := by
  refine only_bind (deadlinePassed_only operation) fun passed => ?_
  split
  · exact only_bind (only_call rfl) fun _ => only_bind (only_call rfl) fun _ => trivial
  · exact only_bind (only_call rfl) fun _ => trivial

lemma verifyOne_only (operation : GuidedRow) :
    (verifyOne render operation).run.Only (isTickCall ·) := by
  unfold verifyOne
  split
  · refine only_bind (only_call rfl) fun accesses => only_bind (only_call rfl) fun route => ?_
    split
    · split
      · trivial
      · refine only_bind (only_call rfl) fun observation => only_bind (only_call rfl) fun _ => ?_
        split
        · exact succeed_only render ..
        · exact failOrWait_only ..
    · trivial
  · trivial

lemma reconcileGuidedVerifications_only :
    (reconcileGuidedVerifications render).run.Only (isTickCall ·) := by
  refine only_bind (only_call rfl) fun operations => ?_
  induction operations with
  | nil => trivial
  | cons operation rest ih => exact only_bind (verifyOne_only render operation) fun _ => ih

end GatewayControl.Verification
