import GatewayControl.Calls

/-!
Bringing Cloudflare in line with a domain access: its DNS records, and its rule in the
tunnel's ingress list.

The handlers' `try` blocks are guarded call by call, with what the block's variables hold at
that call; a guard's handler always throws.
-/

namespace GatewayControl.Reconcile

open Database Publishing Ingress Cloudflare Calls Programs

/-! ### The wanted records -/

def ownershipMarker (id : String) : String := "gateway-control:domain-access:" ++ id

/-- An address or target, with the type of the record that holds it. -/
abbrev Wanted := DnsType × String

def desired (h : AccessRow) : List Wanted :=
  match h.accessMethod with
  | .tunnel =>
      match h.deployedTunnelId with
      | some tunnelId => [(.cname, tunnelId ++ ".cfargotunnel.com")]
      | none => []
  | .publicIp => h.publicIpv4.map (.a, ·) ++ h.publicIpv6.map (.aaaa, ·)

def sameTarget (item : Wanted) (type : DnsType) (content : String) : Bool :=
  item.1 == type && lower item.2 == lower content

def expected (h : AccessRow) (type : DnsType) (content : String) : Option Wanted :=
  (desired h).find? fun item => sameTarget item type content

/-- A remote record as this access would have made it. -/
def isOwn (h : AccessRow) (r : RemoteRecord) : Bool :=
  r.proxied == h.proxied && r.comment == some (ownershipMarker h.id)

def isWanted (h : AccessRow) (item : Wanted) (r : RemoteRecord) : Bool :=
  sameTarget item r.type r.content && isOwn h r

/-! ### The topology check -/

def tunnelTopologyValid (d : Deployment) : Bool :=
  d.access.accessMethod != .tunnel ||
    d.access.connectorId.isSome && d.access.deployedTunnelId.isSome &&
      d.connector.any fun c =>
        c.enabled && c.identityStatus == .verified &&
        c.tokenAccountIdentifier.any
          (fun t => lower t == lower d.access.deployedAccountIdentifier) &&
        c.tokenTunnelId.map lower == d.access.deployedTunnelId.map lower &&
        c.accountId == some d.access.accountId && c.agentId == d.route.gatewayAgentId

def expectedExposure : AccessMethod → String
  | .tunnel => "tunnel"
  | .publicIp => "public"

def topologyValid (d : Deployment) : Bool :=
  d.account.enabled && d.zone.status == "active" && d.zone.accountId == d.access.accountId &&
    d.route.exposure == expectedExposure d.access.accessMethod && d.route.enabled &&
    d.route.status == .active && lower d.route.hostname == lower d.access.hostname &&
    hostnameWithinZone d.access.hostname d.zone.name && tunnelTopologyValid d

/-! ### Errors -/

def supersededCode : String := "domain_access_superseded"

def superseded : Failure :=
  .api 409 "A newer domain access change superseded this operation." supersededCode

def topologyMessage : String :=
  "Cloudflare domain access topology or active route requirements are no longer valid."

def undecryptable : String := "Cloudflare account credentials could not be decrypted."

def dnsConflict : Failure :=
  .api 409
    "A DNS record with this hostname and type already exists and is not owned by GatewayControl."
    "dns_record_conflict"

def readBackMismatch : Failure :=
  .client "Cloudflare DNS record read-back did not match the requested ownership metadata." 502
    none

def typeError : Failure := .other "rule.hostname?.toLowerCase is not a function"

def safeError : Failure → String
  | .api _ message _ => Json.sliceText 500 message
  | e => safeCloudflareError e

def isSuperseded : Failure → Bool
  | .api _ _ code => code == some supersededCode
  | _ => false

/-- What the handler throws in the end. -/
def reported : Failure → Failure
  | .api status message code => .api status message code
  | e => .api 502 (safeError e) "cloudflare_reconciliation_failed"

/-! ### The parts of a reconciliation -/

variable (d : Deployment)

def orSuperseded (c : Handler Bool) : Handler Unit := do
  if ← c then return else throw superseded

def markDeleted (recordId : Nat) : Handler Unit :=
  orSuperseded (call (.markRecord d.access.id d.access.revision recordId .deleted none))

def deleteOwnedRecord (recordId : Nat) : Handler Unit :=
  tryCatch
    (do
      call (.deleteRecord d.access.deployedZoneIdentifier recordId)
      markDeleted d recordId)
    fun error => do
      if error.isExplicitNotFound then markDeleted d recordId
      else
        let _ ← call (.markRecord d.access.id d.access.revision recordId .cleanupPending
          (safeCloudflareError error))
        throw error

def outcome (status : AccessStatus) (lastError : Option String) : Handler AccessRow := do
  match ← call (.outcome d.access.id d.access.revision status lastError) with
  | some saved => return saved
  | none => throw superseded

def listRemote : Handler (List RemoteRecord) :=
  call (.listRecords d.access.deployedZoneIdentifier d.access.hostname)

def track (item : Wanted) (recordId : Nat) : Handler Unit :=
  orSuperseded (call (.saveRecord d.access.id d.access.revision
    { type := item.1, content := item.2, recordId,
      ownershipMarker := ownershipMarker d.access.id }))

/-- The variables the `catch` block looks at. -/
structure Progress where
  createdThisAttempt : List Nat := []
  originalIngress : Option (List Rule) := none

def removeCreated : List Nat → Handler Unit
  | [] => return
  | recordId :: rest => do
      tryCatch
        (do
          call (.deleteRecord d.access.deployedZoneIdentifier recordId)
          let _ ← call (.markRecord d.access.id d.access.revision recordId .deleted none))
        fun cleanupError => do
          if cleanupError.isExplicitNotFound then
            let _ ← call (.markRecord d.access.id d.access.revision recordId .deleted none)
          else
            let _ ← call (.markRecord d.access.id d.access.revision recordId .cleanupPending
              (safeCloudflareError cleanupError))
      removeCreated rest

def restoreIngress (originalIngress : Option (List Rule)) : Handler Unit :=
  match originalIngress, d.access.deployedTunnelId with
  | some ingress, some tunnelId =>
      if d.access.accessMethod = .tunnel ∧ d.access.enabled then
        tryCatch (call (.putTunnelConfig d.access.deployedAccountIdentifier tunnelId ingress))
          fun _ => return
      else return
  | _, _ => return

/-- The `catch` block. -/
def compensate {α : Type} (progress : Progress) (error : Failure) : Handler α := do
  removeCreated d progress.createdThisAttempt
  restoreIngress d progress.originalIngress
  if isSuperseded error then throw (reported error)
  else
    let _ ← call (.outcome d.access.id d.access.revision .failed (safeError error))
    throw (reported error)

lemma compensate_throws {α : Type} (progress : Progress) (error : Failure) :
    Throws (compensate d progress error : Handler α) := by
  refine Throws.after fun _ => Throws.after fun _ => ?_
  split
  · exact throws_throw _
  · exact Throws.after fun _ => throws_throw _

def guarded {α : Type} (progress : Progress) (p : Handler α) : Handler α :=
  tryCatch p (compensate d progress)

/-! ### Disabling -/

def deleteOwned : List DnsRow → Handler Unit
  | [] => return
  | record :: rest => do
      deleteOwnedRecord d record.recordId
      deleteOwned rest

def isRecoverable (r : RemoteRecord) : Bool :=
  isOwn d.access r && (expected d.access r.type r.content).isSome

def deleteRecoverable : List RemoteRecord → Handler Unit
  | [] => return
  | record :: rest => do
      match expected d.access record.type record.content with
      | some item =>
          track d item record.id
          deleteOwnedRecord d record.id
      | none => return
      deleteRecoverable rest

def rewriteIngress (tunnelId : String) (rules : List Rule) : Handler Unit :=
  match rewritten .caseless d.access.enabled rules d.access.hostname with
  | some ingress => call (.putTunnelConfig d.access.deployedAccountIdentifier tunnelId ingress)
  | none => throw typeError

def withdraw : Handler Unit :=
  match d.access.accessMethod, d.access.deployedTunnelId with
  | .tunnel, some tunnelId => do
      let rules ← call (.tunnelConfig d.access.deployedAccountIdentifier tunnelId)
      rewriteIngress d tunnelId rules
  | _, _ => return

def disable : Handler AccessRow :=
  guarded d {} do
    deleteOwned d (d.owned.filter (·.status ≠ .deleted))
    let remote ← listRemote d
    deleteRecoverable d (remote.filter (isRecoverable d))
    withdraw d
    outcome d .disabled none

/-! ### Enabling -/

/-- Records of this access that are not tracked are taken over. -/
def adopt : List RemoteRecord → List DnsRow → Handler (List DnsRow)
  | [], owned => return owned
  | record :: rest, owned =>
      match expected d.access record.type record.content with
      | some item =>
          if !owned.any (·.recordId = record.id) && isOwn d.access record then do
            track d item record.id
            adopt rest (owned ++
              [{ accessId := d.access.id, type := item.1, content := item.2,
                 recordId := record.id, ownershipMarker := ownershipMarker d.access.id }])
          else adopt rest owned
      | none => adopt rest owned

def conflicts (remote : List RemoteRecord) (owned : List DnsRow) : Bool :=
  remote.any fun r =>
    (desired d.access).any (·.1 == r.type) && !owned.any (·.recordId = r.id)

/-- Whether a tracked record stays: it is wanted, and is at Cloudflare what it should be. -/
def stays (remote : List RemoteRecord) (record : DnsRow) : Bool :=
  (expected d.access record.type record.content).isSome &&
    (remote.find? (·.id = record.recordId)).any fun actual =>
      lower actual.content == lower record.content && isOwn d.access actual

def prune (remote : List RemoteRecord) : List DnsRow → Handler (List DnsRow)
  | [] => return []
  | record :: rest =>
      if stays d remote record then do
        let kept ← prune remote rest
        return record :: kept
      else do
        deleteOwnedRecord d record.recordId
        prune remote rest

/-- The first half of the `try` block: which tracked records stay. -/
def settleOwned : Handler (List RemoteRecord × List DnsRow) := do
  let remote ← listRemote d
  let owned ← adopt d remote (d.owned.filter (·.status ≠ .deleted))
  if conflicts d remote owned then throw dnsConflict
  else
    let kept ← prune d remote owned
    return (remote, kept)

def isPresent (remote : List RemoteRecord) (owned : List DnsRow) (item : Wanted) : Bool :=
  owned.any fun record => sameTarget item record.type record.content &&
    remote.any fun actual => actual.id = record.recordId && isOwn d.access actual

/-- A creation whose answer failed is looked for before it is given up. -/
def create (item : Wanted) (remote : List RemoteRecord) :
    Handler (RemoteRecord × List RemoteRecord) :=
  tryCatch
    (do
      let created ← call (.createRecord d.access.deployedZoneIdentifier item.1 d.access.hostname
        item.2 d.access.proxied (ownershipMarker d.access.id))
      return (created, remote))
    fun error => do
      let remote ← listRemote d
      match remote.find? (isWanted d.access item) with
      | some recovered => return (recovered, remote)
      | none => throw error

def confirm (item : Wanted) (recordId : Nat) : Handler Unit := do
  track d item recordId
  let readBack ← call (.getRecord d.access.deployedZoneIdentifier recordId d.access.hostname)
  if isWanted d.access item readBack then return else throw readBackMismatch

def createMissing (originalIngress : Option (List Rule)) (owned : List DnsRow) :
    List Wanted → List RemoteRecord → List Nat → Handler (List Nat)
  | [], _, created => return created
  | item :: rest, remote, created =>
      if isPresent d remote owned item then
        createMissing originalIngress owned rest remote created
      else do
        let (record, remote) ← guarded d ⟨created, originalIngress⟩ (create d item remote)
        let created := created ++ [record.id]
        guarded d ⟨created, originalIngress⟩ (confirm d item record.id)
        createMissing originalIngress owned rest remote created

def publish : Handler (Option (List Rule)) :=
  match d.access.accessMethod, d.access.deployedTunnelId with
  | .tunnel, some tunnelId => do
      let rules ← guarded d {}
        (call (.tunnelConfig d.access.deployedAccountIdentifier tunnelId))
      guarded d ⟨[], some rules⟩ (rewriteIngress d tunnelId rules)
      return some rules
  | _, _ => return none

def enable (requireHttpsObservation : Bool) : Handler AccessRow := do
  let (remote, kept) ← guarded d {} (settleOwned d)
  let originalIngress ← publish d
  let created ← createMissing d originalIngress kept (desired d.access) remote []
  guarded d ⟨created, originalIngress⟩
    (outcome d (if requireHttpsObservation then .pending else .active) none)

/-! ### The whole -/

/-- The callback that runs under the locks. -/
def reconcileLocked (id : String) (requireHttpsObservation : Bool) : Handler AccessRow := do
  match ← call (.deployment id) with
  | none => throw (.api 404 "Cloudflare domain access was not found." "domain_access_not_found")
  | some d =>
      if d.access.enabled && !topologyValid d then
        let _ ← outcome d .failed topologyMessage
        throw (.api 409 topologyMessage "domain_access_topology_invalid")
      else if d.apiToken.isNone then
        let _ ← outcome d .failed undecryptable
        throw (.api 500 undecryptable none)
      else if d.access.enabled then enable d requireHttpsObservation
      else disable d

/-- `finally`: the locks are given back, last taken first, whatever that answers. -/
def releaseAll : List LockKey → Prog Plane Unit
  | [] => return
  | key :: rest => do
      let _ ← Prog.perform (F := Plane) (.release key)
      releaseAll rest

def finallyRelease {α : Type} (keys : List LockKey) (p : Handler α) : Handler α :=
  ExceptT.mk do
    let answer ← p.run
    releaseAll keys
    return answer

def tunnelKey (h : AccessRow) : Option LockKey :=
  match h.accessMethod, h.deployedTunnelId with
  | .tunnel, some tunnelId =>
      if h.deployedAccountIdentifier = "" ∨ tunnelId = "" then none
      else some (.cloudflareTunnel h.deployedAccountIdentifier tunnelId)
  | _, _ => none

def withDomainAccessLock {α : Type} (id : String) (callback : Handler α) : Handler α :=
  finallyRelease [.domainAccess id] do
    call (.acquire (.domainAccess id))
    let row ← call (.lockRow id)
    match row.bind tunnelKey with
    | some key => finallyRelease [key] do
        call (.acquire key)
        callback
    | none => callback

def reconcileDomainAccess (id : String) (requireHttpsObservation : Bool) : Handler AccessRow :=
  withDomainAccessLock id (reconcileLocked id requireHttpsObservation)

/-! ### The calls of a reconciliation -/

/-- The calls about DNS records. -/
def isRecordCall : Call → Bool
  | .saveRecord _ _ _ | .markRecord _ _ _ _ _ | .listRecords _ _ => true
  | .createRecord _ _ _ _ _ _ | .getRecord _ _ _ | .deleteRecord _ _ => true
  | _ => false

variable {d}

lemma orSuperseded_records {c : Handler Bool} (hc : c.run.Only (isRecordCall ·)) :
    (orSuperseded c).run.Only (isRecordCall ·) := by
  refine only_bind hc fun b => ?_
  split
  · trivial
  · trivial

lemma track_records (item : Wanted) (recordId : Nat) :
    (track d item recordId).run.Only (isRecordCall ·) :=
  orSuperseded_records (only_call rfl)

lemma deleteOwnedRecord_records (recordId : Nat) :
    (deleteOwnedRecord d recordId).run.Only (isRecordCall ·) := by
  have hmark : (markDeleted d recordId).run.Only (isRecordCall ·) :=
    orSuperseded_records (only_call rfl)
  refine only_catch (only_bind (only_call rfl) fun _ => hmark) fun e => ?_
  split
  · exact hmark
  · exact only_bind (only_call rfl) fun _ => trivial

lemma deleteOwned_records (rows : List DnsRow) : (deleteOwned d rows).run.Only (isRecordCall ·) := by
  induction rows with
  | nil => trivial
  | cons row rows ih => exact only_bind (deleteOwnedRecord_records _) fun _ => ih

lemma deleteRecoverable_records (remote : List RemoteRecord) :
    (deleteRecoverable d remote).run.Only (isRecordCall ·) := by
  induction remote with
  | nil => trivial
  | cons r remote ih =>
    unfold deleteRecoverable
    split
    · exact only_bind (track_records ..) fun _ =>
        only_bind (deleteOwnedRecord_records _) fun _ => ih
    · trivial

lemma removeCreated_records (created : List Nat) :
    (removeCreated d created).run.Only (isRecordCall ·) := by
  induction created with
  | nil => trivial
  | cons k created ih =>
    refine only_bind (only_catch ?_ fun e => ?_) fun _ => ih
    · exact only_bind (only_call rfl) fun _ => only_bind (only_call rfl) fun _ => trivial
    · split
      · exact only_bind (only_call rfl) fun _ => trivial
      · exact only_bind (only_call rfl) fun _ => trivial

lemma adopt_records (remote : List RemoteRecord) :
    ∀ owned, (adopt d remote owned).run.Only (isRecordCall ·) := by
  induction remote with
  | nil => exact fun _ => trivial
  | cons r remote ih =>
    intro owned
    unfold adopt
    split
    · split
      · exact only_bind (track_records ..) fun _ => ih _
      · exact ih _
    · exact ih _

lemma prune_records (remote : List RemoteRecord) (rows : List DnsRow) :
    (prune d remote rows).run.Only (isRecordCall ·) := by
  induction rows with
  | nil => trivial
  | cons row rows ih =>
    unfold prune
    split
    · exact only_bind ih fun _ => trivial
    · exact only_bind (deleteOwnedRecord_records _) fun _ => ih

lemma settleOwned_records : (settleOwned d).run.Only (isRecordCall ·) := by
  refine only_bind (only_call rfl) fun remote => only_bind (adopt_records ..) fun owned => ?_
  split
  · trivial
  · exact only_bind (prune_records ..) fun _ => trivial

lemma create_records (item : Wanted) (remote : List RemoteRecord) :
    (create d item remote).run.Only (isRecordCall ·) := by
  refine only_catch (only_bind (only_call rfl) fun _ => trivial) fun e => ?_
  refine only_bind (only_call rfl) fun remote => ?_
  split
  · trivial
  · trivial

lemma confirm_records (item : Wanted) (recordId : Nat) :
    (confirm d item recordId).run.Only (isRecordCall ·) := by
  refine only_bind (track_records ..) fun _ => only_bind (only_call rfl) fun readBack => ?_
  split
  · trivial
  · trivial

def isReconcileCall : Call → Bool
  | .acquire _ | .release _ | .lockRow _ | .deployment _ | .outcome _ _ _ _ => true
  | .tunnelConfig _ _ | .putTunnelConfig _ _ _ => true
  | c => isRecordCall c

lemma of_records {α : Type} {p : Handler α} (hp : p.run.Only (isRecordCall ·)) :
    p.run.Only (isReconcileCall ·) := by
  refine hp.mono fun c hc => ?_
  cases c <;> first | rfl | exact hc

lemma outcome_only (status : AccessStatus) (lastError : Option String) :
    (outcome d status lastError).run.Only (isReconcileCall ·) := by
  refine only_bind (only_call rfl) fun saved => ?_
  split
  · trivial
  · trivial

lemma restoreIngress_only (originalIngress : Option (List Rule)) :
    (restoreIngress d originalIngress).run.Only (isReconcileCall ·) := by
  unfold restoreIngress
  split
  · split
    · exact only_catch (only_call rfl) fun _ => trivial
    · trivial
  · trivial

lemma compensate_only {α : Type} (progress : Progress) (error : Failure) :
    (compensate d progress error : Handler α).run.Only (isReconcileCall ·) := by
  refine only_bind (of_records (removeCreated_records _)) fun _ =>
    only_bind (restoreIngress_only _) fun _ => ?_
  split
  · trivial
  · exact only_bind (only_call rfl) fun _ => trivial

lemma guarded_only {α : Type} (progress : Progress) {p : Handler α}
    (hp : p.run.Only (isReconcileCall ·)) :
    (guarded d progress p).run.Only (isReconcileCall ·) :=
  only_catch hp fun error => compensate_only progress error

lemma rewriteIngress_only (tunnelId : String) (rules : List Rule) :
    (rewriteIngress d tunnelId rules).run.Only (isReconcileCall ·) := by
  unfold rewriteIngress
  split
  · exact only_call rfl
  · trivial

lemma withdraw_only : (withdraw d).run.Only (isReconcileCall ·) := by
  unfold withdraw
  split
  · exact only_bind (only_call rfl) fun rules => rewriteIngress_only _ rules
  · trivial

lemma disable_only : (disable d).run.Only (isReconcileCall ·) := by
  refine guarded_only {} (only_bind (of_records (deleteOwned_records _)) fun _ => ?_)
  refine only_bind (only_call rfl) fun remote => ?_
  exact only_bind (of_records (deleteRecoverable_records _)) fun _ =>
    only_bind withdraw_only fun _ => outcome_only _ _

lemma publish_only : (publish d).run.Only (isReconcileCall ·) := by
  unfold publish
  split
  · exact only_bind (guarded_only {} (only_call rfl)) fun rules =>
      only_bind (guarded_only _ (rewriteIngress_only _ rules)) fun _ => trivial
  · trivial

lemma createMissing_only (originalIngress : Option (List Rule)) (owned : List DnsRow)
    (wanted : List Wanted) : ∀ remote created,
    (createMissing d originalIngress owned wanted remote created).run.Only
      (isReconcileCall ·) := by
  induction wanted with
  | nil => exact fun _ _ => trivial
  | cons item rest ih =>
    intro remote created
    unfold createMissing
    split
    · exact ih remote created
    · exact only_bind (guarded_only _ (of_records (create_records ..))) fun made =>
        only_bind (guarded_only _ (of_records (confirm_records ..))) fun _ => ih _ _

lemma enable_only (requireHttpsObservation : Bool) :
    (enable d requireHttpsObservation).run.Only (isReconcileCall ·) := by
  refine only_bind (guarded_only {} (of_records settleOwned_records)) fun settled => ?_
  refine only_bind publish_only fun originalIngress => ?_
  exact only_bind (createMissing_only ..) fun created => guarded_only _ (outcome_only _ _)

lemma reconcileLocked_only (id : String) (requireHttpsObservation : Bool) :
    (reconcileLocked id requireHttpsObservation).run.Only (isReconcileCall ·) := by
  refine only_bind (only_call rfl) fun found => ?_
  split
  · trivial
  · split
    · exact only_bind (outcome_only _ _) fun _ => trivial
    · split
      · exact only_bind (outcome_only _ _) fun _ => trivial
      · split
        · exact enable_only _
        · exact disable_only

lemma releaseAll_only (keys : List LockKey) : (releaseAll keys).Only (isReconcileCall ·) := by
  induction keys with
  | nil => trivial
  | cons key rest ih => exact ⟨rfl, fun _ => ih⟩

lemma finallyRelease_only {α : Type} (keys : List LockKey) {p : Handler α}
    (hp : p.run.Only (isReconcileCall ·)) :
    (finallyRelease keys p).run.Only (isReconcileCall ·) :=
  hp.bind fun _ => (releaseAll_only keys).bind fun _ => trivial

lemma reconcileDomainAccess_only (id : String) (requireHttpsObservation : Bool) :
    (reconcileDomainAccess id requireHttpsObservation).run.Only (isReconcileCall ·) := by
  have hlocked := reconcileLocked_only id requireHttpsObservation
  refine finallyRelease_only _ (only_bind (only_call rfl) fun _ => ?_)
  refine only_bind (only_call rfl) fun row => ?_
  split
  · exact finallyRelease_only _ (only_bind (only_call rfl) fun _ => hlocked)
  · exact hlocked

end GatewayControl.Reconcile
