import GatewayControl.Database

/-!
The identity columns of the connectors: what the token says, whom the connector is bound
to, and how far that has been verified.

Tokens are encrypted texts here. A `uuid` is kept as PostgreSQL prints it, in lower case;
identifiers are ASCII, so `lower` is Lean's. The commands that creations and changes queue
are left out.
-/

namespace GatewayControl.Identity

open Database (Time IdentityStatus)

/-! ### Rows -/

structure ConnectorRow where
  id : String
  name : String
  encryptedToken : String
  enabled : Bool
  agentId : String
  accountId : Option String
  tunnelId : Option String
  desiredRevision : Nat
  tokenAccountIdentifier : Option String
  tokenTunnelId : Option String
  identityStatus : IdentityStatus
  identityVerifiedAt : Option Time
  identityError : Option String
  updatedAt : Time
deriving DecidableEq

structure AccountRow where
  id : String
  accountIdentifier : String
  encryptedApiToken : String
  enabled : Bool
deriving DecidableEq

/-- The connectors, and what else their statements read: the accounts, the agents that are
enabled and enrolled, and the connectors that enabled domain accesses depend on. -/
structure Db where
  now : Time := 0
  connectors : Table ConnectorRow String ConnectorRow.id := ∅
  accounts : Table AccountRow String AccountRow.id := ∅
  readyAgents : List String := []
  guarded : List String := []

/-! ### The constraints -/

def tokenKnown (c : ConnectorRow) : Bool :=
  c.tokenAccountIdentifier.isSome && c.tokenTunnelId.isSome

def needsToken (s : IdentityStatus) : Bool := s == .parsed || s == .unmatched || s == .mismatch

def needsError (s : IdentityStatus) : Bool :=
  s == .unmatched || s == .mismatch || s == .invalid || s == .failed

/-- `cloudflare_connectors_identity_coherence`. -/
def coherent (c : ConnectorRow) : Bool :=
  if c.identityStatus == .verified then
    tokenKnown c && c.accountId.isSome && c.tunnelId.isSome &&
      c.tunnelId.map String.toLower == c.tokenTunnelId.map String.toLower &&
      c.identityVerifiedAt.isSome && c.identityError.isNone
  else
    c.identityVerifiedAt.isNone && (!needsToken c.identityStatus || tokenKnown c) &&
      (!needsError c.identityStatus || c.identityError.isSome)

/-- A `CHECK` also passes where it is unknown, as it is for a verified row without a
tunnel. -/
def coherencePasses (c : ConnectorRow) : Bool :=
  coherent c || (c.identityStatus == .verified && c.tunnelId.isNone && tokenKnown c &&
    c.accountId.isSome && c.identityVerifiedAt.isSome && c.identityError.isNone)

/-- Why a row is not stored. -/
inductive Refusal where
  | coherence
  | tokenIdentityPair
  | tunnelAssignment
  | dependencyEnabled
  | accountTunnelTaken
  | verifiedIdentityTaken
  | duplicate
deriving DecidableEq

def sameTunnel (c d : ConnectorRow) : Bool :=
  c.accountId.isSome && c.accountId == d.accountId && c.tunnelId.isSome &&
    c.tunnelId.map String.toLower == d.tunnelId.map String.toLower

def sameToken (c d : ConnectorRow) : Bool :=
  c.identityStatus == .verified && d.identityStatus == .verified && tokenKnown c &&
    c.tokenAccountIdentifier == d.tokenAccountIdentifier && c.tokenTunnelId == d.tokenTunnelId

def refusal (db : Db) (c : ConnectorRow) : Option Refusal :=
  if !coherencePasses c then some .coherence
  else if c.tokenAccountIdentifier.isSome != c.tokenTunnelId.isSome then some .tokenIdentityPair
  else if c.tunnelId.isSome && c.accountId.isNone then some .tunnelAssignment
  else if db.connectors.rows.any fun d => d.id != c.id && sameTunnel c d then
    some .accountTunnelTaken
  else if db.connectors.rows.any fun d => d.id != c.id && sameToken c d then
    some .verifiedIdentityTaken
  else none

/-- The trigger that keeps connectors that enabled domain accesses depend on. -/
def topologyChanged (old new : ConnectorRow) : Bool :=
  (old.enabled && !new.enabled) || old.agentId != new.agentId || old.accountId != new.accountId ||
    old.tunnelId != new.tunnelId || old.encryptedToken != new.encryptedToken

/-! ### Statements -/

def insertConnector (db : Db) (c : ConnectorRow) : Except Refusal Db :=
  match refusal db c with
  | some r => .error r
  | none =>
    match db.connectors.insert? c with
    | some connectors => .ok { db with connectors }
    | none => .error .duplicate

/-- `UPDATE ... WHERE id = $1`, of a row that is there. -/
def replaceConnector (db : Db) (old : ConnectorRow) (f : ConnectorRow → ConnectorRow)
    (hf : ∀ c, (f c).id = c.id) : Except Refusal Db :=
  if topologyChanged old (f old) && db.guarded.contains old.id then .error .dependencyEnabled
  else
    match refusal db (f old) with
    | some r => .error r
    | none => .ok { db with connectors := db.connectors.update (·.id = old.id) f hf }

/-! ### Creating and changing connectors -/

/-- The enabled account with this id and identifier. -/
def accountLinked (db : Db) (accountId accountIdentifier : String) : Bool :=
  (db.accounts.find? accountId).any fun a =>
    a.enabled && a.accountIdentifier.toLower == accountIdentifier.toLower

structure ConnectorValues where
  name : String
  encryptedToken : String
  enabled : Bool
  agentId : String
  accountId : Option String := none
  accountIdentifier : String
  tunnelId : String
  identityStatus : IdentityStatus
  identityError : Option String := none

def createdConnector (now : Time) (id : String) (values : ConnectorValues) : ConnectorRow :=
  { id, name := values.name, encryptedToken := values.encryptedToken, enabled := values.enabled,
    agentId := values.agentId, accountId := values.accountId,
    tunnelId := values.accountId.map fun _ => values.tunnelId, desiredRevision := 1,
    tokenAccountIdentifier := some values.accountIdentifier,
    tokenTunnelId := some values.tunnelId.toLower, identityStatus := values.identityStatus,
    identityVerifiedAt := if values.identityStatus = .verified then some now else none,
    identityError := values.identityError.map (Json.sliceText 100), updatedAt := now }

def createConnector (db : Db) (id : String) (values : ConnectorValues) :
    Except Refusal (Db × Option ConnectorRow) :=
  if !db.readyAgents.contains values.agentId ||
      !values.accountId.all (accountLinked db · values.accountIdentifier) then
    .ok (db, none)
  else
    let created := createdConnector db.now id values
    (insertConnector db created).map (·, some created)

structure VerifiedIdentity where
  accountId : String
  accountIdentifier : String
  tunnelId : String

structure ConnectorChange where
  name : Option String := none
  encryptedToken : Option String := none
  enabled : Option Bool := none
  agentId : Option String := none
  identity : Option VerifiedIdentity := none

def allowsRuntime (s : IdentityStatus) : Bool :=
  s == .verified || s == .parsed || s == .unmatched || s == .mismatch || s == .failed

def connectorIdentityAllowsRuntime (c : ConnectorRow) : Bool :=
  allowsRuntime c.identityStatus && c.tokenAccountIdentifier.isSome && c.tokenTunnelId.isSome

def changeConnector (now : Time) (values : ConnectorChange) (c : ConnectorRow) :
    ConnectorRow :=
  let changed := { c with
    name := values.name.getD c.name
    encryptedToken := values.encryptedToken.getD c.encryptedToken
    enabled := values.enabled.getD c.enabled
    agentId := values.agentId.getD c.agentId
    desiredRevision := c.desiredRevision + 1
    updatedAt := now }
  match values.identity with
  | none => changed
  | some identity => { changed with
      accountId := some identity.accountId
      tunnelId := some identity.tunnelId
      tokenAccountIdentifier := some identity.accountIdentifier
      tokenTunnelId := some identity.tunnelId.toLower
      identityStatus := .verified
      identityVerifiedAt := some now
      identityError := none }

lemma changeConnector_id (now : Time) (values : ConnectorChange) (c : ConnectorRow) :
    (changeConnector now values c).id = c.id := by
  unfold changeConnector
  split <;> rfl

def updateConnector (db : Db) (id : String) (values : ConnectorChange) :
    Except Refusal (Db × Option ConnectorRow) :=
  match db.connectors.find? id with
  | none => .ok (db, none)
  | some current =>
    if !db.readyAgents.contains (values.agentId.getD current.agentId) ||
        !values.identity.all (fun i => accountLinked db i.accountId i.accountIdentifier) ||
        (values.enabled == some true && values.encryptedToken.isNone &&
          !connectorIdentityAllowsRuntime current) then
      .ok (db, none)
    else
      (replaceConnector db current (changeConnector db.now values)
        (changeConnector_id db.now values)).map (·, some (changeConnector db.now values current))

/-! ### Recording a verification -/

/-- What the caller has read of the connector. -/
structure Expectation where
  desiredRevision : Nat
  encryptedToken : String

structure IdentityValues where
  status : IdentityStatus
  accountId : Option String := none
  accountIdentifier : Option String := none
  tunnelId : Option String := none
  error : Option String := none

def bound (c : ConnectorRow) (values : IdentityValues) : Bool :=
  (c.accountId.isSome && c.accountId != values.accountId) ||
    (c.tunnelId.isSome && c.tunnelId.map String.toLower != values.tunnelId.map String.toLower)

/-- The columns as the `CASE`s of the statement set them. -/
def markedConnector (now : Time) (values : IdentityValues) (c : ConnectorRow) : ConnectorRow :=
  let verified := values.status == .verified
  let elsewhere := verified && bound c values
  let binds := verified && (c.accountId.isNone || c.accountId == values.accountId) &&
    (c.tunnelId.isNone || c.tunnelId.map String.toLower == values.tunnelId.map String.toLower)
  { c with
    identityStatus := if elsewhere then .mismatch else values.status
    accountId := if binds then c.accountId.or values.accountId else c.accountId
    tunnelId := if binds then c.tunnelId.or values.tunnelId else c.tunnelId
    tokenAccountIdentifier := values.accountIdentifier
    tokenTunnelId := values.tunnelId.map String.toLower
    identityVerifiedAt := if binds then some now else none
    identityError := if elsewhere then some "connector_identity_mismatch"
      else if verified then none else values.error.map (Json.sliceText 100)
    updatedAt := now }

def asExpected (expected : Expectation) (c : ConnectorRow) : Bool :=
  c.desiredRevision == expected.desiredRevision && c.encryptedToken == expected.encryptedToken

def markConnectorIdentity (db : Db) (id : String) (expected : Expectation)
    (values : IdentityValues) : Except Refusal (Db × Option ConnectorRow) :=
  match (db.connectors.find? id).filter (asExpected expected) with
  | none => .ok (db, none)
  | some c =>
    (replaceConnector db c (markedConnector db.now values) fun _ => rfl).map
      (·, some (markedConnector db.now values c))

def getCloudflareAccountSecretByIdentifier (db : Db) (accountIdentifier : String) :
    Option AccountRow :=
  db.accounts.rows.find? fun a =>
    a.enabled && a.accountIdentifier.toLower == accountIdentifier.toLower

def hourMs : Nat := 60 * 60000

/-- `ORDER BY updated_at LIMIT ...`: the least recently updated first. -/
def listConnectorIdentityDeployments (db : Db) (limit : Nat) : List ConnectorRow :=
  ((db.connectors.rows.filter fun c =>
    c.identityStatus == .pending || c.identityStatus == .parsed || c.identityStatus == .failed ||
      (c.identityStatus == .unmatched && c.updatedAt + hourMs < db.now)).mergeSort
        fun c d => c.updatedAt ≤ d.updatedAt).take (max 1 (min limit 50))

/-! ### What is coherent whatever was there before -/

/-- Values whose status has the fields it requires. -/
def IdentityValues.complete (values : IdentityValues) : Bool :=
  (values.accountIdentifier.isSome == values.tunnelId.isSome) &&
  (if values.status == .verified then values.accountId.isSome && values.tunnelId.isSome
    else (!needsToken values.status || values.tunnelId.isSome) &&
      (!needsError values.status || values.error.isSome))

/-- Values with which a connector is created: its verification succeeded, or says why not. -/
def ConnectorValues.complete (values : ConnectorValues) : Bool :=
  if values.identityStatus == .verified then
    values.accountId.isSome && values.identityError.isNone
  else !needsError values.identityStatus || values.identityError.isSome

lemma lowerChar_lowerChar (c : Char) : c.toLower.toLower = c.toLower := by
  unfold Char.toLower
  by_cases h : c.val ≥ 'A'.val ∧ c.val ≤ 'Z'.val
  · simp only [h, dif_pos, and_self]
    rw [dif_neg]
    rintro ⟨-, hle⟩
    have hlow : (65 : Nat) ≤ c.val.toNat := UInt32.le_iff_toNat_le.mp h.1
    have hhigh : c.val.toNat ≤ 90 := UInt32.le_iff_toNat_le.mp h.2
    have hshift : ('a'.val - 'A'.val).toNat = 32 := rfl
    have hsum : (c.val + ('a'.val - 'A'.val)).toNat = c.val.toNat + 32 := by
      rw [UInt32.toNat_add]
      exact Nat.mod_eq_of_lt (by omega)
    have hbound : (c.val + ('a'.val - 'A'.val)).toNat ≤ 90 := UInt32.le_iff_toNat_le.mp hle
    omega
  · rw [dif_neg h, dif_neg h]

lemma toLower_toLower (s : String) : s.toLower.toLower = s.toLower := by
  apply String.ext
  change ((s.map Char.toLower).map Char.toLower).toList = (s.map Char.toLower).toList
  simp only [String.toList_map, List.map_map]
  exact List.map_congr_left fun c _ => lowerChar_lowerChar c

lemma coherent_passes {c : ConnectorRow} (h : coherent c) : coherencePasses c := by
  rw [coherencePasses, h, Bool.true_or]

lemma createdConnector_coherent (now : Time) (id : String) {values : ConnectorValues}
    (h : values.complete) : coherent (createdConnector now id values) := by
  unfold ConnectorValues.complete at h
  by_cases hv : values.identityStatus = .verified
  · simp only [hv, beq_self_eq_true, if_true, Bool.and_eq_true, Option.isNone_iff_eq_none,
      Option.isSome_iff_exists] at h
    obtain ⟨⟨accountId, haccount⟩, herror⟩ := h
    simp [coherent, createdConnector, hv, haccount, herror, tokenKnown, toLower_toLower]
  · have hne : (values.identityStatus == .verified) = false := by simpa using hv
    rw [hne, if_neg Bool.false_ne_true] at h
    simpa [coherent, createdConnector, hne, hv, tokenKnown] using h

lemma changeConnector_coherent (now : Time) (values : ConnectorChange) {c : ConnectorRow}
    (h : coherent c) : coherent (changeConnector now values c) := by
  unfold changeConnector
  split
  · exact h
  · simp [coherent, tokenKnown, toLower_toLower]

/-- What a verification binds is what is not bound elsewhere. -/
lemma binds_eq (c : ConnectorRow) (values : IdentityValues) :
    ((c.accountId.isNone || c.accountId == values.accountId) &&
      (c.tunnelId.isNone || c.tunnelId.map String.toLower == values.tunnelId.map String.toLower)) =
      !bound c values := by
  simp [bound, Bool.not_and, bne]

lemma markedConnector_elsewhere {now : Time} {values : IdentityValues} {c : ConnectorRow}
    (hv : values.status = .verified) (hb : bound c values) :
    markedConnector now values c = { c with
      identityStatus := .mismatch
      tokenAccountIdentifier := values.accountIdentifier
      tokenTunnelId := values.tunnelId.map String.toLower
      identityVerifiedAt := none
      identityError := some "connector_identity_mismatch"
      updatedAt := now } := by
  simp only [markedConnector, hv, beq_self_eq_true, Bool.true_and, binds_eq, hb, if_true,
    Bool.not_true, Bool.false_eq_true, if_false]

lemma markedConnector_binds {now : Time} {values : IdentityValues} {c : ConnectorRow}
    (hv : values.status = .verified) (hb : bound c values = false) :
    markedConnector now values c = { c with
      identityStatus := .verified
      accountId := c.accountId.or values.accountId
      tunnelId := c.tunnelId.or values.tunnelId
      tokenAccountIdentifier := values.accountIdentifier
      tokenTunnelId := values.tunnelId.map String.toLower
      identityVerifiedAt := some now
      identityError := none
      updatedAt := now } := by
  simp only [markedConnector, hv, beq_self_eq_true, Bool.true_and, binds_eq, hb, if_true,
    Bool.not_false, Bool.false_eq_true, if_false]

lemma markedConnector_other {now : Time} {values : IdentityValues} {c : ConnectorRow}
    (hv : values.status ≠ .verified) :
    markedConnector now values c = { c with
      identityStatus := values.status
      tokenAccountIdentifier := values.accountIdentifier
      tokenTunnelId := values.tunnelId.map String.toLower
      identityVerifiedAt := none
      identityError := values.error.map (Json.sliceText 100)
      updatedAt := now } := by
  have hne : (values.status == .verified) = false := by simpa using hv
  simp only [markedConnector, hne, Bool.false_and, Bool.false_eq_true, if_false]

/-- **A recorded verification is coherent**, whatever the connector was before. -/
theorem markedConnector_coherent (now : Time) (c : ConnectorRow) {values : IdentityValues}
    (h : values.complete) : coherent (markedConnector now values c) := by
  unfold IdentityValues.complete at h
  by_cases hv : values.status = .verified
  · simp only [hv, beq_self_eq_true, if_true, Bool.and_eq_true, beq_iff_eq,
      Option.isSome_iff_exists] at h
    obtain ⟨hpair, ⟨accountId, haccount⟩, tunnelId, htunnel⟩ := h
    rw [htunnel, Option.isSome_some] at hpair
    by_cases hb : bound c values
    · rw [markedConnector_elsewhere hv hb]
      simp [coherent, tokenKnown, needsToken, needsError, hpair, htunnel]
    · rw [Bool.not_eq_true] at hb
      rw [markedConnector_binds hv hb]
      have hsame : (c.tunnelId.or values.tunnelId).map String.toLower =
          some tunnelId.toLower := by
        rcases ht : c.tunnelId with _ | t
        · simp [htunnel]
        · simp only [bound, ht, Option.isSome_some, Bool.true_and, Bool.or_eq_false_iff,
            bne_eq_false_iff_eq, htunnel, Option.map_some] at hb
          simpa using hb.2
      simp [coherent, tokenKnown, hpair, haccount, htunnel, toLower_toLower] at hsame ⊢
      simpa using hsame
  · have hne : (values.status == .verified) = false := by simpa using hv
    rw [hne, if_neg Bool.false_ne_true] at h
    rw [markedConnector_other hv]
    simp only [Bool.and_eq_true, beq_iff_eq, Bool.or_eq_true, Bool.not_eq_true'] at h
    obtain ⟨hpair, htoken, herror⟩ := h
    simp only [coherent, hne, Bool.false_eq_true, if_false, Option.isNone_none, Bool.true_and,
      tokenKnown, hpair, Option.isSome_map, Bool.and_self, Bool.and_eq_true, Bool.or_eq_true,
      Bool.not_eq_true']
    exact ⟨htoken, herror⟩

end GatewayControl.Identity
