import GatewayControl.IdentityCoherence

/-!
Attempts to verify connectors, and what an outage must not do to the connectors.

An attempt runs to its end and every call of it is answered; what the calls meet may differ
from attempt to attempt.
-/

namespace GatewayControl.Identity

open Database (Time IdentityStatus)
open Cloudflare (Failure)
open Programs

/-! ### Attempts -/

abbrev Connectors := Table ConnectorRow String ConnectorRow.id

/-- The handlers' own error is never what a call throws. -/
def fromOutside : Failure → Bool
  | .api _ _ _ => false
  | _ => true

/-- What an attempt meets: the other tables, what Cloudflare answers, and whether accounts
can be looked up. -/
structure Met where
  now : Time := 0
  accounts : Table AccountRow String AccountRow.id := ∅
  readyAgents : List String := []
  guarded : List String := []
  choice : Choice
  lookup : Option Failure := none
  outside : ∀ e, lookup = some e ∨ choice.metadata = .error e ∨ choice.tunnelToken = .error e →
    fromOutside e

def Met.db (m : Met) (t : Connectors) : Db :=
  { now := m.now, connectors := t, accounts := m.accounts, readyAgents := m.readyAgents,
    guarded := m.guarded }

def Met.answer (m : Met) (t : Connectors) : (o : Op) → Except Failure o.Answer × Connectors
  | .getCloudflareAccountSecretByIdentifier accountIdentifier =>
      match m.lookup with
      | some e => (.error e, t)
      | none => (.ok (getCloudflareAccountSecretByIdentifier (m.db t) accountIdentifier), t)
  | o => ((Op.run m.choice (m.db t) o).1, (Op.run m.choice (m.db t) o).2.connectors)

variable (keys : Keys)

/-- Creation, by request or in the guided bootstrap, and verification of a stored connector:
on request, or in a pass of the reconciliation. -/
inductive Attempt where
  | create (body : CreateBody)
  | bootstrap (connectorName connectorToken accountId tunnelId agentId : String)
  | verify (id : String)

def Attempt.handler : Attempt → Handler (Option ConnectorRow)
  | create body => do
      let c ← postConnector keys body
      return some c
  | bootstrap connectorName connectorToken accountId tunnelId agentId => do
      let c ← bootstrapConnector keys connectorName connectorToken accountId tunnelId agentId
      return some c
  | verify id => verifyStoredConnector keys id

def Attempt.result (a : Attempt) (m : Met) (t : Connectors) :
    Except Failure (Option ConnectorRow) × Connectors :=
  Prog.outcome (F := Plane) m.answer (a.handler keys).run t

def Attempt.states (a : Attempt) (m : Met) (t : Connectors) : List Connectors :=
  Prog.states (F := Plane) m.answer (a.handler keys).run t

/-- The connectors after any sequence of attempts and of edits. -/
inductive Reached : Connectors → Prop where
  | start : Reached ∅
  | attempt {t : Connectors} (a : Attempt) (m : Met) (h : Reached t) :
      Reached (a.result keys m t).2
  | edit {t : Connectors} (id : String) (body : PatchBody) (m : Met) (h : Reached t) :
      Reached (Prog.outcome (F := Plane) m.answer (patchConnector keys id body).run t).2

/-! ### What an outage must not do -/

def unavailable : Failure → Bool
  | .api _ _ code => code == some "connector_identity_verification_failed"
  | _ => false

/-- The attempt ends in 'temporarily unavailable': it throws so, or creates a connector with
that error. -/
def EndsUnavailable : Attempt → Except Failure (Option ConnectorRow) → Prop
  | .verify _, r => ∃ e, r = .error e ∧ unavailable e
  | _, r => ∃ c, r = .ok (some c) ∧
      c.identityError = some "connector_identity_verification_failed"

/-- With the same token the connector may run as before, and is verified if it was. -/
def SameStanding (c c' : ConnectorRow) : Prop :=
  c'.encryptedToken = c.encryptedToken →
    connectorIdentityAllowsRuntime c' = connectorIdentityAllowsRuntime c ∧
      (c.identityStatus = .verified → c'.identityStatus = .verified)

/-- What creation would make of the token where the attempt is made. -/
def creationOf (m : Met) (t : Connectors) (token : String) : Except Failure CreationIdentity :=
  (Prog.outcome (F := Plane) m.answer (connectorIdentityForCreation keys token none none).run t).1

/-- An attempt that ends in 'temporarily unavailable' leaves every connector its standing in
every state it passes through, and a failure gives a stored connector the status it gives
in creation. -/
def Kept (t : Connectors) (a : Attempt) (m : Met) : Prop :=
  (EndsUnavailable a (a.result keys m t).1 → ∀ s ∈ a.states keys m t, ∀ id c c',
    t.find? id = some c → s.find? id = some c' → SameStanding c c') ∧
  ∀ id c token identity c', a = .verify id → t.find? id = some c →
    keys.decrypt c.encryptedToken = some token → creationOf keys m t token = .ok identity →
      identity.identityStatus ≠ .verified →
        (a.result keys m t).2.find? id = some c' → c'.identityStatus = identity.identityStatus

/-! ### Outages -/

/-- Cloudflare does not answer, or not with a token that can be read, or what it answers is
known to be of this tunnel only so far. -/
def Met.cloudflareDown (m : Met) (parsed : ParsedToken) : Bool :=
  match m.choice.metadata with
  | .error e => !e.isExplicitNotFound
  | .ok metadata =>
    !metadata.deleted && metadata.accountIdentifier == parsed.accountIdentifier &&
      metadata.id == parsed.tunnelId &&
      match m.choice.tunnelToken with
      | .error e => !e.isExplicitNotFound
      | .ok token => (keys.parse token).isNone

/-- The account of a token cannot be looked up, its API token cannot be decrypted, or
Cloudflare is down. -/
def Met.outage (m : Met) (parsed : ParsedToken) : Bool :=
  m.lookup.isSome ||
    (getCloudflareAccountSecretByIdentifier (m.db ∅) parsed.accountIdentifier).any fun account =>
      (keys.decrypt account.encryptedApiToken).isNone || m.cloudflareDown keys parsed

/-- A stored connector whose token can be read is verified again during an outage. -/
def Outage (t : Connectors) : Attempt → Met → Prop
  | .verify id, m => ∃ c token parsed, t.find? id = some c ∧
      keys.decrypt c.encryptedToken = some token ∧ keys.parse token = some parsed ∧
        m.outage keys parsed
  | _, _ => False

/-! ### The verdict on a token -/

variable {keys}

lemma answer_reads {m : Met} {t : Connectors} {o : Op} (h : o.reads) : (m.answer t o).2 = t := by
  cases o with
  | getCloudflareAccountSecretByIdentifier accountIdentifier =>
    unfold Met.answer
    cases m.lookup <;> rfl
  | markConnectorIdentity id expected values => cases h
  | createConnector values => cases h
  | updateConnector id values => cases h
  | _ => rfl

/-- Programs that only read pass through no other state. -/
lemma reads_states {α : Type} {p : Prog Plane α} (hp : p.Only fun o => Op.reads o) (m : Met)
    (t : Connectors) :
    (Prog.outcome (F := Plane) m.answer p t).2 = t ∧
      ∀ s ∈ Prog.states (F := Plane) m.answer p t, s = t :=
  hp.states (P := fun s => s = t) (fun _ _ ho hs => (answer_reads ho).trans hs) rfl

/-- The verdict of the verification on a parsed token. -/
def verdict (keys : Keys) (m : Met) (t : Connectors) (parsed : ParsedToken) :
    Except Failure VerifiedIdentity :=
  (Prog.outcome (F := Plane) m.answer (verifyParsedConnectorIdentity keys parsed).run t).1

lemma outcome_call (m : Met) (t : Connectors) {β : Type} (o : Op) (f : o.Answer → Handler β) :
    Prog.outcome (F := Plane) m.answer (call o >>= f).run t =
      match (m.answer t o).1 with
      | .ok a => Prog.outcome (F := Plane) m.answer (f a).run (m.answer t o).2
      | .error e => (.error e, (m.answer t o).2) := by
  change Prog.outcome (F := Plane) m.answer (ExceptT.bindCont (m := Prog Plane) f _) _ = _
  cases (m.answer t o).1 <;> rfl

lemma states_call (m : Met) (t : Connectors) {β : Type} (o : Op) (f : o.Answer → Handler β) :
    Prog.states (F := Plane) m.answer (call o >>= f).run t =
      (m.answer t o).2 :: match (m.answer t o).1 with
        | .ok a => Prog.states (F := Plane) m.answer (f a).run (m.answer t o).2
        | .error _ => [] := by
  change (m.answer t o).2 ::
    Prog.states (F := Plane) m.answer (ExceptT.bindCont (m := Prog Plane) f _) _ = _
  cases (m.answer t o).1 <;> rfl

lemma lift_bind {α β : Type} (p : Prog Plane α) (f : α → Handler β) :
    (ExceptT.lift p >>= f).run = p >>= fun a => (f a).run := by
  induction p with
  | pure a => rfl
  | op o k ih => exact congrArg (Prog.op o) (funext ih)

lemma code_outside {e : Failure} (h : fromOutside e) :
    verificationCode (asVerificationError e) =
      some (if e.isExplicitNotFound then "connector_tunnel_not_found"
        else "connector_identity_verification_failed") := by
  cases e with
  | api status message code => cases h
  | client message status code =>
    unfold asVerificationError
    dsimp only
    split_ifs <;> rfl
  | other message => rfl

lemma answer_metadata (m : Met) (t : Connectors) (apiToken : String) (federal : Bool)
    (accountIdentifier tunnelId : String) :
    m.answer t (.getTunnelMetadata apiToken federal accountIdentifier tunnelId) =
      (m.choice.metadata, t) := rfl

lemma answer_token (m : Met) (t : Connectors) (apiToken : String) (federal : Bool)
    (accountIdentifier tunnelId : String) :
    m.answer t (.getTunnelToken apiToken federal accountIdentifier tunnelId) =
      (m.choice.tunnelToken, t) := rfl

/-- Asking ended in an error that means an outage exactly if there is one, and never because
no account is linked. -/
def Tells (down : Bool) : Except Failure VerifiedIdentity → Prop
  | .ok _ => down = false
  | .error e => verificationCode e ≠ some "connector_account_unlinked" ∧
      (verificationCode e = some "connector_identity_verification_failed" ↔ down)

lemma tells_outside {e : Failure} (h : fromOutside e) :
    Tells (!e.isExplicitNotFound) (.error (asVerificationError e)) := by
  change verificationCode (asVerificationError e) ≠ _ ∧
    (verificationCode (asVerificationError e) = _ ↔ _)
  rw [code_outside h]
  cases e.isExplicitNotFound <;> decide

lemma tells_refused {status : Nat} {message code : String}
    (hlinked : code ≠ "connector_account_unlinked")
    (hfailed : code ≠ "connector_identity_verification_failed") :
    Tells false (.error (.api status message (some code))) := by
  refine ⟨fun h => hlinked (Option.some.inj h), fun h => ?_, fun h => ?_⟩
  · exact absurd (Option.some.inj h) hfailed
  · cases h

lemma atCloudflare_tells (keys : Keys) (m : Met) (t : Connectors) (parsed : ParsedToken)
    (accountId apiToken : String) :
    Tells (m.cloudflareDown keys parsed) ((Prog.outcome (F := Plane) m.answer
      (verifyAtCloudflare keys parsed accountId apiToken).run t).1.mapError
        asVerificationError) := by
  unfold verifyAtCloudflare Met.cloudflareDown
  dsimp only
  rw [outcome_call, answer_metadata]
  rcases hm : m.choice.metadata with e | metadata
  · exact tells_outside (m.outside e (.inr (.inl hm)))
  dsimp only
  by_cases hdeleted : metadata.deleted
  · rw [if_pos hdeleted, hdeleted]
    exact tells_refused (by decide) (by decide)
  rw [if_neg hdeleted]
  by_cases hother : metadata.accountIdentifier ≠ parsed.accountIdentifier ∨
      metadata.id ≠ parsed.tunnelId
  · have hbool : (metadata.accountIdentifier == parsed.accountIdentifier &&
        metadata.id == parsed.tunnelId) = false := by
      rw [Bool.and_eq_false_iff]
      simpa using hother
    rw [if_pos hother, Bool.and_assoc (!metadata.deleted), hbool, Bool.and_false, Bool.false_and]
    exact tells_refused (by decide) (by decide)
  · rw [not_or, not_not, not_not] at hother
    rw [if_neg (by simpa using hother), outcome_call, answer_token]
    simp only [hother.1, hother.2, Bool.eq_false_iff.mpr hdeleted, beq_self_eq_true, Bool.not_false,
      Bool.and_self, Bool.true_and]
    rcases ht : m.choice.tunnelToken with e | token
    · exact tells_outside (m.outside e (.inr (.inr ht)))
    dsimp only
    rcases hparse : keys.parse token with _ | remote
    · exact ⟨by decide, by decide⟩
    · dsimp only
      by_cases hremote : remote ≠ parsed
      · rw [if_pos hremote]
        exact tells_refused (by decide) (by decide)
      · rw [if_neg hremote]
        rfl

/-- The account of a token, as the attempt finds it. -/
def Met.account (m : Met) (parsed : ParsedToken) : Option AccountRow :=
  getCloudflareAccountSecretByIdentifier (m.db ∅) parsed.accountIdentifier

lemma answer_account {m : Met} (h : m.lookup = none) (t : Connectors) (parsed : ParsedToken) :
    m.answer t (.getCloudflareAccountSecretByIdentifier parsed.accountIdentifier) =
      (.ok (m.account parsed), t) := by
  simp only [Met.answer, h]
  rfl

lemma answer_lookup {m : Met} {e : Failure} (h : m.lookup = some e) (t : Connectors)
    (accountIdentifier : String) :
    m.answer t (.getCloudflareAccountSecretByIdentifier accountIdentifier) = (.error e, t) := by
  simp only [Met.answer, h]

lemma verdict_lookup {m : Met} {e : Failure} (h : m.lookup = some e) (t : Connectors)
    (parsed : ParsedToken) : verdict keys m t parsed = .error e := by
  unfold verdict verifyParsedConnectorIdentity
  rw [outcome_call, answer_lookup h]

lemma verdict_unlinked {m : Met} {parsed : ParsedToken} (h : m.lookup = none)
    (ha : m.account parsed = none) (t : Connectors) :
    verdict keys m t parsed = .error (.api 409
      "No enabled Cloudflare account matches the connector token."
      (some "connector_account_unlinked")) := by
  unfold verdict verifyParsedConnectorIdentity
  rw [outcome_call, answer_account h, ha]
  rfl

/-- A verification ends in an outage exactly if the attempt meets one. -/
lemma verdict_linked (keys : Keys) {m : Met} {parsed : ParsedToken} {account : AccountRow}
    (h : m.lookup = none) (ha : m.account parsed = some account) (t : Connectors) :
    Tells (m.outage keys parsed) (verdict keys m t parsed) := by
  have houtage : m.outage keys parsed =
      ((keys.decrypt account.encryptedApiToken).isNone || m.cloudflareDown keys parsed) := by
    unfold Met.account at ha
    rw [Met.outage, h, ha]
    rfl
  unfold verdict verifyParsedConnectorIdentity
  rw [outcome_call, answer_account h, ha, houtage]
  dsimp only
  rcases keys.decrypt account.encryptedApiToken with _ | apiToken
  · exact ⟨by decide, fun _ => rfl, fun _ => rfl⟩
  · have htells := atCloudflare_tells keys m t parsed account.id apiToken
    change Tells _ (Prog.outcome (F := Plane) m.answer ((verifyAtCloudflare keys parsed account.id
      apiToken).run >>= _) t).1
    rw [Prog.outcome_bind]
    rcases hr : (Prog.outcome (F := Plane) m.answer
      (verifyAtCloudflare keys parsed account.id apiToken).run t).1 with e | v
    · rw [hr] at htells
      exact htells
    · rw [hr] at htells
      exact htells

lemma outage_account {m : Met} {parsed : ParsedToken} (h : m.outage keys parsed)
    (hl : m.lookup = none) : ∃ account, m.account parsed = some account := by
  unfold Met.outage at h
  rw [hl] at h
  exact Option.isSome_iff_exists.mp (Option.isSome_of_any h)

/-! ### Marks that are not refused -/

/-- Connectors with a tunnel have an account, and no two have the same. -/
def Placed (t : Connectors) : Prop :=
  ∀ id c, t.find? id = some c → (c.tunnelId.isSome → c.accountId.isSome) ∧
    ∀ id' d, t.find? id' = some d → id' ≠ id → sameTunnel c d = false

lemma sameTunnel_symm (c d : ConnectorRow) : sameTunnel c d = sameTunnel d c := by
  rw [Bool.eq_iff_iff]
  simp only [sameTunnel, Bool.and_eq_true, beq_iff_eq]
  constructor
  · rintro ⟨⟨⟨ha, hac⟩, ht⟩, htc⟩
    refine ⟨⟨⟨hac ▸ ha, hac.symm⟩, ?_⟩, htc.symm⟩
    rw [← Option.isSome_map (f := String.toLower), ← htc, Option.isSome_map]
    exact ht
  · rintro ⟨⟨⟨ha, hac⟩, ht⟩, htc⟩
    refine ⟨⟨⟨hac ▸ ha, hac.symm⟩, ?_⟩, htc.symm⟩
    rw [← Option.isSome_map (f := String.toLower), ← htc, Option.isSome_map]
    exact ht

/-- A row that is not refused is placed among the others. -/
lemma placed_of_refusal {db : Db} {c : ConnectorRow} (h : refusal db c = none) :
    (c.tunnelId.isSome → c.accountId.isSome) ∧
      ∀ id d, db.connectors.find? id = some d → id ≠ c.id → sameTunnel c d = false := by
  unfold refusal at h
  split_ifs at h with hpasses hpair hassigned htunnel htoken
  constructor
  · intro ht
    simpa [ht, Option.isNone_iff_eq_none, Option.isSome_iff_ne_none] using hassigned
  · intro id d hd hne
    rw [Bool.not_eq_true, List.any_eq_false] at htunnel
    have hrow := htunnel d (Table.mem_of_find? hd)
    rw [Table.key_find? hd] at hrow
    simpa [hne] using hrow

lemma placed_replaced {db db' : Db} {old : ConnectorRow} {f : ConnectorRow → ConnectorRow}
    {hf : ∀ c, (f c).id = c.id} (h : replaceConnector db old f hf = .ok db')
    (hold : db.connectors.find? old.id = some old) (hplaced : Placed db.connectors) :
    Placed db'.connectors := by
  have hnone : refusal db (f old) = none := by
    unfold replaceConnector at h
    split at h
    · cases h
    · split at h
      · cases h
      · assumption
  obtain ⟨hassigned, hothers⟩ := placed_of_refusal hnone
  rw [hf] at hothers
  obtain rfl := replaceConnector_ok h
  intro id c hc
  change (db.connectors.update (·.id = old.id) f hf).find? id = some c at hc
  rw [find?_replaced hf hold] at hc
  have hfind : ∀ id' d, (db.connectors.update (·.id = old.id) f hf).find? id' = some d →
      (id' = old.id ∧ d = f old) ∨ (id' ≠ old.id ∧ db.connectors.find? id' = some d) := by
    intro id' d hd
    rw [find?_replaced hf hold] at hd
    by_cases hid : id' = old.id
    · rw [if_pos hid] at hd
      exact .inl ⟨hid, (Option.some.inj hd).symm⟩
    · rw [if_neg hid] at hd
      exact .inr ⟨hid, hd⟩
  by_cases hid : id = old.id
  · rw [if_pos hid] at hc
    obtain rfl := Option.some.inj hc
    refine ⟨hassigned, fun id' d hd hne => ?_⟩
    rcases hfind id' d hd with ⟨hid', -⟩ | ⟨hid', hd'⟩
    · exact absurd (hid'.trans hid.symm) hne
    · exact hothers id' d hd' hid'
  · rw [if_neg hid] at hc
    obtain ⟨hc1, hc2⟩ := hplaced id c hc
    refine ⟨hc1, fun id' d hd hne => ?_⟩
    rcases hfind id' d hd with ⟨-, rfl⟩ | ⟨hid', hd'⟩
    · rw [sameTunnel_symm]
      exact hothers id c hc hid
    · exact hc2 id' d hd' hne

lemma placed_inserted {db db' : Db} {c : ConnectorRow} (h : insertConnector db c = .ok db')
    (hplaced : Placed db.connectors) : Placed db'.connectors := by
  have hnone : refusal db c = none := by
    unfold insertConnector at h
    split at h
    · cases h
    · assumption
  obtain ⟨hassigned, hothers⟩ := placed_of_refusal hnone
  obtain ⟨connectors, hinsert, rfl⟩ := insertConnector_ok h
  have hfind : ∀ id d, connectors.find? id = some d →
      (id = c.id ∧ d = c) ∨ (id ≠ c.id ∧ db.connectors.find? id = some d) := by
    intro id d hd
    rw [Table.find?_insert hinsert] at hd
    by_cases hid : id = c.id
    · rw [if_pos hid] at hd
      exact .inl ⟨hid, (Option.some.inj hd).symm⟩
    · rw [if_neg hid] at hd
      exact .inr ⟨hid, hd⟩
  intro id r hr
  rcases hfind id r hr with ⟨rfl, rfl⟩ | ⟨hid, hr'⟩
  · refine ⟨hassigned, fun id' d hd hne => ?_⟩
    rcases hfind id' d hd with ⟨rfl, -⟩ | ⟨hid', hd'⟩
    · exact absurd rfl hne
    · exact hothers id' d hd' hid'
  · obtain ⟨hr1, hr2⟩ := hplaced id r hr'
    refine ⟨hr1, fun id' d hd hne => ?_⟩
    rcases hfind id' d hd with ⟨-, rfl⟩ | ⟨hid', hd'⟩
    · rw [sameTunnel_symm]
      exact hothers id r hr' hid
    · exact hr2 id' d hd' hne

lemma run_placed {db : Db} (hplaced : Placed db.connectors) (ch : Choice) (o : Op) :
    Placed (Op.run ch db o).2.connectors := by
  cases o with
  | markConnectorIdentity id expected values =>
    change Placed (stored db (markConnectorIdentity db id expected values)).2.connectors
    unfold markConnectorIdentity
    rcases hcur : (db.connectors.find? id).filter (asExpected expected) with _ | c
    · exact hplaced
    · have hfind := (Option.filter_eq_some_iff.mp hcur).1
      dsimp only
      rcases hrep : replaceConnector db c (markedConnector db.now values) fun _ => rfl with r | db'
      · exact hplaced
      · exact placed_replaced hrep (Table.key_find? hfind ▸ hfind) hplaced
  | updateConnector id values =>
    change Placed (stored db (updateConnector db id values)).2.connectors
    unfold updateConnector
    rcases hcur : db.connectors.find? id with _ | c
    · exact hplaced
    · dsimp only
      split
      · exact hplaced
      · rcases hrep : replaceConnector db c (changeConnector db.now values) _ with r | db'
        · exact hplaced
        · exact placed_replaced hrep (Table.key_find? hcur ▸ hcur) hplaced
  | createConnector values =>
    change Placed (stored db (createConnector db ch.newId values)).2.connectors
    unfold createConnector
    split
    · exact hplaced
    · dsimp only
      rcases hins : insertConnector db (createdConnector db.now ch.newId values) with r | db'
      · exact hplaced
      · exact placed_inserted hins hplaced
  | _ => exact hplaced

lemma answer_placed {m : Met} {t : Connectors} (h : Placed t) (o : Op) :
    Placed (m.answer t o).2 := by
  cases o with
  | getCloudflareAccountSecretByIdentifier accountIdentifier =>
    rw [answer_reads rfl]
    exact h
  | _ => exact @run_placed (m.db t) h m.choice _

lemma reached_placed {t : Connectors} (h : Reached keys t) : Placed t := by
  induction h with
  | start => exact fun id c hc => nomatch hc
  | attempt a m _ ih =>
    exact ((Prog.only_true _).states (P := Placed) (fun _ o _ hs => answer_placed hs o) ih).1
  | edit id body m _ ih =>
    exact ((Prog.only_true _).states (P := Placed) (fun _ o _ hs => answer_placed hs o) ih).1

/-- A row that is not verified takes no other's tunnel or token. -/
lemma marked_accepted {m : Met} {t : Connectors} {id : String} {c : ConnectorRow}
    {values : IdentityValues} (hplaced : Placed t) (hc : t.find? id = some c)
    (hvalues : values.complete) (hstatus : values.status ≠ .verified) :
    refusal (m.db t) (markedConnector m.now values c) = none := by
  have hid := Table.key_find? hc
  obtain ⟨hassigned, hothers⟩ := hplaced id c hc
  have hpasses := coherent_passes (markedConnector_coherent m.now c hvalues)
  have hpair : values.accountIdentifier.isSome = values.tunnelId.isSome := by
    simp only [IdentityValues.complete, Bool.and_eq_true, beq_iff_eq] at hvalues
    exact hvalues.1
  have hrow := @markedConnector_other m.now values c hstatus
  have htunnel : (m.db t).connectors.rows.any (fun d =>
      d.id != (markedConnector m.now values c).id &&
        sameTunnel (markedConnector m.now values c) d) = false := by
    rw [List.any_eq_false]
    intro d hd
    have hfind : t.find? d.id = some d := Table.find?_of_mem hd
    rw [hrow]
    by_cases hne : d.id = id
    · simp [hne, hid]
    · have hother : sameTunnel c d = false := hothers d.id d hfind hne
      simpa [sameTunnel] using fun _ => hother
  have htoken : (m.db t).connectors.rows.any (fun d =>
      d.id != (markedConnector m.now values c).id &&
        sameToken (markedConnector m.now values c) d) = false := by
    rw [List.any_eq_false]
    intro d _
    have hne : (values.status == .verified) = false := by simpa using hstatus
    rw [hrow]
    simp [sameToken, hne]
  have hsome : c.tunnelId.isSome → ¬c.accountId = none :=
    fun h => Option.isSome_iff_ne_none.mp (hassigned h)
  unfold refusal
  rw [hpasses, htunnel, htoken, hrow]
  simpa [hpair] using hsome

/-- Anything but a verified identity is recorded for the connector that was read. -/
lemma answer_mark {m : Met} {t : Connectors} {id : String} {c : ConnectorRow}
    {expected : Expectation} (values : IdentityValues) (hplaced : Placed t)
    (hc : t.find? id = some c) (hexpected : asExpected expected c) (hvalues : values.complete)
    (hstatus : values.status ≠ .verified) :
    ∃ t', m.answer t (.markConnectorIdentity id expected values) =
        (.ok (some (markedConnector m.now values c)), t') ∧
      t'.find? id = some (markedConnector m.now values c) := by
  have hid := Table.key_find? hc
  have hfilter : ((m.db t).connectors.find? id).filter (asExpected expected) = some c := by
    change (t.find? id).filter (asExpected expected) = some c
    rw [hc, Option.filter_some, if_pos hexpected]
  have htopology : topologyChanged c (markedConnector m.now values c) = false := by
    rw [markedConnector_other hstatus]
    simp [topologyChanged]
  have hreplace : replaceConnector (m.db t) c (markedConnector m.now values)
      (markedConnector_id m.now values) = .ok { m.db t with
        connectors := t.update (·.id = c.id) (markedConnector m.now values)
          (markedConnector_id m.now values) } := by
    unfold replaceConnector
    rw [htopology, marked_accepted hplaced hc hvalues hstatus]
    rfl
  refine ⟨t.update (·.id = c.id) (markedConnector m.now values)
    (markedConnector_id m.now values), ?_, ?_⟩
  · change ((stored (m.db t) (markConnectorIdentity (m.db t) id expected values)).1,
      (stored (m.db t) (markConnectorIdentity (m.db t) id expected values)).2.connectors) = _
    have hmark : markConnectorIdentity (m.db t) id expected values = .ok ({ m.db t with
        connectors := t.update (·.id = c.id) (markedConnector m.now values)
          (markedConnector_id m.now values) }, some (markedConnector m.now values c)) := by
      unfold markConnectorIdentity
      rw [hfilter]
      dsimp only
      exact congrArg (Except.map _) hreplace
    rw [hmark]
    rfl
  · have hfind := @find?_replaced (m.db t) c (markedConnector m.now values)
      (markedConnector_id m.now values) (hid ▸ hc) id
    exact hfind.trans (if_pos hid.symm)

end GatewayControl.Identity
