import GatewayControl.IdentityPrograms

/-!
Connector identities stay coherent, verified connectors stay bound, and an outcome for a
token that has been replaced changes nothing: in every run of requests and reconciliations.
-/

namespace GatewayControl.Identity

open Database (Time IdentityStatus)
open Cloudflare (Failure)
open Programs

/-! ### The system -/

inductive Request where
  | post (body : CreateBody)
  | bootstrap (connectorName connectorToken accountId tunnelId agentId : String)
  | patch (id : String) (body : PatchBody)
  | verify (id : String)
  | reconcile

variable (keys : Keys)

def Request.handler : Request → Handler Unit
  | post body => do
      let _ ← postConnector keys body
  | bootstrap connectorName connectorToken accountId tunnelId agentId => do
      let _ ← bootstrapConnector keys connectorName connectorToken accountId tunnelId agentId
  | patch id body => do
      let _ ← patchConnector keys id body
  | verify id => do
      let _ ← verifyStoredConnector keys id
  | reconcile => reconcileConnectorIdentities keys

abbrev Task := Prog Plane (Except Failure Unit)

/-- A call is answered, or its answer is lost, with its effect or without. -/
def Exec (db : Db) (o : Op) (r : Except Failure o.Answer) (db' : Db) : Prop :=
  ∃ ch, (r = (o.run ch db).1 ∧ db' = (o.run ch db).2) ∨
    ∃ e, r = .error e ∧ (db' = db ∨ db' = (o.run ch db).2)

/-- What else changes a connector row: telemetry and results touch its time. -/
def Touches (db db' : Db) : Prop :=
  ∃ touched : String → Time, ∀ id, db'.connectors.find? id =
    (db.connectors.find? id).map fun c => { c with updatedAt := touched id }

/-- Any number of requests; accounts, agents and domain accesses change as they like. -/
def system : System Plane Db Nat (Except Failure Unit) Unit where
  exec := fun _ => Exec
  start := fun _ _ db p db' => db' = db ∧ ∃ q : Request, p = (q.handler keys).run
  environment := fun _ => Touches
  crash := fun _ db db' p => db' = db ∧ p = .pure (.ok ())

def Initial (c : Config Plane Db Nat (Except Failure Unit)) : Prop :=
  c.state.connectors = ∅ ∧ ∀ i, c.thread i = .pure (.ok ())

/-! ### What the programs ask for -/

/-- The values are complete, and an identity among them is the token's. -/
def FromToken (expected : Expectation) (values : IdentityValues) : Prop :=
  values.complete ∧ (values.tunnelId = none ∨ ∃ token parsed,
    keys.decrypt expected.encryptedToken = some token ∧ keys.parse token = some parsed ∧
      values.accountIdentifier = some parsed.accountIdentifier ∧
      values.tunnelId = some parsed.tunnelId)

def Op.reads : Op → Bool
  | .markConnectorIdentity _ _ _ | .createConnector _ | .updateConnector _ _ => false
  | _ => true

/-- What a verification asks. -/
def Op.asks : Op → Bool
  | .getCloudflareAccountSecretByIdentifier _ | .getTunnelMetadata _ _ _ _
  | .getTunnelToken _ _ _ _ => true
  | _ => false

lemma reads_of_asks {o : Op} (h : o.asks) : o.reads := by
  cases o <;> first | rfl | cases h

/-- The connector was there with this revision and token, and tokens do not change without
the revision. -/
def WasRead (id : String) (expected : Expectation) (db : Db) : Prop :=
  ∃ c, db.connectors.find? id = some c ∧ expected.desiredRevision ≤ c.desiredRevision ∧
    (c.desiredRevision = expected.desiredRevision → c.encryptedToken = expected.encryptedToken)

def allowed (db : Db) : Op → Prop
  | .markConnectorIdentity id expected values => FromToken keys expected values ∧
      WasRead id expected db
  | .createConnector values => values.complete
  | .updateConnector _ values => values.identity.isSome → values.encryptedToken.isSome
  | _ => True

/-- Connectors stay, their revisions do not fall, and a token goes with its revision. -/
def Onward (db db' : Db) : Prop :=
  ∀ id c, db.connectors.find? id = some c → ∃ c', db'.connectors.find? id = some c' ∧
    c.desiredRevision ≤ c'.desiredRevision ∧
    (c'.desiredRevision = c.desiredRevision → c'.encryptedToken = c.encryptedToken)

def AllCoherent (db : Db) : Prop := ∀ id c, db.connectors.find? id = some c → coherent c

def contract : Contract Plane Db Nat where
  exec := fun _ => Exec
  inv := AllCoherent
  rely := fun _ => Onward
  allowed := fun _ => allowed keys

lemma Onward.refl (db : Db) : Onward db db := fun _ c hc => ⟨c, hc, le_rfl, fun _ => rfl⟩

lemma touches_onward {db db' : Db} (h : Touches db db') : Onward db db' := by
  obtain ⟨touched, h⟩ := h
  intro id c hc
  exact ⟨{ c with updatedAt := touched id }, by rw [h, hc]; rfl, le_rfl, fun _ => rfl⟩

lemma touches_coherent {db db' : Db} (h : Touches db db') (hinv : AllCoherent db) :
    AllCoherent db' := by
  obtain ⟨touched, h⟩ := h
  intro id c hc
  rw [h, Option.map_eq_some_iff] at hc
  obtain ⟨r, hr, rfl⟩ := hc
  exact hinv id r hr

lemma Onward.trans {a b c : Db} (hab : Onward a b) (hbc : Onward b c) : Onward a c := by
  intro id r hr
  obtain ⟨r', hr', hle, htoken⟩ := hab id r hr
  obtain ⟨r'', hr'', hle', htoken'⟩ := hbc id r' hr'
  refine ⟨r'', hr'', hle.trans hle', fun heq => ?_⟩
  have hmid : r'.desiredRevision = r.desiredRevision := Nat.le_antisymm (heq ▸ hle') hle
  exact (htoken' (heq.trans hmid.symm)).trans (htoken hmid)

lemma lawful : (contract keys).Lawful :=
  ⟨fun _ => Onward.refl, fun _ _ _ _ => Onward.trans⟩

/-! ### What the statements do -/

lemma refusal_coherent {db : Db} {c : ConnectorRow} (h : coherent c) :
    refusal db c ≠ some .coherence := by
  unfold refusal
  rw [coherent_passes h, if_neg (by simp)]
  split_ifs <;> simp

lemma insertConnector_ok {db db' : Db} {c : ConnectorRow} (h : insertConnector db c = .ok db') :
    ∃ connectors, db.connectors.insert? c = some connectors ∧
      db' = { db with connectors } := by
  unfold insertConnector at h
  rcases hr : refusal db c with _ | r
  · rw [hr] at h
    rcases hins : db.connectors.insert? c with _ | connectors
    · rw [hins] at h
      cases h
    · rw [hins] at h
      exact ⟨connectors, rfl, (Except.ok.inj h).symm⟩
  · rw [hr] at h
    cases h

lemma insertConnector_coherent {db : Db} {c : ConnectorRow} (h : coherent c) :
    insertConnector db c ≠ .error .coherence := by
  intro hbad
  unfold insertConnector at hbad
  rcases hr : refusal db c with _ | r
  · rw [hr] at hbad
    rcases hins : db.connectors.insert? c with _ | connectors <;> rw [hins] at hbad <;> cases hbad
  · rw [hr] at hbad
    obtain rfl := Except.error.inj hbad
    exact refusal_coherent h hr

lemma replaceConnector_ok {db db' : Db} {old : ConnectorRow} {f : ConnectorRow → ConnectorRow}
    {hf : ∀ c, (f c).id = c.id} (h : replaceConnector db old f hf = .ok db') :
    db' = { db with connectors := db.connectors.update (·.id = old.id) f hf } := by
  unfold replaceConnector at h
  split at h
  · cases h
  · split at h
    · cases h
    · exact (Except.ok.inj h).symm

lemma replaceConnector_coherent {db : Db} {old : ConnectorRow}
    {f : ConnectorRow → ConnectorRow} {hf : ∀ c, (f c).id = c.id} (h : coherent (f old)) :
    replaceConnector db old f hf ≠ .error .coherence := by
  intro hbad
  unfold replaceConnector at hbad
  split at hbad
  · cases hbad
  · split at hbad
    · next r hr =>
      obtain rfl := Except.error.inj hbad
      exact refusal_coherent h hr
    · cases hbad

lemma find?_replaced {db : Db} {old : ConnectorRow} {f : ConnectorRow → ConnectorRow}
    (hf : ∀ c, (f c).id = c.id) (hold : db.connectors.find? old.id = some old) (id : String) :
    (db.connectors.update (·.id = old.id) f hf).find? id =
      if id = old.id then some (f old) else db.connectors.find? id := by
  rw [Table.find?_update]
  by_cases hid : id = old.id
  · subst hid
    simp [hold]
  · rw [if_neg hid]
    rcases hc : db.connectors.find? id with _ | c
    · rfl
    · simp [Table.key_find? hc, hid]

/-- A connector is replaced by one with a new revision, or with the same token. -/
lemma replaced_spec {db db' : Db} {old : ConnectorRow} {f : ConnectorRow → ConnectorRow}
    {hf : ∀ c, (f c).id = c.id} (h : replaceConnector db old f hf = .ok db')
    (hold : db.connectors.find? old.id = some old) (hinv : AllCoherent db)
    (hcoherent : coherent (f old)) (hrev : old.desiredRevision ≤ (f old).desiredRevision)
    (htoken : (f old).desiredRevision = old.desiredRevision →
      (f old).encryptedToken = old.encryptedToken) : AllCoherent db' ∧ Onward db db' := by
  obtain rfl := replaceConnector_ok h
  constructor
  · intro id c hc
    change (db.connectors.update (·.id = old.id) f hf).find? id = some c at hc
    rw [find?_replaced hf hold] at hc
    by_cases hid : id = old.id
    · rw [if_pos hid] at hc
      obtain rfl := Option.some.inj hc
      exact hcoherent
    · rw [if_neg hid] at hc
      exact hinv id c hc
  · intro id c hc
    change ∃ c', (db.connectors.update (·.id = old.id) f hf).find? id = some c' ∧ _
    rw [find?_replaced hf hold]
    by_cases hid : id = old.id
    · subst hid
      rw [hold] at hc
      obtain rfl := Option.some.inj hc
      exact ⟨f old, if_pos rfl, hrev, htoken⟩
    · exact ⟨c, by rw [if_neg hid]; exact hc, le_rfl, fun _ => rfl⟩

lemma createConnector_spec {db : Db} {id : String} {values : ConnectorValues}
    (hvalues : values.complete) (hinv : AllCoherent db) :
    createConnector db id values ≠ .error .coherence ∧
    ∀ db' x, createConnector db id values = .ok (db', x) → AllCoherent db' ∧ Onward db db' := by
  have hrow := createdConnector_coherent db.now id hvalues
  unfold createConnector
  split
  · refine ⟨by simp, ?_⟩
    rintro db' x ⟨⟩
    exact ⟨hinv, .refl db⟩
  · dsimp only
    rcases hins : insertConnector db (createdConnector db.now id values) with r | db₁
    · refine ⟨?_, by rintro _ _ ⟨⟩⟩
      rintro ⟨⟩
      exact insertConnector_coherent hrow hins
    · refine ⟨by rintro ⟨⟩, ?_⟩
      rintro db' x ⟨⟩
      obtain ⟨connectors, hinsert, rfl⟩ := insertConnector_ok hins
      constructor
      · intro k c hc
        change connectors.find? k = some c at hc
        rw [Table.find?_insert hinsert] at hc
        split at hc
        · obtain rfl := Option.some.inj hc
          exact hrow
        · exact hinv k c hc
      · intro k c hc
        refine ⟨c, ?_, le_rfl, fun _ => rfl⟩
        change connectors.find? k = some c
        rw [Table.find?_insert hinsert, if_neg]
        · exact hc
        · intro hk
          rw [hk, Table.find?_new hinsert] at hc
          cases hc

lemma updateConnector_spec {db : Db} {id : String} {values : ConnectorChange}
    (hinv : AllCoherent db) : updateConnector db id values ≠ .error .coherence ∧
    ∀ db' x, updateConnector db id values = .ok (db', x) → AllCoherent db' ∧ Onward db db' := by
  unfold updateConnector
  rcases hcur : db.connectors.find? id with _ | current
  · refine ⟨by simp, ?_⟩
    rintro db' x ⟨⟩
    exact ⟨hinv, .refl db⟩
  dsimp only
  have hrow := changeConnector_coherent db.now values (hinv id current hcur)
  split
  · refine ⟨by simp, ?_⟩
    rintro db' x ⟨⟩
    exact ⟨hinv, .refl db⟩
  · rcases hrep : replaceConnector db current (changeConnector db.now values)
      (changeConnector_id db.now values) with r | db₁
    · refine ⟨?_, by rintro _ _ ⟨⟩⟩
      rintro ⟨⟩
      exact replaceConnector_coherent hrow hrep
    · refine ⟨by rintro ⟨⟩, ?_⟩
      rintro db' x ⟨⟩
      have hrev : (changeConnector db.now values current).desiredRevision =
          current.desiredRevision + 1 := by
        unfold changeConnector
        split <;> rfl
      refine replaced_spec hrep (Table.key_find? hcur ▸ hcur) hinv hrow (by omega) (by omega)

lemma markConnectorIdentity_spec {db : Db} {id : String} {expected : Expectation}
    {values : IdentityValues} (hvalues : values.complete) (hinv : AllCoherent db) :
    markConnectorIdentity db id expected values ≠ .error .coherence ∧
    ∀ db' x, markConnectorIdentity db id expected values = .ok (db', x) →
      AllCoherent db' ∧ Onward db db' := by
  unfold markConnectorIdentity
  rcases hcur : (db.connectors.find? id).filter (asExpected expected) with _ | c
  · refine ⟨by simp, ?_⟩
    rintro db' x ⟨⟩
    exact ⟨hinv, .refl db⟩
  dsimp only
  have hfind := (Option.filter_eq_some_iff.mp hcur).1
  have hrow := markedConnector_coherent db.now c hvalues
  rcases hrep : replaceConnector db c (markedConnector db.now values) fun _ => rfl with r | db₁
  · refine ⟨?_, by rintro _ _ ⟨⟩⟩
    rintro ⟨⟩
    exact replaceConnector_coherent hrow hrep
  · refine ⟨by rintro ⟨⟩, ?_⟩
    rintro db' x ⟨⟩
    exact replaced_spec hrep (Table.key_find? hfind ▸ hfind) hinv hrow le_rfl fun _ => rfl

lemma run_spec {db : Db} {o : Op} (hallowed : allowed keys db o) (hinv : AllCoherent db)
    (ch : Choice) : AllCoherent (o.run ch db).2 ∧ Onward db (o.run ch db).2 := by
  have hstored : ∀ {α : Type} (x : Except Refusal (Db × α)),
      (∀ db' a, x = .ok (db', a) → AllCoherent db' ∧ Onward db db') →
        AllCoherent (stored db x).2 ∧ Onward db (stored db x).2 := by
    intro α x hx
    rcases x with r | ⟨db', a⟩
    · exact ⟨hinv, .refl db⟩
    · exact hx db' a rfl
  cases o with
  | markConnectorIdentity id expected values =>
    exact hstored _ (markConnectorIdentity_spec hallowed.1.1 hinv).2
  | createConnector values => exact hstored _ (createConnector_spec hallowed hinv).2
  | updateConnector id values => exact hstored _ (updateConnector_spec hinv).2
  | _ => exact ⟨hinv, .refl db⟩

lemma exec_spec {db db' : Db} {o : Op} {r : Except Failure o.Answer} (h : Exec db o r db')
    (hallowed : allowed keys db o) (hinv : AllCoherent db) :
    AllCoherent db' ∧ Onward db db' := by
  obtain ⟨ch, ⟨-, rfl⟩ | ⟨e, -, rfl | rfl⟩⟩ := h
  · exact run_spec keys hallowed hinv ch
  · exact ⟨hinv, .refl db'⟩
  · exact run_spec keys hallowed hinv ch

/-! ### The programs -/

variable {keys} {i : Nat}

lemma wasRead_onward {id : String} {expected : Expectation} {db db' : Db}
    (h : WasRead id expected db) (hon : Onward db db') : WasRead id expected db' := by
  obtain ⟨c, hc, hle, htoken⟩ := h
  obtain ⟨c', hc', hle', htoken'⟩ := hon id c hc
  refine ⟨c', hc', hle.trans hle', fun heq => ?_⟩
  have hmid : c.desiredRevision = expected.desiredRevision :=
    Nat.le_antisymm (heq ▸ hle') hle
  exact (htoken' (heq.trans hmid.symm)).trans (htoken hmid)

lemma stable_wasRead (id : String) (expected : Expectation) :
    Stable (contract keys) i (WasRead id expected) :=
  fun _ _ _ _ hon h => wasRead_onward h hon

/-- A program all of whose calls are allowed wherever `P` holds. -/
lemma keeps_only {α : Type} {φ : Op → Prop} {P : Db → Prop} {p : Prog Plane α}
    (hp : p.Only φ) (hP : ∀ db db', P db → Onward db db' → P db')
    (hok : ∀ db o, φ o → P db → allowed keys db o) :
    Triple (contract keys) i P p fun _ => P := by
  refine triple_only hp (fun s t _ _ hon h => hP s t h hon) (fun s o ho _ h => hok s o ho h) ?_
  intro s o r t ho hinv hs hexec
  obtain ⟨hinv', hon⟩ := exec_spec keys hexec (hok s o ho hs) hinv
  exact ⟨hinv', fun _ _ => hon, hP s t hs hon⟩

lemma only_call {φ : Op → Prop} {o : Op} (ho : φ o) : (call o).run.Only φ :=
  ⟨ho, fun _ => trivial⟩

/-- Every value a handler returns satisfies `ψ`. -/
def Gives {α : Type} (p : Handler α) (ψ : α → Prop) : Prop :=
  p.run.Ends fun r => ∀ a, r = .ok a → ψ a

lemma gives_return {α : Type} {ψ : α → Prop} {a : α} (h : ψ a) :
    Gives (pure a : Handler α) ψ := by
  rintro _ ⟨⟩
  exact h

lemma gives_throw {α : Type} {ψ : α → Prop} (e : Failure) :
    Gives (throw e : Handler α) ψ := by
  rintro _ ⟨⟩

lemma gives_bind {α β : Type} {ψ : β → Prop} {p : Handler α} {f : α → Handler β}
    (hf : ∀ a, Gives (f a) ψ) : Gives (p >>= f) ψ := by
  refine Prog.Ends.bind (Prog.ends_true p.run) fun r _ => ?_
  cases r with
  | ok a => exact hf a
  | error e => rintro _ ⟨⟩

lemma only_bind_gives {φ : Op → Prop} {α β : Type} {ψ : α → Prop} {p : Handler α}
    {f : α → Handler β} (hp : p.run.Only φ) (hgives : Gives p ψ)
    (hf : ∀ a, ψ a → (f a).run.Only φ) : (p >>= f).run.Only φ := by
  have hprog : ∀ q : Prog Plane (Except Failure α), q.Only φ →
      (q.Ends fun r => ∀ a, r = .ok a → ψ a) →
        (q >>= ExceptT.bindCont (m := Prog Plane) f).Only φ := by
    intro q
    induction q with
    | pure r =>
      intro _ hr
      cases r with
      | ok a => exact hf a (hr a rfl)
      | error e => trivial
    | op o k ih => exact fun hq hr => ⟨hq.1, fun r => ih r (hq.2 r) (hr r)⟩
  exact hprog p.run hp hgives

/-- A handler whose error is looked at. -/
lemma only_attempt {φ : Op → Prop} {α β : Type} {ψ : α → Prop} {p : Handler α}
    {f : Except Failure α → Handler β} (hp : p.run.Only φ) (hgives : Gives p ψ)
    (hok : ∀ a, ψ a → (f (.ok a)).run.Only φ) (herr : ∀ e, (f (.error e)).run.Only φ) :
    (ExceptT.lift p.run >>= f).run.Only φ := by
  refine only_bind_gives (ψ := fun r => ∀ a, r = .ok a → ψ a) (hp.bind fun _ => trivial) ?_ ?_
  · refine Prog.Ends.bind hgives fun r hr => ?_
    rintro _ ⟨⟩
    exact hr
  · intro r hr
    cases r with
    | ok a => exact hok a (hr a rfl)
    | error e => exact herr e

/-! ### Verification -/

lemma verifyAtCloudflare_only {φ : Op → Prop} (hφ : ∀ o, o.asks → φ o) (parsed : ParsedToken)
    (accountId apiToken : String) :
    (verifyAtCloudflare keys parsed accountId apiToken).run.Only φ := by
  refine only_bind (only_call (hφ _ rfl)) fun metadata => ?_
  split_ifs
  · trivial
  · trivial
  · refine only_bind (only_call (hφ _ rfl)) fun token => ?_
    split
    · trivial
    · split_ifs <;> trivial

lemma verifyParsed_only {φ : Op → Prop} (hφ : ∀ o, o.asks → φ o) (parsed : ParsedToken) :
    (verifyParsedConnectorIdentity keys parsed).run.Only φ := by
  refine only_bind (only_call (hφ _ rfl)) fun account => ?_
  rcases account with _ | account
  · trivial
  · dsimp only
    split
    · trivial
    · refine (verifyAtCloudflare_only hφ parsed _ _).bind fun r => ?_
      cases r <;> trivial

/-- A verified identity is the token's. -/
def OfToken (parsed : ParsedToken) (v : VerifiedIdentity) : Prop :=
  v.accountIdentifier = parsed.accountIdentifier ∧ v.tunnelId = parsed.tunnelId

lemma verifyAtCloudflare_gives (parsed : ParsedToken) (accountId apiToken : String) :
    Gives (verifyAtCloudflare keys parsed accountId apiToken) (OfToken parsed) := by
  refine gives_bind fun metadata => ?_
  split_ifs
  · exact gives_throw _
  · exact gives_throw _
  · refine gives_bind fun token => ?_
    split
    · exact gives_throw _
    · split_ifs
      · exact gives_throw _
      · exact gives_return ⟨rfl, rfl⟩

lemma verifyParsed_gives (parsed : ParsedToken) :
    Gives (verifyParsedConnectorIdentity keys parsed) (OfToken parsed) := by
  refine gives_bind fun account => ?_
  rcases account with _ | account
  · exact gives_throw _
  · dsimp only
    split
    · exact gives_throw _
    · refine Prog.Ends.bind (verifyAtCloudflare_gives parsed _ _) fun r hr => ?_
      cases r with
      | ok v => exact hr
      | error e => rintro _ ⟨⟩

variable (keys) in
/-- The calls of a verification, once the connector has been read. -/
def Verifies (id : String) (expected : Expectation) (o : Op) : Prop :=
  o.reads ∨ ∃ values, o = .markConnectorIdentity id expected values ∧
    FromToken keys expected values

lemma verifies_mark {id : String} {expected : Expectation} {values : IdentityValues}
    (h : FromToken keys expected values) :
    Verifies keys id expected (.markConnectorIdentity id expected values) :=
  .inr ⟨values, rfl, h⟩

lemma storedStatus_ne (e : Failure) : storedStatus e ≠ .verified := by
  unfold storedStatus
  split_ifs <;> decide

lemma failedValues_complete (parsed : ParsedToken) (e : Failure) :
    (failedValues parsed e).complete := by
  have hstatus : (storedStatus e == .verified) = false := by simpa using storedStatus_ne e
  simp [IdentityValues.complete, failedValues, parsedValues, hstatus]

lemma verifyStoredToken_only {id : String} {expected : Expectation} {token : String}
    {parsed : ParsedToken} (htoken : keys.decrypt expected.encryptedToken = some token)
    (hparsed : keys.parse token = some parsed) :
    (verifyStoredToken keys id expected parsed).run.Only (Verifies keys id expected) := by
  have hidentity : ∀ values : IdentityValues, values.complete →
      values.accountIdentifier = some parsed.accountIdentifier →
        values.tunnelId = some parsed.tunnelId → FromToken keys expected values :=
    fun _ hc ha ht => ⟨hc, .inr ⟨token, parsed, htoken, hparsed, ha, ht⟩⟩
  refine only_bind (only_call (verifies_mark (hidentity _ rfl rfl rfl))) fun marked => ?_
  rcases marked with _ | marked
  · trivial
  refine only_attempt (verifyParsed_only (fun o ho => .inl (reads_of_asks ho)) parsed)
    (verifyParsed_gives parsed) (fun v hv => ?_) fun e => ?_
  · refine only_bind (only_call (verifies_mark (hidentity _ rfl
      (congrArg some hv.1) (congrArg some hv.2)))) fun verified => ?_
    rcases verified with _ | verified
    · trivial
    · dsimp only
      split_ifs <;> trivial
  · refine only_bind (only_call (verifies_mark (hidentity _ (failedValues_complete parsed e)
      rfl rfl))) fun marked => ?_
    rcases marked with _ | marked <;> trivial

lemma verifyReadConnector_only (id : String) (d : ConnectorRow) :
    (verifyReadConnector keys id d).run.Only
      (Verifies keys id ⟨d.desiredRevision, d.encryptedToken⟩) := by
  unfold verifyReadConnector
  rcases htoken : keys.decrypt d.encryptedToken with _ | token
  · exact only_call (verifies_mark ⟨rfl, .inl rfl⟩)
  · dsimp only
    rcases hparsed : keys.parse token with _ | parsed
    · refine only_bind (only_call (verifies_mark ⟨rfl, .inl rfl⟩)) fun marked => ?_
      rcases marked with _ | marked <;> trivial
    · exact verifyStoredToken_only htoken hparsed

/-- Reading the connector, and what follows from it. -/
lemma verifyStoredConnector_triple (id : String) :
    Triple (contract keys) i (fun _ => True) (verifyStoredConnector keys id).run
      fun _ _ => True := by
  refine triple_bind (lawful keys)
    (Q := fun r db => ∀ d, r = .ok (some d) →
      WasRead id ⟨d.desiredRevision, d.encryptedToken⟩ db) ?_ fun r => ?_
  · refine triple_perform stable_true (fun r s t hs ht hon h d hd => ?_)
      (fun _ _ _ => trivial) fun s r t hinv _ hexec => ?_
    · exact wasRead_onward (h d hd) hon
    · obtain ⟨hinv', hon⟩ := exec_spec keys hexec trivial hinv
      refine ⟨hinv', fun _ _ => hon, fun d hd => ?_⟩
      obtain ⟨ch, ⟨hr, rfl⟩ | ⟨e, rfl, -⟩⟩ := hexec
      · rw [hd] at hr
        exact ⟨d, (Except.ok.inj hr).symm, le_rfl, fun _ => rfl⟩
      · cases hd
  · rcases r with e | _ | d
    · exact triple_pure (fun _ _ _ _ _ _ => by simp) fun _ _ _ => trivial
    · exact triple_pure (fun _ _ _ _ _ _ => by simp) fun _ _ _ => trivial
    · refine triple_conseq (keeps_only (verifyReadConnector_only id d)
        (P := WasRead id ⟨d.desiredRevision, d.encryptedToken⟩)
        (fun _ _ h hon => wasRead_onward h hon) ?_) (fun _ _ h => h d rfl) fun _ _ _ _ => trivial
      rintro db o (ho | ⟨values, rfl, hvalues⟩) hread
      · cases o <;> trivial
      · exact ⟨hvalues, hread⟩

lemma verifyAll_triple (cs : List ConnectorRow) :
    Triple (contract keys) i (fun _ => True) (verifyAll keys cs).run fun _ _ => True := by
  induction cs with
  | nil => exact triple_pure stable_true fun _ _ _ => trivial
  | cons c cs ih =>
    refine triple_bind (lawful keys) (Q := fun _ _ => True) ?_ fun r => ?_
    · exact triple_bind (lawful keys) (verifyStoredConnector_triple c.id) fun _ =>
        triple_pure stable_true fun _ _ _ => trivial
    · cases r with
      | ok _ => exact ih
      | error _ => exact triple_pure stable_true fun _ _ _ => trivial

/-! ### Creating and changing connectors -/

/-- The calls of a request that creates or changes a connector. -/
def Edits (o : Op) : Prop :=
  o.reads ∨ (∃ values : ConnectorValues, o = .createConnector values ∧ values.complete) ∨
    ∃ id values, o = .updateConnector id values ∧
      (values.identity.isSome → values.encryptedToken.isSome)

lemma edits_triple {α : Type} {p : Prog Plane α} (h : p.Only Edits) :
    Triple (contract keys) i (fun _ => True) p fun _ _ => True := by
  refine keeps_only h (fun _ _ _ _ => trivial) ?_
  rintro db o (ho | ⟨values, rfl, hvalues⟩ | ⟨id, values, rfl, htoken⟩) -
  · cases o <;> trivial
  · exact hvalues
  · exact htoken

lemma reads_edits {o : Op} (h : o.reads) : Edits o := .inl h

lemma creation_only {φ : Op → Prop} (hφ : ∀ o, o.reads → φ o) (token : String)
    (accountId tunnelId : Option String) :
    (connectorIdentityForCreation keys token accountId tunnelId).run.Only φ := by
  unfold connectorIdentityForCreation
  split
  · trivial
  · refine only_bind (only_call (hφ _ rfl)) fun account => ?_
    rcases account with _ | account
    · trivial
    · dsimp only
      split_ifs
      · trivial
      · exact only_attempt (verifyParsed_only (fun o ho => hφ o (reads_of_asks ho)) _)
          (verifyParsed_gives _)
          (fun _ _ => trivial) fun _ => trivial

/-- An identity with which a connector can be created. -/
def Creates (identity : CreationIdentity) : Prop :=
  ∀ name encryptedToken enabled agentId,
    (creationValues name encryptedToken enabled agentId identity).complete

lemma creationStatus_ne (e : Failure) : (creationStatus e == .verified) = false := by
  unfold creationStatus
  split_ifs <;> rfl

lemma creation_gives (token : String) (accountId tunnelId : Option String) :
    Gives (connectorIdentityForCreation keys token accountId tunnelId) Creates := by
  unfold connectorIdentityForCreation
  split
  · exact gives_throw _
  · refine gives_bind fun account => ?_
    rcases account with _ | account
    · exact gives_return fun _ _ _ _ => rfl
    · dsimp only
      split_ifs
      · exact gives_return fun _ _ _ _ => rfl
      · refine gives_bind fun r => ?_
        rcases r with e | verified
        · refine gives_return fun _ _ _ _ => ?_
          simp [creationValues, ConnectorValues.complete, creationStatus_ne]
        · exact gives_return fun _ _ _ _ => rfl

lemma edits_create {values : ConnectorValues} (h : values.complete) :
    Edits (.createConnector values) := .inr (.inl ⟨values, rfl, h⟩)

lemma postConnector_only {φ : Op → Prop} (hφ : ∀ o, o.reads → φ o)
    (hcreate : ∀ values : ConnectorValues, values.complete → φ (.createConnector values))
    (body : CreateBody) : (postConnector keys body).run.Only φ := by
  refine only_bind_gives (creation_only hφ _ _ _) (creation_gives _ _ _)
    fun identity hidentity => ?_
  refine only_bind (only_call (hφ _ rfl)) fun encrypted => ?_
  refine only_bind (only_call (hcreate _ (hidentity _ _ _ _))) fun connector => ?_
  rcases connector with _ | connector <;> trivial

lemma bootstrapConnector_only {φ : Op → Prop} (hφ : ∀ o, o.reads → φ o)
    (hcreate : ∀ values : ConnectorValues, values.complete → φ (.createConnector values))
    (name token accountId tunnelId agentId : String) :
    (bootstrapConnector keys name token accountId tunnelId agentId).run.Only φ := by
  refine only_bind_gives (creation_only hφ _ _ _) (creation_gives _ _ _)
    fun identity hidentity => ?_
  split_ifs
  · trivial
  · refine only_bind (only_call (hφ _ rfl)) fun encrypted => ?_
    refine only_bind (only_call (hcreate _ (hidentity _ _ _ _))) fun connector => ?_
    rcases connector with _ | connector <;> trivial

lemma whenGiven_only {α : Type} {token : Option String} {f : String → Handler α}
    (hf : ∀ t, (f t).run.Only Edits) : (whenGiven token f).run.Only Edits := by
  cases token with
  | none => trivial
  | some t => exact only_bind (hf t) fun _ => trivial

lemma whenGiven_gives {α : Type} {token : Option String} {f : String → Handler α} :
    Gives (whenGiven token f) fun a => a.isSome = token.isSome := by
  cases token with
  | none => exact gives_return rfl
  | some t => exact gives_bind fun a => gives_return rfl

lemma verifyConnectorToken_only (token : String) :
    (verifyConnectorToken keys token).run.Only Edits := by
  unfold verifyConnectorToken
  split
  · trivial
  · exact verifyParsed_only (fun _ ho => reads_edits (reads_of_asks ho)) _

lemma dependencyEnabled_only (id : String) (body : PatchBody) :
    (dependencyEnabled id body).run.Only Edits := by
  unfold dependencyEnabled
  split_ifs
  · exact only_call (reads_edits rfl)
  · trivial

lemma patchConnector_only (id : String) (body : PatchBody) :
    (patchConnector keys id body).run.Only Edits := by
  refine only_bind (only_call (reads_edits rfl)) fun connectors => ?_
  split
  · trivial
  refine only_bind (dependencyEnabled_only id body) fun dependent => ?_
  split_ifs
  · trivial
  refine only_bind_gives (whenGiven_only verifyConnectorToken_only) whenGiven_gives
    fun identity hidentity => ?_
  split_ifs
  · trivial
  · trivial
  refine only_bind_gives (whenGiven_only fun _ => only_call (reads_edits rfl)) whenGiven_gives
    fun encrypted hencrypted => ?_
  refine only_bind (only_call (.inr (.inr ⟨_, _, rfl, fun h => ?_⟩))) fun connector => ?_
  · rw [hencrypted, ← hidentity]
    exact h
  rcases connector with _ | connector <;> trivial

lemma handler_triple (q : Request) :
    Triple (contract keys) i (fun _ => True) (q.handler keys).run fun _ _ => True := by
  have hdrop : ∀ {α : Type} {p : Handler α},
      Triple (contract keys) i (fun _ => True) p.run (fun _ _ => True) →
        Triple (contract keys) i (fun _ => True)
          (p >>= fun _ => (pure () : Handler Unit)).run fun _ _ => True := by
    intro α p hp
    refine triple_bind (lawful keys) hp fun r => ?_
    cases r <;> exact triple_pure stable_true fun _ _ _ => trivial
  cases q with
  | post body => exact hdrop (edits_triple
      (postConnector_only (fun _ => reads_edits) (fun _ => edits_create) body))
  | bootstrap name token accountId tunnelId agentId =>
    exact hdrop (edits_triple (bootstrapConnector_only (fun _ => reads_edits)
      (fun _ => edits_create) name token accountId tunnelId agentId))
  | patch id body => exact hdrop (edits_triple (patchConnector_only id body))
  | verify id => exact hdrop (verifyStoredConnector_triple id)
  | reconcile =>
    refine triple_bind (lawful keys)
      (edits_triple (only_call (reads_edits rfl))) fun r => ?_
    cases r with
    | ok cs => exact verifyAll_triple cs
    | error e => exact triple_pure stable_true fun _ _ _ => trivial

/-! ### Runs -/

lemma keeps : Keeps (system keys) (contract keys) fun _ _ _ => True where
  lawful := lawful keys
  exec := fun _ _ _ _ _ h => h
  start := by
    rintro i a db p db' ⟨rfl, q, rfl⟩ hinv -
    exact ⟨hinv, fun _ _ => .refl db', handler_triple q db' hinv trivial⟩
  environment := fun _ _ _ h hinv => ⟨touches_coherent h hinv, fun _ => touches_onward h⟩
  crash := by
    rintro i db db' p ⟨rfl, rfl⟩ hinv
    exact ⟨hinv, fun _ _ => .refl db', fun _ _ _ => trivial⟩

lemma reach_sound_identity {c : Config Plane Db Nat (Except Failure Unit)}
    (h : Reach (system keys) Initial c) : Sound (contract keys) (fun _ _ _ => True) c := by
  refine reach_sound keeps ?_ h
  rintro c ⟨hempty, hthreads⟩
  refine ⟨?_, fun i => ?_⟩
  · intro id r hr
    rw [hempty] at hr
    cases hr
  · rw [hthreads]
    exact fun _ _ _ => trivial

end GatewayControl.Identity
