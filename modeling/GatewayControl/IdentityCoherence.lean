import GatewayControl.IdentitySafety

/-!
What the contract of the identities means for single statements: none fails on the
coherence constraint, a recorded verification keeps the binding, and one computed for
another revision or token changes nothing.
-/

namespace GatewayControl.Identity

open Database (Time IdentityStatus)
open Cloudflare (Failure)
open Programs

/-! ### Single statements -/

/-- The statement does not fail on the coherence constraint. -/
def Passes (db : Db) : Op → Prop
  | .createConnector values => ∀ newId, createConnector db newId values ≠ .error .coherence
  | .updateConnector id values => updateConnector db id values ≠ .error .coherence
  | .markConnectorIdentity id expected values =>
      markConnectorIdentity db id expected values ≠ .error .coherence
  | _ => True

/-- A recorded verification leaves a connector with its account and its tunnel, and one that
finds it bound elsewhere is a mismatch. An edit moves a connector only with its token. -/
def KeepsBinding (db : Db) : Op → Prop
  | .markConnectorIdentity id expected values => ∀ r db' x,
      db.connectors.find? id = some r → markConnectorIdentity db id expected values = .ok (db', x) →
        ∃ r', db'.connectors.find? id = some r' ∧
          (r.accountId.isSome → r'.accountId = r.accountId) ∧
          (r.tunnelId.isSome → r'.tunnelId = r.tunnelId) ∧
          (values.status = .verified → bound r values → asExpected expected r →
            r'.identityStatus = .mismatch)
  | .updateConnector _ values => values.identity.isSome → values.encryptedToken.isSome
  | _ => True

/-- An outcome is of the token and the revision that were read, and where the connector has
another token or revision, recording it changes nothing. -/
def Fenced (keys : Keys) (db : Db) : Op → Prop
  | .markConnectorIdentity id expected values =>
      FromToken keys expected values ∧ WasRead id expected db ∧
        ∀ r, db.connectors.find? id = some r →
          r.desiredRevision ≠ expected.desiredRevision ∨
              r.encryptedToken ≠ expected.encryptedToken →
            markConnectorIdentity db id expected values = .ok (db, none)
  | _ => True

lemma markedConnector_id (now : Time) (values : IdentityValues) (c : ConnectorRow) :
    (markedConnector now values c).id = c.id := rfl

/-- A recorded verification replaces the connector it expects, or changes nothing. -/
lemma markConnectorIdentity_ok {db db' : Db} {id : String} {expected : Expectation}
    {values : IdentityValues} {r : ConnectorRow} {x : Option ConnectorRow}
    (hr : db.connectors.find? id = some r)
    (h : markConnectorIdentity db id expected values = .ok (db', x)) :
    (asExpected expected r = false ∧ db' = db ∧ x = none) ∨
      (asExpected expected r ∧ x = some (markedConnector db.now values r) ∧
        db'.connectors.find? id = some (markedConnector db.now values r)) := by
  unfold markConnectorIdentity at h
  rw [hr, Option.filter_some] at h
  by_cases hexpected : asExpected expected r
  · rw [if_pos hexpected] at h
    dsimp only at h
    rcases hrep : replaceConnector db r (markedConnector db.now values) fun _ => rfl with e | db₁
    · rw [hrep] at h
      cases h
    · rw [hrep] at h
      cases h
      obtain rfl := replaceConnector_ok hrep
      refine .inr ⟨hexpected, rfl, ?_⟩
      change (db.connectors.update (·.id = r.id) (markedConnector db.now values)
        (markedConnector_id _ _)).find? id = _
      rw [find?_replaced (markedConnector_id _ _) (Table.key_find? hr ▸ hr),
        if_pos (Table.key_find? hr).symm]
  · rw [if_neg hexpected] at h
    cases h
    exact .inl ⟨by simpa using hexpected, rfl, rfl⟩

/-- What a recorded verification leaves of the binding, whatever its status. -/
lemma markedConnector_binding (now : Time) (values : IdentityValues) (c : ConnectorRow) :
    (c.accountId.isSome → (markedConnector now values c).accountId = c.accountId) ∧
      (c.tunnelId.isSome → (markedConnector now values c).tunnelId = c.tunnelId) := by
  have hor : ∀ {a b : Option String}, a.isSome → a.or b = a := by
    intro a b ha
    obtain ⟨x, rfl⟩ := Option.isSome_iff_exists.mp ha
    rfl
  by_cases hv : values.status = .verified
  · by_cases hb : bound c values
    · rw [markedConnector_elsewhere hv hb]
      exact ⟨fun _ => rfl, fun _ => rfl⟩
    · rw [markedConnector_binds hv (by simpa using hb)]
      exact ⟨hor, hor⟩
  · rw [markedConnector_other hv]
    exact ⟨fun _ => rfl, fun _ => rfl⟩

lemma markConnectorIdentity_binding (db : Db) (id : String) (expected : Expectation)
    (values : IdentityValues) : KeepsBinding db (.markConnectorIdentity id expected values) := by
  intro r db' x hr h
  obtain ⟨hexpected, rfl, -⟩ | ⟨hexpected, -, hfind⟩ := markConnectorIdentity_ok hr h
  · exact ⟨r, hr, fun _ => rfl, fun _ => rfl, fun _ _ h => absurd h (by simp [hexpected])⟩
  · refine ⟨_, hfind, (markedConnector_binding _ _ _).1, (markedConnector_binding _ _ _).2,
      fun hv hb _ => ?_⟩
    rw [markedConnector_elsewhere hv hb]

lemma markConnectorIdentity_stale {db : Db} {id : String} {expected : Expectation}
    {values : IdentityValues} {r : ConnectorRow} (hr : db.connectors.find? id = some r)
    (h : r.desiredRevision ≠ expected.desiredRevision ∨
      r.encryptedToken ≠ expected.encryptedToken) :
    markConnectorIdentity db id expected values = .ok (db, none) := by
  have hexpected : asExpected expected r = false := by
    unfold asExpected
    rw [Bool.and_eq_false_iff]
    simpa using h
  unfold markConnectorIdentity
  rw [hr, Option.filter_some, if_neg (by simp [hexpected])]

/-! ### Runs -/

variable {keys : Keys}

lemma allowed_passes {db : Db} {o : Op} (h : allowed keys db o) (hinv : AllCoherent db) :
    Passes db o := by
  cases o with
  | markConnectorIdentity id expected values => exact (markConnectorIdentity_spec h.1.1 hinv).1
  | createConnector values => exact fun newId => (createConnector_spec h hinv).1
  | updateConnector id values => exact (updateConnector_spec hinv).1
  | _ => trivial

lemma allowed_keepsBinding {db : Db} {o : Op} (h : allowed keys db o) : KeepsBinding db o := by
  cases o with
  | markConnectorIdentity id expected values =>
    exact markConnectorIdentity_binding db id expected values
  | updateConnector id values =>
    exact h
  | _ => trivial

lemma allowed_fenced {db : Db} {o : Op} (h : allowed keys db o) : Fenced keys db o := by
  cases o with
  | markConnectorIdentity id expected values =>
    exact ⟨h.1, h.2, fun r hr => markConnectorIdentity_stale hr⟩
  | _ => trivial

/-- **Connector identities are coherent and fenced.** In every run of requests and
reconciliations, whatever their verifications come to, every connector row is coherent, and
whatever statement comes next does not fail on coherence, moves no binding, and changes
nothing where its outcome is of another revision or token. -/
theorem identity_coherent {c : Config Plane Db Nat (Except Failure Unit)}
    (h : Reach (system keys) Initial c) :
    (∀ id r, c.state.connectors.find? id = some r → coherent r) ∧
      ∀ i o k, c.thread i = .op o k →
        Passes c.state o ∧ KeepsBinding c.state o ∧ Fenced keys c.state o := by
  have hsound := reach_sound_identity h
  refine ⟨hsound.1, fun i o k hop => ?_⟩
  have hallowed : allowed keys c.state o := hsound.allowed (lawful keys) hop
  exact ⟨allowed_passes hallowed hsound.1, allowed_keepsBinding hallowed, allowed_fenced hallowed⟩

/-! ### A small installation -/

/-- Secrets in the clear, and one token that can be read. -/
def sampleKeys : Keys where
  decrypt := some
  parse token := if token = "token" then
      some { accountIdentifier := "0123abcd", tunnelId := "4f5e", endpoint := none,
             secretMaterial := "secret" }
    else none

def sampleChoice : Choice :=
  { newId := "connector", encrypted := "token", metadata := .error (.other "offline"),
    tunnelToken := .error (.other "offline") }

def samplePost : Request :=
  .post { name := "edge", token := "token", enabled := false, agentId := "agent",
          accountId := none, tunnelId := none }

def sampleStart : Config Plane Db Nat (Except Failure Unit) :=
  { state := { readyAgents := ["agent"] }, thread := fun _ => .pure (.ok ()) }

/-- Thread `i` takes a request and runs its first calls. -/
def served (i : Nat) (q : Request) (calls : Nat)
    (c : Config Plane Db Nat (Except Failure Unit)) : Config Plane Db Nat (Except Failure Unit) :=
  let ran := Prog.runFor (F := Plane) (fun db o => Op.run sampleChoice db o) calls
    (q.handler sampleKeys).run c.state
  ⟨ran.2, Function.update c.thread i ran.1⟩

lemma reach_served {i calls : Nat} {q : Request} {c : Config Plane Db Nat (Except Failure Unit)}
    (h : Reach (system sampleKeys) Initial c) (hidle : c.thread i = .pure (.ok ())) :
    Reach (system sampleKeys) Initial (served i q calls c) := by
  have hstart := h.step (.start (S := system sampleKeys) i hidle ⟨rfl, q, rfl⟩)
  have hanswers : ∀ (db : Db) (o : Op),
      Exec db o (Op.run sampleChoice db o).1 (Op.run sampleChoice db o).2 :=
    fun db o => ⟨sampleChoice, .inl ⟨rfl, rfl⟩⟩
  have hrun := reach_runFor (S := system sampleKeys) (i := i) hanswers calls hstart
  simpa [served] using hrun

/-- A connector has been created and its verification is about to record what it has
parsed. -/
def sampleVerifying : Config Plane Db Nat (Except Failure Unit) :=
  served 1 (.verify "connector") 1 (served 0 samplePost 3 sampleStart)

theorem identity_coherent_sample :
    ∃ r o k, sampleVerifying.state.connectors.find? "connector" = some r ∧ coherent r ∧
      sampleVerifying.thread 1 = .op o k ∧ Passes sampleVerifying.state o ∧
      KeepsBinding sampleVerifying.state o ∧ Fenced sampleKeys sampleVerifying.state o := by
  have hstart : Reach (system sampleKeys) Initial sampleStart := .init ⟨rfl, fun _ => rfl⟩
  have hreach : Reach (system sampleKeys) Initial sampleVerifying :=
    reach_served (reach_served hstart rfl) rfl
  have hrow : (sampleVerifying.state.connectors.find? "connector").isSome := by decide
  have hnext : (sampleVerifying.thread 1).next.isSome := by decide
  obtain ⟨r, hr⟩ := Option.isSome_iff_exists.mp hrow
  obtain ⟨o, ho⟩ := Option.isSome_iff_exists.mp hnext
  obtain ⟨k, hk⟩ := Prog.next_eq_some ho
  obtain ⟨hcoherent, hcalls⟩ := identity_coherent hreach
  exact ⟨r, o, k, hr, hcoherent _ r hr, hk, hcalls 1 o k hk⟩

end GatewayControl.Identity
