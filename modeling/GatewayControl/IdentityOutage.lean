import GatewayControl.IdentityAttempts

/-!
What a Cloudflare outage does to connectors whose identity is verified again: they lose
their standing, and nothing else makes them lose it.
-/

namespace GatewayControl.Identity

open Database (Time IdentityStatus)
open Cloudflare (Failure)
open Programs

variable {keys : Keys}

/-! ### Verifying a stored connector -/

lemma verdict_eq (m : Met) (t t' : Connectors) (parsed : ParsedToken) :
    verdict keys m t parsed = verdict keys m t' parsed := by
  refine (verifyParsed_only (fun _ h => h) parsed).outcome_eq (fun s s' o ho => ?_) t t'
  cases o with
  | getCloudflareAccountSecretByIdentifier accountIdentifier =>
    unfold Met.answer
    cases m.lookup <;> rfl
  | getTunnelMetadata apiToken federal accountIdentifier tunnelId => rfl
  | getTunnelToken apiToken federal accountIdentifier tunnelId => rfl
  | _ => cases ho

lemma verifyStoredToken_run (keys : Keys) {m : Met} {t t₁ : Connectors} {id : String} {expected : Expectation}
    {parsed : ParsedToken} {c₁ : ConnectorRow}
    (hfirst : m.answer t (.markConnectorIdentity id expected (parsedValues parsed)) =
      (.ok (some c₁), t₁)) :
    Prog.outcome (F := Plane) m.answer (verifyStoredToken keys id expected parsed).run t =
        Prog.outcome (F := Plane) m.answer
          (recordVerdict id expected parsed (verdict keys m t parsed)).run t₁ ∧
      ∃ reads, (∀ s ∈ reads, s = t₁) ∧
        Prog.states (F := Plane) m.answer (verifyStoredToken keys id expected parsed).run t =
          t₁ :: (reads ++ Prog.states (F := Plane) m.answer
            (recordVerdict id expected parsed (verdict keys m t parsed)).run t₁) := by
  have honly : (verifyParsedConnectorIdentity keys parsed).run.Only fun o => Op.reads o :=
    verifyParsed_only (fun _ => reads_of_asks) parsed
  have hreads := reads_states honly m t₁
  have hverdict : Prog.outcome (F := Plane) m.answer
      (verifyParsedConnectorIdentity keys parsed).run t₁ = (verdict keys m t parsed, t₁) :=
    Prod.ext (verdict_eq m t₁ t parsed) hreads.1
  unfold verifyStoredToken
  rw [outcome_call, states_call, hfirst]
  dsimp only
  rw [lift_bind, Prog.outcome_bind, Prog.states_bind, hverdict]
  exact ⟨rfl, _, hreads.2, rfl⟩

/-- A verification that fails passes through 'parsed', and ends with what the error means. -/
lemma stored_error {m : Met} {t : Connectors} {id : String} {c : ConnectorRow}
    {expected : Expectation} {parsed : ParsedToken} {e : Failure} (hplaced : Placed t)
    (hc : t.find? id = some c) (hexpected : asExpected expected c)
    (hv : verdict keys m t parsed = .error e) :
    ∃ t₁ t₂, Prog.outcome (F := Plane) m.answer
        (verifyStoredToken keys id expected parsed).run t = (.error (thrownAs e), t₂) ∧
      t₁ ∈ Prog.states (F := Plane) m.answer (verifyStoredToken keys id expected parsed).run t ∧
      t₂ ∈ Prog.states (F := Plane) m.answer (verifyStoredToken keys id expected parsed).run t ∧
      t₁.find? id = some (markedConnector m.now (parsedValues parsed) c) ∧
      t₂.find? id = some (markedConnector m.now (failedValues parsed e)
        (markedConnector m.now (parsedValues parsed) c)) := by
  obtain ⟨t₁, hfirst, hfind₁⟩ := answer_mark (m := m) (parsedValues parsed) hplaced hc
    hexpected rfl (by simp [parsedValues])
  have hplaced₁ : Placed t₁ := by
    have hkeep := answer_placed (m := m) hplaced
      (.markConnectorIdentity id expected (parsedValues parsed))
    rw [hfirst] at hkeep
    exact hkeep
  have hexpected₁ : asExpected expected (markedConnector m.now (parsedValues parsed) c) :=
    hexpected
  obtain ⟨t₂, hsecond, hfind₂⟩ := answer_mark (m := m) (failedValues parsed e) hplaced₁ hfind₁
    hexpected₁ (failedValues_complete parsed e) (storedStatus_ne e)
  obtain ⟨hrun, reads, -, hstates⟩ := verifyStoredToken_run keys hfirst
  have hrecord : Prog.outcome (F := Plane) m.answer
        (recordVerdict id expected parsed (.error e)).run t₁ = (.error (thrownAs e), t₂) ∧
      Prog.states (F := Plane) m.answer
        (recordVerdict id expected parsed (.error e)).run t₁ = [t₂] := by
    unfold recordVerdict
    rw [outcome_call, states_call, hsecond]
    exact ⟨rfl, rfl⟩
  rw [hv] at hrun hstates
  refine ⟨t₁, t₂, hrun.trans hrecord.1, ?_, ?_, hfind₁, hfind₂⟩
  · rw [hstates]
    exact List.mem_cons_self
  · rw [hstates, hrecord.2]
    simp

lemma answer_mark_error {m : Met} {t : Connectors} {id : String} {expected : Expectation}
    {values : IdentityValues} {e : Failure}
    (h : (m.answer t (.markConnectorIdentity id expected values)).1 = .error e) :
    fromOutside e := by
  change (stored (m.db t) (markConnectorIdentity (m.db t) id expected values)).1 = .error e at h
  rcases hmark : markConnectorIdentity (m.db t) id expected values with r | x
  · rw [hmark] at h
    obtain rfl := Except.error.inj h
    rfl
  · rw [hmark] at h
    cases h

def Available (r : Except Failure (Option ConnectorRow)) : Prop :=
  ∀ e, r = .error e → unavailable e = false

lemma available_ok (c : Option ConnectorRow) : Available (.ok c) := by
  rintro e ⟨⟩

lemma available_error {e : Failure} (h : unavailable e = false) : Available (.error e) := by
  rintro _ ⟨⟩
  exact h

lemma unavailable_outside {e : Failure} (h : fromOutside e) : unavailable e = false := by
  cases e with
  | api status message code => cases h
  | _ => rfl

/-- A mark that fails is not an outage. -/
lemma mark_available {m : Met} {t : Connectors} {id : String} {expected : Expectation}
    {values : IdentityValues} {f : Option ConnectorRow → Handler (Option ConnectorRow)}
    (hf : ∀ c t', Available (Prog.outcome (F := Plane) m.answer (f c).run t').1) :
    Available (Prog.outcome (F := Plane) m.answer
      (call (.markConnectorIdentity id expected values) >>= f).run t).1 := by
  rw [outcome_call]
  rcases h : (m.answer t (.markConnectorIdentity id expected values)).1 with e | c
  · exact available_error (unavailable_outside (answer_mark_error h))
  · exact hf c _

lemma stored_ok {m : Met} {t : Connectors} {id : String} {c : ConnectorRow}
    {expected : Expectation} {parsed : ParsedToken} {v : VerifiedIdentity} (hplaced : Placed t)
    (hc : t.find? id = some c) (hexpected : asExpected expected c)
    (hv : verdict keys m t parsed = .ok v) :
    Available (Prog.outcome (F := Plane) m.answer
      (verifyStoredToken keys id expected parsed).run t).1 := by
  obtain ⟨t₁, hfirst, -⟩ := answer_mark (m := m) (parsedValues parsed) hplaced hc
    hexpected rfl (by simp [parsedValues])
  rw [(verifyStoredToken_run keys hfirst).1, hv]
  refine mark_available fun verified t' => ?_
  rcases verified with _ | verified
  · exact available_ok none
  · dsimp only
    split_ifs
    · exact available_error (by decide)
    · exact available_ok _

lemma verify_run (keys : Keys) {t : Connectors} {id : String} {c : ConnectorRow} (m : Met)
    (hc : t.find? id = some c) :
    (Attempt.verify id).result keys m t =
        Prog.outcome (F := Plane) m.answer (verifyReadConnector keys id c).run t ∧
      (Attempt.verify id).states keys m t =
        t :: Prog.states (F := Plane) m.answer (verifyReadConnector keys id c).run t := by
  have hanswer : m.answer t (.getConnectorDeployment id) = (.ok (some c), t) :=
    congrArg (fun x => (Except.ok x, t)) hc
  unfold Attempt.result Attempt.states Attempt.handler verifyStoredConnector
  rw [outcome_call, states_call, hanswer]
  exact ⟨rfl, rfl⟩

/-- The token of a stored connector, where it can be read. -/
def readToken (keys : Keys) (t : Connectors) (id : String) :
    Option (ConnectorRow × String × ParsedToken) :=
  (t.find? id).bind fun c => (keys.decrypt c.encryptedToken).bind fun token =>
    (keys.parse token).map (c, token, ·)

lemma readToken_eq_some {t : Connectors} {id token : String} {c : ConnectorRow}
    {parsed : ParsedToken} : readToken keys t id = some (c, token, parsed) ↔
      t.find? id = some c ∧ keys.decrypt c.encryptedToken = some token ∧
        keys.parse token = some parsed := by
  simp only [readToken, Option.bind_eq_some_iff, Option.map_eq_some_iff]
  constructor
  · rintro ⟨c, hc, token, htoken, parsed, hparsed, ⟨⟩⟩
    exact ⟨hc, htoken, hparsed⟩
  · rintro ⟨hc, htoken, hparsed⟩
    exact ⟨c, hc, token, htoken, parsed, hparsed, rfl⟩

/-- Without a token that can be read nothing is asked, so nothing is unavailable. -/
lemma unread_available {t : Connectors} {id : String} (m : Met)
    (h : readToken keys t id = none) : Available ((Attempt.verify id).result keys m t).1 := by
  rcases hc : t.find? id with _ | c
  · have hanswer : m.answer t (.getConnectorDeployment id) = (.ok none, t) :=
      congrArg (fun x => (Except.ok x, t)) hc
    unfold Attempt.result Attempt.handler verifyStoredConnector
    rw [outcome_call, hanswer]
    exact available_error (by decide)
  rw [(verify_run keys m hc).1]
  unfold verifyReadConnector
  rcases htoken : keys.decrypt c.encryptedToken with _ | token
  · intro e he
    exact unavailable_outside (answer_mark_error he)
  · dsimp only
    rcases hparsed : keys.parse token with _ | parsed
    · refine mark_available fun marked t' => ?_
      rcases marked with _ | marked
      · exact available_ok none
      · exact available_error (by decide)
    · rw [readToken_eq_some.mpr ⟨hc, htoken, hparsed⟩] at h
      cases h

/-! ### Creation -/

/-- The calls of an attempt that creates a connector. -/
def Inserts (o : Op) : Prop := o.reads ∨ ∃ values, o = .createConnector values

lemma answer_inserts {m : Met} {t : Connectors} {o : Op} {id : String} {c : ConnectorRow}
    (ho : Inserts o) (hc : t.find? id = some c) : (m.answer t o).2.find? id = some c := by
  obtain ho | ⟨values, rfl⟩ := ho
  · rw [answer_reads ho]
    exact hc
  change (stored (m.db t) (createConnector (m.db t) m.choice.newId values)).2.connectors.find? id =
    some c
  unfold createConnector
  split
  · exact hc
  · dsimp only
    rcases hins : insertConnector (m.db t) (createdConnector (m.db t).now m.choice.newId values)
      with r | db'
    · exact hc
    · obtain ⟨connectors, hinsert, rfl⟩ := insertConnector_ok hins
      change connectors.find? id = some c
      rw [Table.find?_insert hinsert, if_neg]
      · exact hc
      · rintro rfl
        cases (Table.find?_new hinsert).symm.trans hc

lemma creation_keeps {a : Attempt} (ha : (a.handler keys).run.Only Inserts) {m : Met}
    {t s : Connectors} (hs : s ∈ a.states keys m t) {id : String} {c : ConnectorRow}
    (hc : t.find? id = some c) : s.find? id = some c :=
  (ha.states (P := fun s => s.find? id = some c)
    (fun _ _ ho hs => answer_inserts ho hs) hc).2 s hs

lemma create_inserts (body : CreateBody) :
    ((Attempt.create body).handler keys).run.Only Inserts :=
  only_bind (postConnector_only (fun _ => .inl) (fun values _ => .inr ⟨values, rfl⟩) body)
    fun _ => trivial

lemma bootstrap_inserts (name token accountId tunnelId agentId : String) :
    ((Attempt.bootstrap name token accountId tunnelId agentId).handler keys).run.Only Inserts :=
  only_bind (bootstrapConnector_only (fun _ => .inl) (fun values _ => .inr ⟨values, rfl⟩) name
    token accountId tunnelId agentId) fun _ => trivial

/-- What creation makes of a token whose account cannot be asked, or is not there. -/
lemma creationOf_eq {m : Met} {t : Connectors} {token : String} {parsed : ParsedToken}
    (hparsed : keys.parse token = some parsed) :
    creationOf keys m t token =
      match m.lookup, m.account parsed with
      | some e, _ => .error e
      | none, none => .ok { accountIdentifier := parsed.accountIdentifier,
                            tunnelId := parsed.tunnelId, identityStatus := .unmatched,
                            identityError := some "connector_account_unlinked" }
      | none, some account =>
        match verdict keys m t parsed with
        | .ok verified => .ok { accountId := some verified.accountId,
                                accountIdentifier := verified.accountIdentifier,
                                tunnelId := verified.tunnelId, identityStatus := .verified }
        | .error e => .ok { accountId := some account.id,
                            accountIdentifier := parsed.accountIdentifier,
                            tunnelId := parsed.tunnelId, identityStatus := creationStatus e,
                            identityError := some (verificationError e) } := by
  unfold creationOf connectorIdentityForCreation
  rw [hparsed]
  dsimp only
  rw [outcome_call]
  rcases hl : m.lookup with _ | e
  · rw [answer_account hl]
    rcases ha : m.account parsed with _ | account
    · rfl
    · dsimp only
      rw [if_neg (by simp), lift_bind, Prog.outcome_bind]
      change (Prog.outcome (F := Plane) m.answer (ExceptT.run (match verdict keys m t parsed with
        | .ok _ => _ | .error _ => _)) _).1 = _
      cases verdict keys m t parsed <;> rfl
  · rw [answer_lookup hl]

/-! ### Attempts and outages -/

lemma verdict_outage {m : Met} {parsed : ParsedToken} (h : m.outage keys parsed)
    (t : Connectors) : ∃ e, verdict keys m t parsed = .error e ∧
      verificationCode e = some "connector_identity_verification_failed" := by
  rcases hl : m.lookup with _ | e
  · obtain ⟨account, ha⟩ := outage_account h hl
    have htells := verdict_linked keys hl ha t
    rcases hv : verdict keys m t parsed with e | v
    · rw [hv] at htells
      exact ⟨e, rfl, htells.2.mpr h⟩
    · rw [hv] at htells
      exact absurd (htells.symm.trans h) Bool.false_ne_true
  · refine ⟨e, verdict_lookup hl t parsed, ?_⟩
    have he := m.outside e (.inl hl)
    cases e with
    | api status message code => cases he
    | _ => rfl

lemma unavailable_thrown {e : Failure} : unavailable (thrownAs e) ↔
    verificationCode e = some "connector_identity_verification_failed" := by
  cases e with
  | api status message code => simp [unavailable, thrownAs, verificationCode]
  | _ => simp [unavailable, thrownAs, temporarilyUnavailable, verificationCode]

lemma parsed_allows (now : Time) (parsed : ParsedToken) (c : ConnectorRow) :
    connectorIdentityAllowsRuntime (markedConnector now (parsedValues parsed) c) := rfl

/-- During an outage a stored connector may run in between and not in the end, so its
standing is lost at one of the two, whatever it was. -/
lemma outage_loses {t : Connectors} {id : String} {m : Met} (hplaced : Placed t)
    (h : Outage keys t (.verify id) m) : ¬ Kept keys t (.verify id) m := by
  obtain ⟨c, token, parsed, hc, htoken, hparsed, houtage⟩ := h
  obtain ⟨e, hv, hcode⟩ := verdict_outage houtage t
  have hexpected : asExpected ⟨c.desiredRevision, c.encryptedToken⟩ c := by simp [asExpected]
  obtain ⟨t₁, t₂, hrun, hmem₁, hmem₂, hfind₁, hfind₂⟩ := stored_error hplaced hc hexpected hv
  have hread : verifyReadConnector keys id c =
      verifyStoredToken keys id ⟨c.desiredRevision, c.encryptedToken⟩ parsed := by
    unfold verifyReadConnector
    rw [htoken]
    dsimp only
    rw [hparsed]
  obtain ⟨hresult, hstates⟩ := verify_run keys m hc
  rw [hread] at hresult hstates
  intro hkept
  have hkept := hkept.1 ⟨_, congrArg Prod.fst (hresult.trans hrun), unavailable_thrown.mpr hcode⟩
  have hbetween := (hkept t₁ (hstates ▸ List.mem_cons_of_mem t hmem₁) id _ _ hc hfind₁ rfl).1
  have hend := (hkept t₂ (hstates ▸ List.mem_cons_of_mem t hmem₂) id _ _ hc hfind₂ rfl).1
  have hpending : storedStatus e = .pending := by
    unfold storedStatus
    rw [hcode]
    decide
  have hstopped : connectorIdentityAllowsRuntime (markedConnector m.now (failedValues parsed e)
      (markedConnector m.now (parsedValues parsed) c)) = false := by
    rw [markedConnector_other (storedStatus_ne e)]
    simp [connectorIdentityAllowsRuntime, failedValues, hpending, allowsRuntime]
  rw [hstopped] at hend
  rw [parsed_allows, ← hend] at hbetween
  exact Bool.false_ne_true hbetween.symm

/-- Without an outage creation comes to the same as the verification of a stored token. -/
lemma calm_verdict {m : Met} {parsed : ParsedToken} {token : String}
    (hcalm : ¬ m.outage keys parsed) (hparsed : keys.parse token = some parsed) (t : Connectors) :
    ∃ identity, creationOf keys m t token = .ok identity ∧
      ((∃ v, verdict keys m t parsed = .ok v ∧ identity.identityStatus = .verified) ∨
        ∃ e, verdict keys m t parsed = .error e ∧ identity.identityStatus = storedStatus e ∧
          verificationCode e ≠ some "connector_identity_verification_failed") := by
  rw [creationOf_eq hparsed]
  rcases hl : m.lookup with _ | e
  · rcases ha : m.account parsed with _ | account
    · have hunmatched : storedStatus (.api 409
          "No enabled Cloudflare account matches the connector token."
          (some "connector_account_unlinked")) = .unmatched := by decide
      exact ⟨_, rfl, .inr ⟨_, verdict_unlinked hl ha t, hunmatched.symm, by decide⟩⟩
    · have htells := verdict_linked keys hl ha t
      rcases hv : verdict keys m t parsed with e | v
      · rw [hv] at htells
        have hfailed : ¬ verificationCode e = some "connector_identity_verification_failed" :=
          fun h => hcalm (htells.2.mp h)
        refine ⟨_, rfl, .inr ⟨e, rfl, ?_, hfailed⟩⟩
        simp [creationStatus, storedStatus, htells.1, hfailed]
      · exact ⟨_, rfl, .inl ⟨v, rfl, rfl⟩⟩
  · refine absurd ?_ hcalm
    rw [Met.outage, hl]
    rfl

lemma creationOf_invalid {m : Met} {t : Connectors} {token : String}
    (h : keys.parse token = none) : creationOf keys m t token = .error invalidToken := by
  unfold creationOf connectorIdentityForCreation
  rw [h]
  rfl

lemma calm_keeps {t : Connectors} {id : String} {m : Met} (hplaced : Placed t)
    (h : ¬ Outage keys t (.verify id) m) : Kept keys t (.verify id) m := by
  rcases hread : readToken keys t id with _ | ⟨c, token, parsed⟩
  · constructor
    · rintro ⟨e, he, hunavailable⟩
      exact absurd (unread_available m hread e he) (by simp [hunavailable])
    · rintro id' c token identity c' ⟨⟩ hc htoken hcreation - -
      rcases hparsed : keys.parse token with _ | parsed
      · rw [creationOf_invalid hparsed] at hcreation
        cases hcreation
      · rw [readToken_eq_some.mpr ⟨hc, htoken, hparsed⟩] at hread
        cases hread
  obtain ⟨hc, htoken, hparsed⟩ := readToken_eq_some.mp hread
  have hcalm : ¬ m.outage keys parsed := fun ho => h ⟨c, token, parsed, hc, htoken, hparsed, ho⟩
  obtain ⟨identity, hcreation, hverdict⟩ := calm_verdict hcalm hparsed t
  have hstored : (Attempt.verify id).result keys m t = Prog.outcome (F := Plane) m.answer
      (verifyStoredToken keys id ⟨c.desiredRevision, c.encryptedToken⟩ parsed).run t := by
    rw [(verify_run keys m hc).1]
    unfold verifyReadConnector
    rw [htoken]
    dsimp only
    rw [hparsed]
  have hexpected : asExpected ⟨c.desiredRevision, c.encryptedToken⟩ c := by simp [asExpected]
  rcases hverdict with ⟨v, hv, hstatus⟩ | ⟨e, hv, hstatus, hcode⟩
  · constructor
    · rintro ⟨e, he, hunavailable⟩
      rw [hstored] at he
      exact absurd (stored_ok hplaced hc hexpected hv e he) (by simp [hunavailable])
    · rintro id' c₀ token₀ identity₀ c' ⟨⟩ hc₀ htoken₀ hcreation₀ hne -
      obtain rfl := Option.some.inj (hc.symm.trans hc₀)
      obtain rfl := Option.some.inj (htoken.symm.trans htoken₀)
      obtain rfl := Except.ok.inj (hcreation.symm.trans hcreation₀)
      exact absurd hstatus hne
  · obtain ⟨t₁, t₂, hrun, -, -, -, hfind₂⟩ := stored_error hplaced hc hexpected hv
    rw [hrun] at hstored
    constructor
    · rintro ⟨e', he', hunavailable⟩
      rw [hstored] at he'
      obtain rfl := Except.error.inj he'
      exact absurd (unavailable_thrown.mp hunavailable) hcode
    · rintro id' c₀ token₀ identity₀ c' ⟨⟩ hc₀ htoken₀ hcreation₀ - hc'
      obtain rfl := Option.some.inj (hc.symm.trans hc₀)
      obtain rfl := Option.some.inj (htoken.symm.trans htoken₀)
      obtain rfl := Except.ok.inj (hcreation.symm.trans hcreation₀)
      rw [hstored] at hc'
      obtain rfl := Option.some.inj (hfind₂.symm.trans hc')
      rw [hstatus, markedConnector_other (storedStatus_ne e)]
      rfl

lemma creates_keeps {a : Attempt} (ha : (a.handler keys).run.Only Inserts)
    (hnot : ∀ id, a ≠ .verify id) (t : Connectors) (m : Met) : Kept keys t a m := by
  constructor
  · intro _ s hs id c c' hc hc'
    obtain rfl := Option.some.inj ((creation_keeps ha hs hc).symm.trans hc')
    exact fun _ => ⟨rfl, fun h => h⟩
  · rintro id _ _ _ _ rfl
    exact absurd rfl (hnot id)

/-- A pass of the reconciliation passes through the states of attempts, one after the other. -/
lemma verifyAll_attempts (m : Met) (cs : List ConnectorRow) {t : Connectors} (h : Reached keys t) :
    Reached keys (Prog.outcome (F := Plane) m.answer (verifyAll keys cs).run t).2 ∧
      ∀ s ∈ Prog.states (F := Plane) m.answer (verifyAll keys cs).run t,
        ∃ t' id, Reached keys t' ∧ s ∈ (Attempt.verify id).states keys m t' := by
  induction cs generalizing t with
  | nil => exact ⟨h, fun s hs => absurd hs List.not_mem_nil⟩
  | cons c cs ih =>
    obtain ⟨hlast, hstates⟩ := ih (h.attempt (.verify c.id) m)
    unfold verifyAll
    rw [lift_bind, Prog.outcome_bind, Prog.states_bind]
    refine ⟨hlast, fun s hs => ?_⟩
    rcases List.mem_append.mp hs with hs | hs
    · exact ⟨t, c.id, h, hs⟩
    · exact hstates s hs

/-- **Only an outage downgrades.** After any sequence of attempts and edits, an attempt keeps
every connector's standing through a temporary unavailability, and maps failures as creation
does, exactly if it does not verify a stored token again during an outage. -/
theorem outage_downgrades {t : Connectors} (h : Reached keys t) (a : Attempt) (m : Met) :
    Kept keys t a m ↔ ¬ Outage keys t a m := by
  have hplaced := reached_placed h
  cases a with
  | verify id => exact ⟨fun hkept ho => outage_loses hplaced ho hkept, calm_keeps hplaced⟩
  | create body =>
    exact iff_of_true (creates_keeps (create_inserts body) (fun _ => nofun) t m) id
  | bootstrap name token accountId tunnelId agentId =>
    exact iff_of_true
      (creates_keeps (bootstrap_inserts name token accountId tunnelId agentId) (fun _ => nofun) t m)
      id

/-! ### A small installation -/

/-- The tunnel is there, with the token. -/
def sampleUp : Met where
  accounts := .single { id := "account", accountIdentifier := "0123abcd",
                        encryptedApiToken := "api", enabled := true }
  readyAgents := ["agent"]
  choice := { newId := "connector", encrypted := "token",
              metadata := .ok { id := "4f5e", accountIdentifier := "0123abcd", deleted := false },
              tunnelToken := .ok "token" }
  outside := by
    rintro e (h | h | h) <;> cases h

def sampleDown : Met where
  accounts := sampleUp.accounts
  choice := { sampleChoice with
    metadata := .error (.client "Cloudflare could not be reached." 0 none) }
  outside := by
    rintro e (h | h | h) <;> cases h <;> rfl

/-- A connector that has been verified on creation. -/
def sampleVerified : Connectors :=
  ((Attempt.create { name := "edge", token := "token", enabled := true, agentId := "agent",
                     accountId := none, tunnelId := none }).result sampleKeys sampleUp ∅).2

lemma sampleVerified_reached : Reached sampleKeys sampleVerified := .attempt _ sampleUp .start

theorem outage_downgrades_sample :
    ¬ Kept sampleKeys sampleVerified (.verify "connector") sampleDown := by
  have hread : (readToken sampleKeys sampleVerified "connector").any
      (fun x => sampleDown.outage sampleKeys x.2.2) = true := by decide +kernel
  obtain ⟨⟨c, token, parsed⟩, hx, houtage⟩ := (Option.any_eq_true _ _).mp hread
  obtain ⟨hc, htoken, hparsed⟩ := readToken_eq_some.mp hx
  intro hkept
  exact (outage_downgrades sampleVerified_reached _ sampleDown).mp hkept
    ⟨c, token, parsed, hc, htoken, hparsed, houtage⟩

/-- A verified connector is verified again while Cloudflare cannot be reached: it is left
'pending', where creation would have left it 'parsed', and may no longer run. -/
theorem verified_downgraded :
    ∃ c c' identity, sampleVerified.find? "connector" = some c ∧
      c.identityStatus = .verified ∧ connectorIdentityAllowsRuntime c ∧
      ((Attempt.verify "connector").result sampleKeys sampleDown sampleVerified).1 =
        .error temporarilyUnavailable ∧
      ((Attempt.verify "connector").result sampleKeys sampleDown sampleVerified).2.find?
        "connector" = some c' ∧
      c'.encryptedToken = c.encryptedToken ∧ c'.identityStatus = .pending ∧
      connectorIdentityAllowsRuntime c' = false ∧
      creationOf sampleKeys sampleDown sampleVerified "token" = .ok identity ∧
      identity.identityStatus = .parsed := by
  have hbefore : (sampleVerified.find? "connector").map (fun c =>
      (c.encryptedToken, c.identityStatus, connectorIdentityAllowsRuntime c)) =
        some ("token", .verified, true) := by decide +kernel
  have hafter : (((Attempt.verify "connector").result sampleKeys sampleDown
      sampleVerified).2.find? "connector").map (fun c =>
        (c.encryptedToken, c.identityStatus, connectorIdentityAllowsRuntime c)) =
          some ("token", .pending, false) := by decide +kernel
  have hcreation : (creationOf sampleKeys sampleDown sampleVerified "token").toOption.map
      (·.identityStatus) = some .parsed := by decide +kernel
  obtain ⟨c, hc, hbefore⟩ := Option.map_eq_some_iff.mp hbefore
  obtain ⟨c', hc', hafter⟩ := Option.map_eq_some_iff.mp hafter
  obtain ⟨identity, hidentity, hstatus⟩ := Option.map_eq_some_iff.mp hcreation
  simp only [Prod.mk.injEq] at hbefore hafter
  obtain ⟨htoken, hverified, hallows⟩ := hbefore
  obtain ⟨htoken', hpending, hstopped⟩ := hafter
  have hends : (match ((Attempt.verify "connector").result sampleKeys sampleDown
      sampleVerified).1 with
        | .error e => decide (e = temporarilyUnavailable)
        | .ok _ => false) = true := by decide +kernel
  have herror : ((Attempt.verify "connector").result sampleKeys sampleDown sampleVerified).1 =
      .error temporarilyUnavailable := by
    rcases h : ((Attempt.verify "connector").result sampleKeys sampleDown sampleVerified).1
      with e | r
    · rw [h] at hends
      exact congrArg Except.error (of_decide_eq_true hends)
    · rw [h] at hends
      cases hends
  have hsame : c'.encryptedToken = c.encryptedToken := htoken'.trans htoken.symm
  have hok : creationOf sampleKeys sampleDown sampleVerified "token" = .ok identity := by
    rcases h : creationOf sampleKeys sampleDown sampleVerified "token" with e | i
    · rw [h] at hidentity
      cases hidentity
    · rw [h] at hidentity
      exact congrArg Except.ok (Option.some.inj hidentity)
  exact ⟨c, c', identity, hc, hverified, hallows, herror, hc', hsame, hpending, hstopped, hok,
    hstatus⟩

end GatewayControl.Identity
