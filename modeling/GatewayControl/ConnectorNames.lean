import GatewayControl.ConnectorRequests
import GatewayControl.ConnectorSync
import GatewayControl.ConnectorTokens

/-!
Which connectors an agent can be sent: the control plane measures names in code units, the
agent in bytes, and only the agent refuses control characters.
-/

namespace GatewayControl.ConnectorNames

open Text AgentTypes Identity Programs ConnectorSync ConnectorRequests ConnectorTokens
open Cloudflare (Failure)
open Requests (trim)

/-! ### The payload -/

/-- What a poll makes of a `cloudflare.connector.sync` command, or the error it fails with. -/
def connectorSync (decrypt : String → Option String) (db : Db) (agentId connectorId : String)
    (revision : ℕ) : Except String ConnectorSyncPayload :=
  match if connectorUUIDPattern connectorId then db.connectors.find? connectorId else none with
  | none => .error "Connector deployment is unavailable for this agent."
  | some deployment =>
    if deployment.agentId ≠ agentId ∨ deployment.desiredRevision ≠ revision then
      .error "Connector deployment is unavailable for this agent."
    else if !deployment.enabled then
      .ok { connectorId := deployment.id, revision, enabled := some false }
    else if !connectorIdentityAllowsRuntime deployment then
      .error "Connector token identity is unavailable."
    else
      match decrypt deployment.encryptedToken with
      | none => .error "Connector credentials could not be decrypted."
      | some token =>
        .ok { connectorId := deployment.id, revision, name := deployment.name,
              enabled := some true, token }

/-! ### Names -/

/-- What the agent asks of a name beyond what the control plane has checked. -/
structure Sendable (name : String) : Prop where
  size : name.utf8ByteSize ≤ 120
  printable : ∀ character ∈ name.toList, isControl character = false

/-- The only white space of the agent alone is a control character. -/
lemma isSpace_of_printable {c : Char} (hspace : isJsSpace c = false) (hcontrol : isControl c = false) :
    isSpace c = false := by
  by_contra hc
  rw [Bool.not_eq_false] at hc
  unfold isJsSpace at hspace
  rw [hc, Bool.true_and, Bool.or_eq_false_iff, bne_eq_false_iff_eq] at hspace
  unfold isControl at hcontrol
  dsimp only at hcontrol
  rw [hspace.1] at hcontrol
  cases hcontrol

lemma validConnectorName_iff {name : String} (h : Named name) :
    validConnectorName name = true ↔ Sendable name := by
  have hsize : 1 ≤ name.utf8ByteSize := by
    rw [Nat.one_le_iff_ne_zero]
    exact fun hzero => h.1 (String.utf8ByteSize_eq_zero_iff.mp hzero)
  unfold validConnectorName
  simp only [Bool.and_eq_true, decide_eq_true_eq, List.all_eq_true, Bool.not_eq_true']
  constructor
  · rintro ⟨⟨⟨-, hmost⟩, -⟩, hprintable⟩
    exact ⟨hmost, hprintable⟩
  · rintro ⟨hmost, hprintable⟩
    have htrim : trimBoth isJsSpace name.toList = name.toList := by
      have heq := congrArg String.toList h.2
      unfold trim at heq
      rwa [String.toList_ofList] at heq
    refine ⟨⟨⟨hsize, hmost⟩, ?_⟩, hprintable⟩
    unfold trimSpace
    rw [trimBoth_of_ends, String.ofList_toList]
    · intro c hc
      exact isSpace_of_printable (head_trimBoth c (htrim.symm ▸ hc))
        (hprintable c (List.mem_of_mem_head? hc))
    · intro c hc
      exact isSpace_of_printable (getLast_trimBoth c (htrim.symm ▸ hc))
        (hprintable c (List.mem_of_getLast? hc))

/-! ### Payloads -/

variable {sha256 : List UInt8 → String} {decrypt : String → Option String}

lemma decode_enabled {deployment : ConnectorRow} {token : String}
    (h : Fit (tokenKeys sha256 decrypt) deployment)
    (htoken : decrypt deployment.encryptedToken = some token) :
    let payload : ConnectorSyncPayload :=
      { connectorId := deployment.id, revision := deployment.desiredRevision,
        name := deployment.name, enabled := some true, token }
    decodeConnectorSyncPayload (some payload) = .ok payload ↔ Sendable deployment.name := by
  obtain ⟨held, parsed, hheld, hparse⟩ := h.token
  obtain rfl : held = token := Option.some.inj (hheld.symm.trans htoken)
  obtain ⟨hleast, hmost⟩ := size_of_parse hparse
  have hrevision : ¬ (deployment.desiredRevision : ℤ) < 1 := by
    have := h.revision
    omega
  have hbytes : ¬ (held.utf8ByteSize < 48 ∨ 4096 < held.utf8ByteSize) := by omega
  dsimp only
  unfold decodeConnectorSyncPayload
  rw [← validConnectorName_iff h.name]
  simp only [h.id, hrevision, hbytes, Bool.not_true, if_false, if_true, reduceCtorEq,
    Bool.false_eq_true]
  by_cases hname : validConnectorName deployment.name = true
  · simp [hname]
  · simp [hname]

lemma decode_disabled {deployment : ConnectorRow} (h : Fit (tokenKeys sha256 decrypt) deployment) :
    let payload : ConnectorSyncPayload :=
      { connectorId := deployment.id, revision := deployment.desiredRevision,
        enabled := some false }
    decodeConnectorSyncPayload (some payload) = .ok payload := by
  have hrevision : ¬ (deployment.desiredRevision : ℤ) < 1 := by
    have := h.revision
    omega
  dsimp only
  unfold decodeConnectorSyncPayload
  simp [h.id, hrevision]

/-- **An agent can decode the connectors it is sent exactly if their names are sendable.** In
every run of requests that create and change connectors, whatever payload a poll builds of a
connector is accepted by the agent if and only if the connector is disabled, or its name has at
most 120 bytes and no control characters. -/
theorem connector_decodes_iff {c : Config Plane Db Nat (Except Failure Unit)}
    (h : Reach (connectorSystem (tokenKeys sha256 decrypt)) Initial c)
    {agentId connectorId : String} {revision : ℕ} {deployment : ConnectorRow}
    (hrow : c.state.connectors.find? connectorId = some deployment)
    {payload : ConnectorSyncPayload}
    (hpayload : connectorSync decrypt c.state agentId connectorId revision = .ok payload) :
    decodeConnectorSyncPayload (some payload) = .ok payload ↔
      (deployment.enabled = true → Sendable deployment.name) := by
  have hfit := reach_fit h connectorId deployment hrow
  unfold connectorSync at hpayload
  rw [hrow] at hpayload
  split at hpayload
  · cases hpayload
  next found hfound =>
  obtain rfl : deployment = found := by
    split_ifs at hfound
    exact Option.some.inj hfound
  split_ifs at hpayload with hhere henabled hruntime
  · obtain rfl := Except.ok.inj hpayload
    have hrevision : deployment.desiredRevision = revision := by
      by_contra hne
      exact hhere (.inr hne)
    subst hrevision
    rw [Bool.not_eq_true'] at henabled
    exact ⟨fun _ hon => absurd hon (by simp [henabled]), fun _ => decode_disabled hfit⟩
  · split at hpayload
    · cases hpayload
    · next token htoken =>
      obtain rfl := Except.ok.inj hpayload
      have hrevision : deployment.desiredRevision = revision := by
        by_contra hne
        exact hhere (.inr hne)
      subst hrevision
      have hon : deployment.enabled = true := by simpa using henabled
      exact (decode_enabled hfit htoken).trans ⟨fun hname _ => hname, fun hname => hname hon⟩

/-! ### A connector that was accepted -/

/-- Secrets in the clear. -/
abbrev plainKeys : Keys := tokenKeys (fun _ => "") some

def sampleToken : String := textOf TokenDocuments.sampleToken

def sampleId : String := "0d4f4a3e-1b2c-4d5e-8f60-718293a4b5c6"

lemma sampleId_pattern : connectorUUIDPattern sampleId = true := by decide

def sampleBody (name : String) : CreateBody :=
  { name, token := sampleToken, enabled := true, agentId := "agent", accountId := none,
    tunnelId := none }

lemma jsString_sampleToken : jsString sampleToken = TokenDocuments.sampleToken := by
  have hplain : ∀ u ∈ TokenDocuments.sampleToken, u < 128 := fun u hu => mem_encode_lt hu
  unfold sampleToken textOf jsString
  rw [String.toList_ofList, List.flatMap_map]
  generalize TokenDocuments.sampleToken = units at hplain
  induction units with
  | nil => rfl
  | cons u units ih =>
    have hu : u < 128 := hplain u List.mem_cons_self
    have hall : ∀ v < 128, (Char.ofNat v).toNat = v := by decide
    have hback := hall u hu
    rw [List.flatMap_cons, ih fun v hv => hplain v (List.mem_cons_of_mem _ hv),
      codeUnits_plain (by omega), hback]
    rfl

lemma sampleToken_length : TokenDocuments.sampleToken.length = 156 := by
  unfold TokenDocuments.sampleToken
  rw [Base64.length_encode, TokenDocuments.length_sample]

lemma sampleToken_parses : ∃ parsed, plainKeys.parse sampleToken = some parsed := by
  have hlen := sampleToken_length
  obtain ⟨hnodup, hquoted, hnames⟩ :=
    TokenDocuments.names_of_members TokenDocuments.members_sample
  obtain ⟨parsed, hread⟩ := Option.isSome_iff_exists.mp
    ((TokenDocuments.tokenMembers_iff (fun _ => "") hnodup hquoted hnames).mpr
      TokenDocuments.members_sample)
  obtain ⟨bytes, text, hdoc⟩ := TokenDocuments.document_sample
  have hparse : TunnelToken.parseCloudflareTunnelToken (fun _ => "") TokenDocuments.sampleToken =
      some parsed :=
    TokenDocuments.parse_eq_some.mpr ⟨by rw [hlen]; decide, by rw [hlen]; decide, bytes, text, _,
      hdoc, TokenDocuments.keysPass_of_members hdoc.2.2.2.2 TokenDocuments.members_sample, hread⟩
  refine ⟨parsedToken parsed, ?_⟩
  unfold plainKeys tokenKeys
  dsimp only
  rw [jsString_sampleToken, hparse]
  rfl

def sampleChoice : Op → Choice
  | .encrypt token => { newId := sampleId, encrypted := token,
                        metadata := .error (.other "offline"),
                        tunnelToken := .error (.other "offline") }
  | _ => { newId := sampleId, encrypted := "", metadata := .error (.other "offline"),
           tunnelToken := .error (.other "offline") }

def sampleAnswer (db : Db) (o : Plane.Op) : Plane.Res o × Db := Op.run (sampleChoice o) db o

def sampleStart : Db := { readyAgents := ["agent"] }

lemma createdConnector_id (now : Database.Time) (id : String) (values : ConnectorValues) :
    (createdConnector now id values).id = id := rfl

/-- A request for a connector, the account is not linked: it is stored all the same. -/
lemma reach_created {name : String} (hname : ∃ value, nameField value = some name) :
    ∃ c : Config Plane Db Nat (Except Failure Unit), ∃ deployment,
      Reach (connectorSystem plainKeys) Initial c ∧
        c.state.connectors.find? sampleId = some deployment ∧ deployment.id = sampleId ∧
        deployment.name = name ∧ deployment.enabled = true ∧
        connectorSync some c.state "agent" sampleId 1 =
          .ok { connectorId := sampleId, revision := 1, name, enabled := some true,
                token := sampleToken } := by
  obtain ⟨parsed, hparse⟩ := sampleToken_parses
  have htoken : ∃ value, tokenField value = some sampleToken := by
    refine ⟨some (.str sampleToken), ?_⟩
    have hlength : Json.jsLength sampleToken.toList = 156 := by
      rw [← length_jsString, jsString_sampleToken, sampleToken_length]
    unfold tokenField opaqueStringField
    dsimp only
    rw [hlength]
    rfl
  have hstart : Reach (connectorSystem plainKeys) Initial
      ⟨sampleStart, fun _ => .pure (.ok ())⟩ := .init ⟨rfl, fun _ => rfl⟩
  have hbegun := hstart.step (.start (S := connectorSystem plainKeys) 0 rfl
    ⟨rfl, .post (sampleBody name), ⟨hname, htoken⟩, rfl⟩)
  have hanswers : ∀ (db : Db) (o : Op),
      HonestExec plainKeys db o (sampleAnswer db o).1 (sampleAnswer db o).2 := by
    intro db o
    refine ⟨sampleChoice o, ?_, .inl ⟨rfl, rfl⟩⟩
    cases o with
    | createConnector values => exact sampleId_pattern
    | encrypt token => rfl
    | _ => trivial
  have hrun := reach_runFor (S := connectorSystem plainKeys) (h := sampleAnswer) (i := 0) hanswers 3
    hbegun
  rw [Function.update_self] at hrun
  let deployment := createdConnector 0 sampleId (creationValues name sampleToken true "agent"
    { accountIdentifier := parsed.accountIdentifier, tunnelId := parsed.tunnelId,
      identityStatus := .unmatched, identityError := some "connector_account_unlinked" })
  have hstate : some ((((Request.post (sampleBody name)).handler plainKeys).run).runFor
      sampleAnswer 3 sampleStart).2.connectors =
        (∅ : Table ConnectorRow String ConnectorRow.id).insert? deployment := by
    unfold Request.handler postConnector connectorIdentityForCreation
    dsimp only
    rw [show plainKeys.parse (sampleBody name).token = some parsed from hparse]
    rfl
  have hfound := Table.find?_insert hstate.symm sampleId
  rw [if_pos (createdConnector_id 0 sampleId _).symm] at hfound
  generalize (((Request.post (sampleBody name)).handler plainKeys).run).runFor sampleAnswer 3
    sampleStart = ran at hrun hfound
  refine ⟨_, deployment, hrun, hfound, createdConnector_id _ _ _, rfl, rfl, ?_⟩
  unfold connectorSync
  rw [if_pos sampleId_pattern, hfound]
  rfl

lemma nameField_plain {name : String} (hlength : 1 ≤ Json.jsLength name.toList)
    (hmost : Json.jsLength name.toList ≤ 120)
    (hspace : ∀ c ∈ name.toList, isJsSpace c = false) : nameField (some (.str name)) = some name := by
  have htrim : trim name = name := by
    unfold trim
    rw [trimBoth_of_ends, String.ofList_toList]
    · exact fun c hc => hspace c (List.mem_of_mem_head? hc)
    · exact fun c hc => hspace c (List.mem_of_getLast? hc)
  unfold nameField Requests.stringField
  dsimp only
  rw [htrim, if_neg (by omega)]

/-- A connector with a name of plain letters reaches the agent. -/
theorem connector_decodes_iff_edge : ∃ c payload,
    Reach (connectorSystem plainKeys) Initial c ∧
      connectorSync some c.state "agent" sampleId 1 = .ok payload ∧
      decodeConnectorSyncPayload (some payload) = .ok payload := by
  have hname : nameField (some (.str "edge")) = some "edge" := by decide
  obtain ⟨c, deployment, hreach, hrow, -, hedge, -, hsync⟩ := reach_created ⟨_, hname⟩
  refine ⟨c, _, hreach, hsync, (connector_decodes_iff hreach hrow hsync).mpr fun _ => ?_⟩
  rw [hedge]
  exact ⟨by decide, forall_of_all (by decide)⟩

def longName : String := String.ofList (List.replicate 120 'é')

lemma longName_read : nameField (some (.str longName)) = some longName := by
  have hlength : Json.jsLength longName.toList = 120 := by
    unfold longName Json.jsLength
    rw [String.toList_ofList, List.map_replicate, List.sum_replicate]
    rfl
  refine nameField_plain (by omega) (by omega) fun c hc => ?_
  unfold longName at hc
  rw [String.toList_ofList] at hc
  rw [List.eq_of_mem_replicate hc]
  decide

lemma longName_size : longName.utf8ByteSize = 240 := by
  have hsize : ∀ n, String.utf8Len (List.replicate n 'é') = 2 * n := by
    intro n
    induction n with
    | zero => rfl
    | succ n ih =>
      have htwo : 'é'.utf8Size = 2 := by decide
      rw [List.replicate_succ, String.utf8Len, ih, htwo]
      omega
  unfold longName
  rw [String.utf8ByteSize_ofList, hsize]

/-- A name of 120 letters that take two bytes each is accepted, and the agent refuses every
payload with it. -/
theorem long_name_refused : ∃ c payload,
    nameField (some (.str longName)) = some longName ∧
      Reach (connectorSystem plainKeys) Initial c ∧
      connectorSync some c.state "agent" sampleId 1 = .ok payload ∧
      payload.name = longName ∧
      decodeConnectorSyncPayload (some payload) =
        .error "name must contain 1 to 120 valid, non-control characters" := by
  obtain ⟨c, deployment, hreach, -, -, -, -, hsync⟩ := reach_created ⟨_, longName_read⟩
  refine ⟨c, _, longName_read, hreach, hsync, rfl, ?_⟩
  have hinvalid : validConnectorName longName = false := by
    unfold validConnectorName
    rw [longName_size]
    rfl
  unfold decodeConnectorSyncPayload
  simp [sampleId_pattern, hinvalid]

end GatewayControl.ConnectorNames
