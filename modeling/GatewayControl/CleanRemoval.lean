import GatewayControl.AgentContact
import GatewayControl.AgentReferences

/-!
When removing an agent ends cleanly, and what an archived agent is afterwards.

The tables that neither list of the removal names refer only to agents that have enrolled, the
notification preferences apart.
-/

namespace GatewayControl.CleanRemoval

open Database hiding AgentRow
open Store AgentRemoval AgentReferences
open AgentPresence (Registry)

/-! ### Contact -/

/-- What contact leaves alone in an agent's row. -/
def standing (a : AgentPresence.AgentRow) : String × Bool × Option Time × Option Time :=
  (a.id, a.enabled, a.enrolledAt, a.archivedAt)

structure Contacts (r r' : Registry) : Prop where
  agents : r'.agents.rows.map standing = r.agents.rows.map standing
  connectors : r'.connectors.rows.map ConnectorRow.agentId =
    r.connectors.rows.map ConnectorRow.agentId

lemma observeConnector_agents {uuid : String → Option String} {agentId : String}
    {r r' : Registry} {entry : String × Json}
    (h : AgentPresence.observeConnector uuid agentId r entry = some r') :
    r'.connectors.rows.map ConnectorRow.agentId = r.connectors.rows.map ConnectorRow.agentId := by
  unfold AgentPresence.observeConnector at h
  split at h
  · obtain ⟨id, -, h⟩ := Option.bind_eq_some_iff.mp h
    obtain ⟨lastError, -, h⟩ := Option.bind_eq_some_iff.mp h
    obtain rfl := Option.some.inj h
    apply Table.map_update
    · exact fun _ => rfl
    · exact fun _ _ _ => rfl
  · cases h
  · exact Option.some.inj h ▸ rfl

lemma observeConnectors_agents {uuid : String → Option String} {agentId : String}
    {entries : List (String × Json)} {r r' : Registry}
    (h : entries.foldlM (AgentPresence.observeConnector uuid agentId) r = some r') :
    r'.connectors.rows.map ConnectorRow.agentId = r.connectors.rows.map ConnectorRow.agentId := by
  induction entries generalizing r with
  | nil => exact Option.some.inj h ▸ rfl
  | cons entry entries ih =>
    rw [List.foldlM_cons] at h
    obtain ⟨between, hfirst, hrest⟩ := Option.bind_eq_some_iff.mp h
    exact (ih hrest).trans (observeConnector_agents hfirst)

lemma contacts_heartbeatAgent {uuid : String → Option String} {r r' : Registry} {now : Time}
    {id : String} {metadata : Json}
    (h : AgentPresence.heartbeatAgent uuid r now id metadata = some r') : Contacts r r' := by
  unfold AgentPresence.heartbeatAgent at h
  obtain ⟨stored, -, h⟩ := Option.bind_eq_some_iff.mp h
  constructor
  · rw [(AgentContact.observeConnectors_frame h).1]
    split
    · apply Table.map_update
      · exact fun _ => rfl
      · exact fun _ _ _ => rfl
    · apply Table.map_update
      · exact fun _ => rfl
      · exact fun _ _ _ => rfl
  · rw [observeConnectors_agents h]
    split <;> rfl

lemma contacts_recordTelemetry {r r' : Registry} {now clock : Time} {agentId : String}
    {observedAt : Time} {node : Json} {services : List AgentPresence.Service}
    (h : AgentPresence.recordTelemetry r now clock agentId observedAt node services = some r') :
    Contacts r r' := by
  unfold AgentPresence.recordTelemetry at h
  obtain ⟨_, -, h⟩ := Option.bind_eq_some_iff.mp h
  obtain ⟨stored, -, h⟩ := Option.bind_eq_some_iff.mp h
  obtain rfl := Option.some.inj h
  refine ⟨?_, rfl⟩
  apply Table.map_update
  · exact fun _ => rfl
  · exact fun _ _ _ => rfl

lemma contacts_sweepOfflineAgents (r : Registry) (now offlineBefore : Time) :
    Contacts r (AgentPresence.sweepOfflineAgents r now offlineBefore) := by
  refine ⟨?_, rfl⟩
  apply Table.map_update
  · exact fun _ => rfl
  · exact fun _ _ _ => rfl

/-! ### Rows -/

def profile (a : AgentRow) : (String × Bool × Option Time × Option Time) × Option String ×
    Option String :=
  (standing a.toAgentRow, a.enrollmentTokenHash, a.credentialHash)

lemma profile_withRegistry {s : State} {r : Registry} (h : Contacts s.registry r) :
    (s.withRegistry r).agents.rows.map profile = s.agents.rows.map profile := by
  apply Table.map_update
  · exact fun _ => rfl
  intro a ha _
  have hmem : standing a.toAgentRow ∈ r.agents.rows.map standing := by
    rw [h.agents]
    exact List.mem_map_of_mem (List.mem_map_of_mem ha)
  obtain ⟨p, hp, hstanding⟩ := List.mem_map.mp hmem
  have hid : p.id = a.id := (Prod.mk.inj hstanding).1
  have hfind : r.agents.find? a.id = some p := hid ▸ Table.find?_of_mem hp
  refine Prod.ext ?_ rfl
  calc standing { (r.agents.find? a.id).getD a.toAgentRow with id := a.id }
      = standing { p with id := a.id } := by rw [hfind, Option.getD_some]
    _ = standing p := by rw [← hid]
    _ = standing a.toAgentRow := hstanding

lemma refs_withRegistry {s : State} {r : Registry} (h : Contacts s.registry r) :
    refs (s.withRegistry r).db = refs s.db :=
  congrArg (fun connectors => { refs s.db with connectors }) h.connectors

lemma find?_known {s : State} {a : AgentRow} (ha : a ∈ s.agents.rows) :
    s.known.find? a.id = some ⟨a.id, a.enabled, a.enrolledAt.isSome⟩ :=
  Table.find?_of_mem (t := s.known) (List.mem_map_of_mem ha)

lemma enabled_known {s : State} {a : AgentRow} (ha : a ∈ s.agents.rows) :
    agentEnabled s.database a.id = a.enabled := by
  rw [agentEnabled, State.database, find?_known ha]
  rfl

lemma enrolled_of_ready {s : State} {id : String} (h : agentReady s.database id = true) :
    ∃ a ∈ s.agents.rows, a.id = id ∧ a.enrolledAt.isSome := by
  unfold agentReady State.database at h
  cases hfind : s.known.find? id with
  | none =>
    rw [hfind] at h
    cases h
  | some b =>
    rw [hfind, Option.any_some, Bool.and_eq_true] at h
    obtain ⟨a, ha, rfl⟩ := List.mem_map.mp (Table.mem_of_find? hfind)
    have hid := Table.key_find? hfind
    exact ⟨a, ha, hid, h.2⟩

/-! ### The invariant -/

/-- No row places work with the agent. -/
structure Unplaced (db : Db) (id : String) : Prop where
  active : id ∉ (refs db).active
  connectors : id ∉ (refs db).connectors
  managedStacks : id ∉ (refs db).managedStacks
  deployments : id ∉ (refs db).deployments
  managedRoutes : id ∉ (refs db).managedRoutes

structure Gone (db : Db) (a : AgentRow) : Prop where
  enabled : a.enabled = false
  token : a.enrollmentTokenHash = none
  credential : a.credentialHash = none
  unplaced : Unplaced db a.id

structure Inv (s : State) : Prop where
  archived : ∀ a ∈ s.agents.rows, a.archivedAt.isSome → Gone s.db a
  operations : ∀ e ∈ (refs s.db).operations, e.1 = .backup ∨ e.1 = .restore ∨
    ∃ a ∈ s.agents.rows, a.id = e.2 ∧ a.enrolledAt.isSome

/-- An archived agent stays, and gets no command. -/
structure Stays (s s' : State) (id : String) : Prop where
  agent : ∃ a ∈ s'.agents.rows, a.id = id ∧ a.archivedAt.isSome
  commands : ∀ e ∈ (refs s'.db).commands, e.2 = id → e ∈ (refs s.db).commands

/-- What one step keeps. -/
structure Keeps (s s' : State) : Prop where
  inv : Inv s'
  stays : ∀ a ∈ s.agents.rows, a.archivedAt.isSome → Stays s s' a.id

lemma inv_empty : Inv {} where
  archived := by
    intro a ha
    cases ha
  operations := by
    intro e he
    cases he

/-! ### Steps on the agents -/

lemma unplaced_of_refs {db db' : Db} (h : refs db' = refs db) {id : String}
    (hid : Unplaced db id) : Unplaced db' id := by
  obtain ⟨hactive, hconnectors, hstacks, hdeployments, hroutes⟩ := hid
  exact ⟨h ▸ hactive, h ▸ hconnectors, h ▸ hstacks, h ▸ hdeployments, h ▸ hroutes⟩

lemma keeps_refl {s : State} (h : Inv s) : Keeps s s :=
  ⟨h, fun a ha harchived => ⟨⟨a, ha, rfl, harchived⟩, fun _ he _ => he⟩⟩

/-- Rows with the same profiles, and the same references. -/
lemma keeps_of_profiles {s s' : State} (h : Inv s)
    (hagents : s'.agents.rows.map profile = s.agents.rows.map profile)
    (hrefs : refs s'.db = refs s.db) : Keeps s s' := by
  have hfrom : ∀ a' ∈ s'.agents.rows, ∃ a ∈ s.agents.rows, profile a = profile a' := by
    intro a' ha'
    exact List.mem_map.mp (hagents ▸ List.mem_map_of_mem ha')
  have hto : ∀ a ∈ s.agents.rows, ∃ a' ∈ s'.agents.rows, profile a' = profile a := by
    intro a ha
    exact List.mem_map.mp (hagents ▸ List.mem_map_of_mem ha)
  have hparts : ∀ a a' : AgentRow, profile a = profile a' → a.id = a'.id ∧ a.enabled = a'.enabled ∧
      a.enrolledAt = a'.enrolledAt ∧ a.archivedAt = a'.archivedAt ∧
      a.enrollmentTokenHash = a'.enrollmentTokenHash ∧ a.credentialHash = a'.credentialHash := by
    intro a a' hprofile
    simpa [profile, standing, and_assoc] using hprofile
  constructor
  · constructor
    · intro a' ha' harchived
      obtain ⟨a, ha, hprofile⟩ := hfrom a' ha'
      obtain ⟨hid, henabled, -, harch, htoken, hcredential⟩ := hparts a a' hprofile
      have hgone := h.archived a ha (harch ▸ harchived)
      exact ⟨henabled ▸ hgone.enabled, htoken ▸ hgone.token, hcredential ▸ hgone.credential,
        unplaced_of_refs hrefs (hid ▸ hgone.unplaced)⟩
    · intro e he
      refine (h.operations e (hrefs ▸ he)).imp_right (Or.imp_right ?_)
      rintro ⟨a, ha, hid, henrolled⟩
      obtain ⟨a', ha', hprofile⟩ := hto a ha
      obtain ⟨hid', -, henrolled', -⟩ := hparts a' a hprofile
      exact ⟨a', ha', hid'.trans hid, henrolled' ▸ henrolled⟩
  · intro a ha harchived
    obtain ⟨a', ha', hprofile⟩ := hto a ha
    obtain ⟨hid, -, -, harch, -⟩ := hparts a' a hprofile
    exact ⟨⟨a', ha', hid, harch ▸ harchived⟩, fun e he _ => hrefs ▸ he⟩

lemma keeps_createAgent {s s' : State} (h : Inv s) {id name tokenHash : String}
    {expiresAt : Time} (hrun : createAgent s id name tokenHash expiresAt = some s') :
    Keeps s s' := by
  unfold createAgent at hrun
  split at hrun
  · cases hrun
  · obtain ⟨agents, hinsert, hrun⟩ := Option.bind_eq_some_iff.mp hrun
    obtain rfl := Option.some.inj hrun
    have hrows := Table.rows_insert hinsert
    have hold : ∀ a ∈ s.agents.rows, a ∈ agents.rows := by
      intro a ha
      rw [hrows]
      exact List.mem_append_left _ ha
    constructor
    · constructor
      · intro a ha harchived
        rw [hrows] at ha
        rcases List.mem_append.mp ha with ha | ha
        · exact h.archived a ha harchived
        · rw [List.mem_singleton.mp ha] at harchived
          cases harchived
      · intro e he
        refine (h.operations e he).imp_right (Or.imp_right ?_)
        rintro ⟨a, ha, hid⟩
        exact ⟨a, hold a ha, hid⟩
    · intro a ha harchived
      exact ⟨⟨a, hold a ha, rfl, harchived⟩, fun e he _ => he⟩

/-- An update of the agents that touches no archived one, archives none and keeps who has
enrolled. -/
lemma keeps_update {s : State} (h : Inv s) {p : AgentRow → Bool} {f : AgentRow → AgentRow}
    {hf : ∀ a, (f a).id = a.id} (harch : ∀ a ∈ s.agents.rows, p a → a.archivedAt = none)
    (hnew : ∀ a ∈ s.agents.rows, p a → (f a).archivedAt.isSome → Gone s.db (f a))
    (henrolled : ∀ a, a.enrolledAt.isSome → (f a).enrolledAt.isSome) :
    Keeps s { s with agents := s.agents.update p f hf } := by
  have hto : ∀ a ∈ s.agents.rows, (if p a then f a else a) ∈ (s.agents.update p f hf).rows :=
    fun a ha => List.mem_map_of_mem ha
  constructor
  · constructor
    · intro a' ha' harchived
      obtain ⟨a, ha, rfl⟩ := List.mem_map.mp ha'
      by_cases hp : p a = true
      · rw [if_pos hp] at harchived ⊢
        exact hnew a ha hp harchived
      · rw [if_neg hp] at harchived ⊢
        exact h.archived a ha harchived
    · intro e he
      refine (h.operations e he).imp_right (Or.imp_right ?_)
      rintro ⟨a, ha, hid, hsome⟩
      refine ⟨_, hto a ha, ?_, ?_⟩
      · split
        · exact (hf a).trans hid
        · exact hid
      · split
        · exact henrolled a hsome
        · exact hsome
  · intro a ha harchived
    have hp : ¬ p a = true := by
      intro hp
      rw [harch a ha hp] at harchived
      cases harchived
    have hmem := hto a ha
    rw [if_neg hp] at hmem
    exact ⟨⟨a, hmem, rfl, harchived⟩, fun e he _ => he⟩

lemma keeps_enrollAgent {s : State} (h : Inv s) (now : Time) (tokenHash credentialHash : String) :
    Keeps s (enrollAgent s now tokenHash credentialHash).1 := by
  have hnone : ∀ a ∈ s.agents.rows, enrollable now tokenHash a → a.archivedAt = none := by
    intro a ha hp
    by_contra harchived
    have hgone := h.archived a ha (Option.isSome_iff_ne_none.mpr harchived)
    rw [enrollable, hgone.enabled, Bool.and_false] at hp
    cases hp
  refine keeps_update h hnone ?_ fun _ _ => rfl
  intro a ha hp harchived
  have hsome : a.archivedAt.isSome = true := harchived
  rw [hnone a ha hp] at hsome
  cases hsome

/-! ### Removal -/

lemma unplaced_of_not_blocked {db : Db} {id : String} (h : blocked db id = false) :
    Unplaced db id := by
  simp only [blocked, Bool.or_eq_false_iff, List.any_eq_false, decide_eq_true_eq,
    Bool.and_eq_true] at h
  obtain ⟨⟨⟨⟨⟨⟨hconnectors, hstacks⟩, hdeployments⟩, hroutes⟩, -⟩, -⟩, hcommands⟩ := h
  constructor
  · intro hmem
    obtain ⟨c, hc, hid⟩ := List.mem_map.mp hmem
    obtain ⟨hrow, hactive⟩ := List.mem_filter.mp hc
    exact hcommands c hrow ⟨hid, hactive⟩
  · intro hmem
    obtain ⟨c, hc, hid⟩ := List.mem_map.mp hmem
    exact hconnectors c hc hid
  · intro hmem
    obtain ⟨c, hc, hid⟩ := List.mem_map.mp hmem
    exact hstacks c hc hid
  · intro hmem
    obtain ⟨c, hc, hid⟩ := List.mem_map.mp hmem
    exact hdeployments c hc hid
  · intro hmem
    obtain ⟨c, hc, hid⟩ := List.mem_map.mp hmem
    exact hroutes c hc hid

/-- What a removal that is not refused does. -/
inductive Removed (s s' : State) (now : Time) (id : String) : Removal → Prop
  | missing (h : s' = s) : Removed s s' now id .missing
  | blocked (h : s' = s) : Removed s s' now id .blocked
  | deleted (a : AgentRow) (ha : s.agents.find? id = some a) (hnone : a.enrolledAt = none)
      (harchived : a.archivedAt = none) (hrefs : s.references id = false)
      (h : s' = { s with agents := s.agents.delete fun a => a.id = id }) :
      Removed s s' now id .deleted
  | archived (a : AgentRow) (ha : s.agents.find? id = some a) (hnone : a.archivedAt = none)
      (hunplaced : Unplaced s.db id)
      (h : s' = { s with
        agents := s.agents.update (fun a => a.id = id) (archive now) fun _ => rfl }) :
      Removed s s' now id .archived

lemma removed_of_run {s s' : State} {now : Time} {id : String} {outcome : Removal}
    (h : removeAgent s now id = some (s', outcome)) : Removed s s' now id outcome := by
  unfold removeAgent at h
  split at h
  · obtain ⟨rfl, rfl⟩ := Prod.mk.inj (Option.some.inj h)
    exact .missing rfl
  · next a hfind =>
    obtain ⟨ha, hunarchived⟩ := Option.filter_eq_some_iff.mp hfind
    rw [Option.isNone_iff_eq_none] at hunarchived
    split at h
    · obtain ⟨rfl, rfl⟩ := Prod.mk.inj (Option.some.inj h)
      exact .blocked rfl
    · next hblocked =>
      rw [Bool.not_eq_true] at hblocked
      split at h
      · next hnew =>
        rw [Bool.and_eq_true, Option.isNone_iff_eq_none] at hnew
        obtain ⟨s₁, hdelete, h⟩ := Option.bind_eq_some_iff.mp h
        obtain ⟨rfl, rfl⟩ := Prod.mk.inj (Option.some.inj h)
        unfold State.deleteAgent at hdelete
        split at hdelete
        · cases hdelete
        · next hrefs =>
          exact .deleted a ha hnew.1 hunarchived (Bool.not_eq_true _ ▸ hrefs)
            (Option.some.inj hdelete).symm
      · obtain ⟨s₁, hupdate, h⟩ := Option.bind_eq_some_iff.mp h
        obtain ⟨rfl, rfl⟩ := Prod.mk.inj (Option.some.inj h)
        unfold State.updateAgent at hupdate
        split at hupdate
        · exact .archived a ha hunarchived (unplaced_of_not_blocked hblocked)
            (Option.some.inj hupdate).symm
        · cases hupdate

lemma keeps_removed {s s' : State} {now : Time} {id : String} {outcome : Removal} (hinv : Inv s)
    (h : Removed s s' now id outcome) : Keeps s s' := by
  cases h with
  | missing h =>
    subst h
    exact keeps_refl hinv
  | blocked h =>
    subst h
    exact keeps_refl hinv
  | deleted a ha hnone harchived hrefs h =>
    subst h
    have hkept : ∀ b ∈ s.agents.rows, b.enrolledAt.isSome ∨ b.archivedAt.isSome →
        b ∈ (s.agents.delete fun a => a.id = id).rows := by
      intro b hb hsome
      refine List.mem_filter.mpr ⟨hb, ?_⟩
      rw [Bool.not_eq_true', decide_eq_false_iff_not]
      rintro rfl
      have hfound := Table.find?_of_mem hb
      obtain rfl := Option.some.inj (ha.symm.trans hfound)
      rw [hnone, harchived] at hsome
      simp at hsome
    constructor
    · constructor
      · exact fun b hb => hinv.archived b (List.mem_filter.mp hb).1
      · intro e he
        refine (hinv.operations e he).imp_right (Or.imp_right ?_)
        rintro ⟨b, hb, hid, henrolled⟩
        exact ⟨b, hkept b hb (.inl henrolled), hid, henrolled⟩
    · intro b hb hsome
      exact ⟨⟨b, hkept b hb (.inr hsome), rfl, hsome⟩, fun e he _ => he⟩
  | archived a ha hnone hunplaced h =>
    subst h
    have hunique : ∀ b ∈ s.agents.rows, b.id = id → b = a := by
      rintro b hb rfl
      exact Option.some.inj ((Table.find?_of_mem hb).symm.trans ha)
    refine keeps_update hinv ?_ ?_ fun _ hsome => hsome
    · intro b hb hid
      rw [hunique b hb (of_decide_eq_true hid)]
      exact hnone
    · intro b hb hid _
      exact ⟨rfl, rfl, rfl, of_decide_eq_true hid ▸ hunplaced⟩

/-! ### Steps -/

lemma keeps_writes {s : State} {db' : Db} (h : Inv s) (hwrites : Writes s.database db') :
    Keeps s { s with db := db' } := by
  have hgrows := grows_writes hwrites
  -- An archived agent is not enabled, and no connector is left to it.
  have hdisabled : ∀ a ∈ s.agents.rows, a.archivedAt.isSome →
      ¬ agentEnabled s.database a.id = true := by
    intro a ha harchived henabled
    rw [enabled_known ha, (h.archived a ha harchived).enabled] at henabled
    cases henabled
  have hidle : ∀ a ∈ s.agents.rows, a.archivedAt.isSome → ¬ Employed s.database a.id := by
    rintro a ha harchived (henabled | hconnector)
    · exact hdisabled a ha harchived henabled
    · exact (h.archived a ha harchived).unplaced.connectors hconnector
  constructor
  · constructor
    · intro a ha harchived
      obtain ⟨henabled, htoken, hcredential, hunplaced⟩ := h.archived a ha harchived
      refine ⟨henabled, htoken, hcredential, ?_, ?_, ?_, ?_, ?_⟩
      · exact fun hmem => (hgrows.active _ hmem).elim hunplaced.active (hidle a ha harchived)
      · exact fun hmem => (hgrows.connectors _ hmem).elim hunplaced.connectors
          (hdisabled a ha harchived)
      · exact fun hmem => (hgrows.managedStacks _ hmem).elim hunplaced.managedStacks
          (hdisabled a ha harchived)
      · exact fun hmem => (hgrows.deployments _ hmem).elim hunplaced.deployments
          (hdisabled a ha harchived)
      · exact fun hmem => (hgrows.managedRoutes _ hmem).elim hunplaced.managedRoutes
          (hdisabled a ha harchived)
    · intro e he
      rcases hgrows.operations e he with hold | hready | hkind
      · exact h.operations e hold
      · exact .inr (.inr (enrolled_of_ready hready))
      · exact hkind.imp_right .inl
  · intro a ha harchived
    refine ⟨⟨a, ha, rfl, harchived⟩, ?_⟩
    rintro e he hid
    exact (hgrows.commands e he).resolve_right (hid ▸ hidle a ha harchived)

lemma keeps_scopes {s : State} (h : Inv s) (scopes : List Outbox.ScopeRow) :
    Keeps s { s with scopes } :=
  keeps_of_profiles h rfl rfl

lemma keeps_contact {s : State} {r : Registry} (h : Inv s) (hcontacts : Contacts s.registry r) :
    Keeps s (s.withRegistry r) :=
  keeps_of_profiles h (profile_withRegistry hcontacts) (refs_withRegistry hcontacts)

/-- **Step lemma.** -/
lemma keeps_step {uuid : String → Option String} {s s' : State} (h : Inv s)
    (hstep : Step uuid s s') : Keeps s s' := by
  cases hstep with
  | createAgent _ _ _ _ run => exact keeps_createAgent h run
  | enrollAgent now tokenHash credentialHash run =>
    exact run ▸ keeps_enrollAgent h now tokenHash credentialHash
  | removeAgent _ _ _ run => exact keeps_removed h (removed_of_run run)
  | heartbeatAgent _ _ _ _ run next =>
    exact next ▸ keeps_contact h (contacts_heartbeatAgent run)
  | recordTelemetry _ _ _ _ _ _ _ run next =>
    exact next ▸ keeps_contact h (contacts_recordTelemetry run)
  | sweepOfflineAgents now offlineBefore run =>
    exact run ▸ keeps_contact h (contacts_sweepOfflineAgents _ now offlineBefore)
  | writes _ run next => exact next ▸ keeps_writes h run
  | setAgentNotificationPreference _ _ run =>
    subst run
    unfold setAgentNotificationPreference
    split
    · exact keeps_scopes h _
    · exact keeps_refl h
  | setServiceNotificationPreference _ _ _ _ run =>
    subst run
    unfold setServiceNotificationPreference
    split
    · exact keeps_scopes h _
    · exact keeps_refl h

lemma inv_run {uuid : String → Option String} {s s' : State} (h : Inv s) (hrun : Run uuid s s') :
    Inv s' := by
  induction hrun with
  | refl => exact h
  | tail _ hstep ih => exact (keeps_step ih hstep).inv

/-- **Run lemma.** -/
lemma stays_run {uuid : String → Option String} {s s' : State} (h : Inv s)
    (hrun : Run uuid s s') {id : String}
    (hid : ∃ a ∈ s.agents.rows, a.id = id ∧ a.archivedAt.isSome) : Stays s s' id := by
  induction hrun with
  | refl => exact ⟨hid, fun e he _ => he⟩
  | tail hrun hstep ih =>
    obtain ⟨a, ha, rfl, harchived⟩ := ih.agent
    obtain ⟨hagent, hcommands⟩ := (keeps_step (inv_run h hrun) hstep).stays a ha harchived
    exact ⟨hagent, fun e he heq => ih.commands e (hcommands e he heq) heq⟩

/-! ### Clean removals -/

/-- Neither its enrolment token nor its credential is accepted, and nothing is placed with it. -/
structure Retired (s : State) (id : String) : Prop where
  enrolment : ∀ now tokenHash credentialHash,
    (enrollAgent s now tokenHash credentialHash).1.agents.find? id = s.agents.find? id ∧
    ∀ a, (enrollAgent s now tokenHash credentialHash).2 = some a → a.id ≠ id
  credential : ∀ credentialHash a, authenticateAgent s credentialHash = some a → a.id ≠ id
  commands : ∀ c ∈ s.db.commands.rows, c.agentId = id → c.status ≠ .pending ∧ c.status ≠ .claimed
  connectors : ∀ c ∈ s.db.connectors.rows, c.agentId ≠ id
  managedStacks : ∀ stack ∈ s.db.managedStacks.rows, stack.agentId ≠ id
  deployments : ∀ d ∈ s.db.deployments.rows, d.agentId ≠ id
  managedRoutes : ∀ r ∈ s.db.managedRoutes.rows, r.gatewayAgentId ≠ id

lemma retired_of_archived {s : State} (h : Inv s) {id : String}
    (hid : ∃ a ∈ s.agents.rows, a.id = id ∧ a.archivedAt.isSome) : Retired s id := by
  obtain ⟨a, ha, rfl, harchived⟩ := hid
  have hgone := h.archived a ha harchived
  have hunique : ∀ b ∈ s.agents.rows, b.id = a.id → b = a := by
    intro b hb hid
    have hfound := Table.find?_of_mem hb
    rw [hid, Table.find?_of_mem ha] at hfound
    exact (Option.some.inj hfound).symm
  have hrefused : ∀ now tokenHash, enrollable now tokenHash a = false := by
    intro now tokenHash
    rw [enrollable, hgone.enabled, Bool.and_false]
  have hunplaced := hgone.unplaced
  refine ⟨?_, ?_, ?_, ?_, ?_, ?_, ?_⟩
  · intro now tokenHash credentialHash
    constructor
    · refine (Table.find?_update s.agents (enrollable now tokenHash) (enroll now credentialHash)
        (fun _ => rfl) a.id).trans ?_
      rw [Table.find?_of_mem ha, Option.map_some, hrefused]
      rfl
    · intro b hb hid
      obtain ⟨c, hc, rfl⟩ := Option.map_eq_some_iff.mp hb
      have henrollable := List.find?_some hc
      rw [hunique c (List.mem_of_find?_eq_some hc) hid, hrefused] at henrollable
      cases henrollable
  · intro credentialHash b hb hid
    have hmatches := List.find?_some hb
    rw [hunique b (List.mem_of_find?_eq_some hb) hid, hgone.enabled, Bool.and_false] at hmatches
    cases hmatches
  · intro c hc hagent
    have hinactive : active c = false := by
      by_contra hactive
      rw [Bool.not_eq_false] at hactive
      exact hunplaced.active (List.mem_map.mpr ⟨c, List.mem_filter.mpr ⟨hc, hactive⟩, hagent⟩)
    rw [active, Bool.or_eq_false_iff, beq_eq_false_iff_ne, beq_eq_false_iff_ne] at hinactive
    exact hinactive
  · exact fun c hc hagent => hunplaced.connectors (List.mem_map.mpr ⟨c, hc, hagent⟩)
  · exact fun c hc hagent => hunplaced.managedStacks (List.mem_map.mpr ⟨c, hc, hagent⟩)
  · exact fun c hc hagent => hunplaced.deployments (List.mem_map.mpr ⟨c, hc, hagent⟩)
  · exact fun c hc hagent => hunplaced.managedRoutes (List.mem_map.mpr ⟨c, hc, hagent⟩)

/-- Only an agent that no row refers to is deleted. From then on an archived one is retired, and
its commands are those it had. -/
structure Clean (uuid : String → Option String) (s s' : State) (id : String) (outcome : Removal) :
    Prop where
  deleted : outcome = .deleted → s.references id = false ∧ s'.agents.find? id = none
  archived : outcome = .archived → ∀ later, Run uuid s' later → Retired later id ∧
    ∀ c ∈ later.db.commands.rows, c.agentId = id → ∃ c' ∈ s'.db.commands.rows, c'.id = c.id

lemma clean_of_removed {uuid : String → Option String} {s s' : State} (hinv : Inv s) {now : Time}
    {id : String} {outcome : Removal} (h : Removed s s' now id outcome) :
    Clean uuid s s' id outcome := by
  have hkeeps := keeps_removed hinv h
  constructor
  · rintro rfl
    cases h with
    | deleted a ha hnone harchived hrefs h =>
      subst h
      refine ⟨hrefs, (Table.find?_delete _ _ _).trans ?_⟩
      rw [ha, Option.filter_some, if_neg]
      simp [Table.key_find? ha]
  · rintro rfl later hrun
    cases h with
    | archived a ha hnone hunplaced h =>
      have harchived : ∃ b ∈ s'.agents.rows, b.id = id ∧ b.archivedAt.isSome := by
        subst h
        have hid := Table.key_find? ha
        refine ⟨archive now a, ?_, hid, rfl⟩
        refine List.mem_map.mpr ⟨a, Table.mem_of_find? ha, ?_⟩
        rw [if_pos (decide_eq_true hid)]
      have hstays := stays_run hkeeps.inv hrun harchived
      refine ⟨retired_of_archived (inv_run hkeeps.inv hrun) hstays.agent, ?_⟩
      intro c hc hagent
      have hmem := hstays.commands (c.id, c.agentId) (List.mem_map_of_mem hc) hagent
      obtain ⟨c', hc', heq⟩ := List.mem_map.mp hmem
      exact ⟨c', hc', (Prod.mk.inj heq).1⟩

/-- An agent that has never enrolled, that only notification preferences refer to. -/
structure Held (s : State) (id : String) : Prop where
  fresh : ∃ a, s.agents.find? id = some a ∧ a.archivedAt = none ∧ a.enrolledAt = none
  unblocked : blocked s.db id = false
  history : s.hasHistory id = false
  scope : s.scopes.any (·.agentId = id) = true

lemma references_eq {s : State} (h : Inv s) {a : AgentRow} {id : String}
    (ha : s.agents.find? id = some a) (hnone : a.enrolledAt = none)
    (hblocked : blocked s.db id = false) (hhistory : s.hasHistory id = false) :
    s.references id = s.scopes.any (·.agentId = id) := by
  have hoperations : s.db.operations.rows.any (·.agentId = id) = false := by
    rw [List.any_eq_false]
    intro op hop hagent
    have hid := of_decide_eq_true hagent
    simp only [blocked, Bool.or_eq_false_iff, List.any_eq_false, Bool.and_eq_true, beq_iff_eq,
      decide_eq_true_eq, not_and] at hblocked
    rcases h.operations (op.kind, op.agentId) (List.mem_map_of_mem hop) with
      hkind | hkind | ⟨b, hb, hbid, henrolled⟩
    · exact hblocked.1.1.2 op hop hkind hid
    · exact hblocked.1.2 op hop hkind hid
    · have hfound := Table.find?_of_mem hb
      rw [hbid, hid, ha] at hfound
      obtain rfl := Option.some.inj hfound
      rw [hnone] at henrolled
      cases henrolled
  simp only [blocked, Bool.or_eq_false_iff] at hblocked
  simp only [State.hasHistory, Bool.or_eq_false_iff] at hhistory
  obtain ⟨⟨⟨⟨⟨⟨hconnectors, hstacks⟩, hdeployments⟩, hroutes⟩, -⟩, -⟩, -⟩ := hblocked
  obtain ⟨⟨hcommands, hsnapshots⟩, hevents⟩ := hhistory
  rw [State.references, hcommands, hoperations, hconnectors, hstacks, hdeployments, hroutes,
    hsnapshots, hevents]
  simp

/-- Removing an agent ends cleanly in a reached state, unless the agent has never enrolled and
only notification preferences refer to it. -/
theorem removes_cleanly_iff (uuid : String → Option String) (s : State) (hrun : Run uuid {} s)
    (now : Time) (id : String) :
    (∃ s' outcome, removeAgent s now id = some (s', outcome) ∧ Clean uuid s s' id outcome) ↔
      ¬ Held s id := by
  have hinv := inv_run inv_empty hrun
  constructor
  · rintro ⟨s', outcome, hremove, -⟩ ⟨⟨a, ha, hunarchived, hnone⟩, hblocked, hhistory, hscope⟩
    have hrefs := references_eq hinv ha hnone hblocked hhistory
    rw [hscope] at hrefs
    have hfilter : (s.agents.find? id).filter (·.archivedAt.isNone) = some a :=
      Option.filter_eq_some_iff.mpr ⟨ha, by rw [hunarchived]; rfl⟩
    rw [removeAgent, hfilter] at hremove
    simp [hblocked, hnone, hhistory, State.deleteAgent, hrefs] at hremove
  · intro hheld
    have hsome : (removeAgent s now id).isSome := by
      unfold removeAgent
      split
      · rfl
      · next a hfind =>
        obtain ⟨ha, hunarchived⟩ := Option.filter_eq_some_iff.mp hfind
        rw [Option.isNone_iff_eq_none] at hunarchived
        split
        · rfl
        · next hblocked =>
          rw [Bool.not_eq_true] at hblocked
          split
          · next hnew =>
            rw [Bool.and_eq_true, Option.isNone_iff_eq_none, Bool.not_eq_true'] at hnew
            have hrefs := references_eq hinv ha hnew.1 hblocked hnew.2
            have hscope : s.scopes.any (·.agentId = id) = false := by
              by_contra hscope
              exact hheld ⟨⟨a, ha, hunarchived, hnew.1⟩, hblocked, hnew.2,
                Bool.not_eq_false _ ▸ hscope⟩
            rw [State.deleteAgent, hrefs, hscope]
            rfl
          · have hcoherent : ((s.agents.find? id).all fun a => (archive now a).coherent) = true := by
              rw [ha]
              rfl
            unfold State.updateAgent
            rw [if_pos hcoherent]
            rfl
    obtain ⟨⟨s', outcome⟩, hremove⟩ := Option.isSome_iff_exists.mp hsome
    exact ⟨s', outcome, hremove, clean_of_removed hinv (removed_of_run hremove)⟩

/-- An agent that has not enrolled yet. -/
def waiting : State where
  agents := .single
    { id := "a"
      name := "edge"
      enrollmentTokenHash := some "token"
      enrollmentExpiresAt := some 900000 }

lemma run_waiting (uuid : String → Option String) : Run uuid {} waiting :=
  .single (.createAgent "a" "edge" "token" 900000 rfl)

theorem removes_cleanly_waiting :
    ∃ s' outcome, removeAgent waiting 1 "a" = some (s', outcome) ∧
      Clean some waiting s' "a" outcome :=
  (removes_cleanly_iff some waiting (run_waiting some) 1 "a").mpr
    fun h => Bool.false_ne_true h.scope

def silenced : State := setAgentNotificationPreference waiting "a" false

/-- Once its notifications are switched off its removal is refused. -/
theorem silenced_not_removed : Run some {} silenced ∧ removeAgent silenced 1 "a" = none ∧
    ¬ ∃ s' outcome, removeAgent silenced 1 "a" = some (s', outcome) ∧
      Clean some silenced s' "a" outcome := by
  have hnone : removeAgent silenced 1 "a" = none := rfl
  refine ⟨.tail (run_waiting some) (.setAgentNotificationPreference "a" false rfl), hnone, ?_⟩
  rintro ⟨s', outcome, hremove, -⟩
  rw [hnone] at hremove
  cases hremove

end GatewayControl.CleanRemoval
