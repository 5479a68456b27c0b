import GatewayControl.NotificationTopology
import Mathlib.Data.List.Basic
import Mathlib.Data.List.Perm.Basic

/-!
What the page shows for a service or an agent is what is decided for its events.

The scopes of a reached store have one row for each agent and for each of its services, so the
maps of the page hold what the queries of the outbox ask for.
-/

namespace GatewayControl.TopologyDecisions

open Database (Event)
open Outbox NotificationTopology

/-! ### Keys -/

lemma joined_inj {a b a' b' : String} (h : Json.hasNul a = false) (h' : Json.hasNul a' = false)
    (heq : a ++ "\x00" ++ b = a' ++ "\x00" ++ b') : a = a' ∧ b = b' := by
  have ha : '\x00' ∉ a.toList := by simpa [Json.hasNul] using h
  have ha' : '\x00' ∉ a'.toList := by simpa [Json.hasNul] using h'
  have hlist : a.toList ++ '\x00' :: b.toList = a'.toList ++ '\x00' :: b'.toList := by
    simpa using congrArg String.toList heq
  have hother : ∀ {cs : List Char}, '\x00' ∉ cs → ∀ c ∈ cs, decide (c ≠ '\x00') = true :=
    fun hcs c hc => decide_eq_true fun heq => hcs (heq ▸ hc)
  have hfirst : a.toList = a'.toList := by
    have := congrArg (List.takeWhile fun c => decide (c ≠ '\x00')) hlist
    rwa [List.takeWhile_append_of_pos (hother ha), List.takeWhile_append_of_pos (hother ha'),
      List.takeWhile_cons_of_neg (by simp), List.takeWhile_cons_of_neg (by simp),
      List.append_nil, List.append_nil] at this
  rw [hfirst] at hlist
  have hrest := (List.cons.inj (List.append_cancel_left hlist)).2
  exact ⟨String.toList_inj.mp hfirst, String.toList_inj.mp hrest⟩

lemma scopeKey_inj {a p s a' p' s' : String} (ha : Json.hasNul a = false)
    (ha' : Json.hasNul a' = false) (hp : Json.hasNul p = false) (hp' : Json.hasNul p' = false)
    (h : scopeKey a p s = scopeKey a' p' s') : a = a' ∧ p = p' ∧ s = s' := by
  obtain ⟨hagent, hkey⟩ := joined_inj ha ha' h
  exact ⟨hagent, joined_inj hp hp' hkey⟩

/-! ### The rows of the table -/

def scopeId (row : ScopeRow) : String × Option String × Option String :=
  (row.agentId, row.projectName, row.serviceName)

lemma sameScope_iff {row scope : ScopeRow} :
    sameScope scope.agentId scope.projectName scope.serviceName row = true ↔
      scopeId row = scopeId scope := by
  simp [sameScope, scopeId, and_assoc]

/-- A row is of an agent or of a service, and its texts are texts of the database. -/
structure Plain (row : ScopeRow) : Prop where
  agent : Json.hasNul row.agentId = false
  named : (row.projectName = none ∧ row.serviceName = none) ∨
    ∃ p s, row.projectName = some p ∧ row.serviceName = some s ∧ Json.hasNul p = false

/-- What the unique indexes and the checks of the table keep. -/
structure Sound (rows : List ScopeRow) : Prop where
  distinct : (rows.map scopeId).Nodup
  plain : ∀ row ∈ rows, Plain row

lemma Sound.sublist {rows rows' : List ScopeRow} (h : Sound rows) (hsub : rows'.Sublist rows) :
    Sound rows' where
  distinct := h.distinct.sublist (hsub.map scopeId)
  plain row hrow := h.plain row (hsub.subset hrow)

lemma Sound.perm {rows rows' : List ScopeRow} (h : Sound rows) (hperm : rows'.Perm rows) :
    Sound rows' where
  distinct := (hperm.map scopeId).nodup_iff.mpr h.distinct
  plain row hrow := h.plain row (hperm.subset hrow)

lemma plain_update {row scope : ScopeRow} (h : Plain row) :
    Plain { row with enabled := scope.enabled } := ⟨h.agent, h.named⟩

lemma Sound.upsertScope {rows : List ScopeRow} {scope : ScopeRow} (h : Sound rows)
    (hscope : Plain scope) : Sound (upsertScope rows scope) := by
  unfold NotificationTopology.upsertScope
  split
  · have hid : (fun row => scopeId (if sameScope scope.agentId scope.projectName scope.serviceName row
        then { row with enabled := scope.enabled } else row)) = scopeId := by
      funext row
      split <;> rfl
    constructor
    · rw [List.map_map]
      exact (congrArg (fun f => (rows.map f).Nodup) hid).mpr h.distinct
    · intro row hrow
      obtain ⟨row', hrow', rfl⟩ := List.mem_map.mp hrow
      split
      · exact plain_update (h.plain row' hrow')
      · exact h.plain row' hrow'
  · next hnone =>
    constructor
    · rw [List.map_append, List.map_singleton]
      refine List.nodup_append.mpr ⟨h.distinct, List.nodup_singleton _, ?_⟩
      intro id hid id' hid' heq
      obtain ⟨row, hrow, rfl⟩ := List.mem_map.mp hid
      rw [List.mem_singleton.mp hid'] at heq
      exact hnone (List.any_eq_true.mpr ⟨row, hrow, sameScope_iff.mpr heq⟩)
    · intro row hrow
      rcases List.mem_append.mp hrow with hrow | hrow
      · exact h.plain row hrow
      · exact List.mem_singleton.mp hrow ▸ hscope

/-! ### The maps of the page -/

lemma nodup_entries {ν : Type*} {rows : List ScopeRow} {f : ScopeRow → Option (String × ν)}
    (hrows : Sound rows) (hf : ∀ row row' e e', Plain row → Plain row' → f row = some e →
      f row' = some e' → e.1 = e'.1 → scopeId row = scopeId row') :
    ((rows.filterMap f).map Prod.fst).Nodup := by
  rw [List.nodup_iff_pairwise_ne, List.pairwise_map, List.pairwise_filterMap]
  have hpair := hrows.distinct
  rw [List.nodup_iff_pairwise_ne, List.pairwise_map] at hpair
  refine hpair.imp_of_mem ?_
  intro row row' hrow hrow' hne e he e' he' heq
  exact hne (hf row row' e e' (hrows.plain row hrow) (hrows.plain row' hrow') he he' heq)

lemma agentEntry_eq_some {row : ScopeRow} {e : String × Bool} :
    agentEntry row = some e ↔ row.projectName = none ∧ e = (row.agentId, row.enabled) := by
  unfold agentEntry
  cases row.projectName <;> simp [eq_comm]

lemma serviceEntry_eq_some {row : ScopeRow} {e : String × ServiceScope} :
    serviceEntry row = some e ↔ ∃ p s, row.projectName = some p ∧ row.serviceName = some s ∧
      e = (scopeKey row.agentId p s, ⟨row.agentId, p, s, row.enabled⟩) := by
  unfold serviceEntry
  cases row.projectName <;> cases row.serviceName <;> simp [eq_comm]

lemma agentEntries_nodup {rows : List ScopeRow} (h : Sound rows) :
    ((rows.filterMap agentEntry).map Prod.fst).Nodup := by
  refine nodup_entries h ?_
  intro row row' e e' hplain hplain' he he' heq
  obtain ⟨hproject, rfl⟩ := agentEntry_eq_some.mp he
  obtain ⟨hproject', rfl⟩ := agentEntry_eq_some.mp he'
  have hservice : row.serviceName = none := by
    rcases hplain.named with ⟨-, h⟩ | ⟨p, s, hp, -⟩
    · exact h
    · rw [hproject] at hp
      cases hp
  have hservice' : row'.serviceName = none := by
    rcases hplain'.named with ⟨-, h⟩ | ⟨p, s, hp, -⟩
    · exact h
    · rw [hproject'] at hp
      cases hp
  have hagent : row.agentId = row'.agentId := heq
  rw [scopeId, scopeId, hproject, hproject', hservice, hservice', hagent]

lemma Plain.project {row : ScopeRow} (h : Plain row) {p : String} (hp : row.projectName = some p) :
    Json.hasNul p = false := by
  rcases h.named with ⟨hnone, -⟩ | ⟨p', s, hp', -, hplain⟩
  · rw [hnone] at hp
    cases hp
  · rw [hp] at hp'
    exact Option.some.inj hp' ▸ hplain

lemma serviceEntries_nodup {rows : List ScopeRow} (h : Sound rows) :
    ((rows.filterMap serviceEntry).map Prod.fst).Nodup := by
  refine nodup_entries h ?_
  intro row row' e e' hplain hplain' he he' heq
  obtain ⟨p, s, hp, hs, rfl⟩ := serviceEntry_eq_some.mp he
  obtain ⟨p', s', hp', hs', rfl⟩ := serviceEntry_eq_some.mp he'
  obtain ⟨hagent, rfl, rfl⟩ := scopeKey_inj hplain.agent hplain'.agent (hplain.project hp)
    (hplain'.project hp') heq
  rw [scopeId, scopeId, hp, hp', hs, hs', hagent]

lemma agentEnabled_eq_false {rows : List ScopeRow} (h : Sound rows) {agentId : String} :
    agentEnabled rows agentId = false ↔
      ∃ row ∈ rows, row.agentId = agentId ∧ row.projectName = none ∧ row.enabled = false := by
  have hflag := JsMap.flag_eq_false (agentEntries_nodup h) (k := agentId) (f := id)
  rw [Option.map_id, id] at hflag
  unfold agentEnabled agentScopes
  rw [hflag]
  constructor
  · rintro ⟨enabled, hentry, hfalse⟩
    obtain ⟨row, hrow, he⟩ := List.mem_filterMap.mp hentry
    obtain ⟨hproject, he⟩ := agentEntry_eq_some.mp he
    obtain ⟨rfl, rfl⟩ := Prod.mk.inj he
    exact ⟨row, hrow, rfl, hproject, hfalse⟩
  · rintro ⟨row, hrow, rfl, hproject, hfalse⟩
    exact ⟨row.enabled, List.mem_filterMap.mpr
      ⟨row, hrow, agentEntry_eq_some.mpr ⟨hproject, rfl⟩⟩, hfalse⟩

lemma directEnabled_eq_false {rows : List ScopeRow} (h : Sound rows) {a p s : String}
    (ha : Json.hasNul a = false) (hp : Json.hasNul p = false) :
    directEnabled rows a p s = false ↔ ∃ row ∈ rows, row.agentId = a ∧ row.projectName = some p ∧
      row.serviceName = some s ∧ row.enabled = false := by
  unfold directEnabled serviceScopes
  rw [JsMap.flag_eq_false (serviceEntries_nodup h)]
  constructor
  · rintro ⟨scope, hentry, hfalse⟩
    obtain ⟨row, hrow, he⟩ := List.mem_filterMap.mp hentry
    obtain ⟨p', s', hp', hs', he⟩ := serviceEntry_eq_some.mp he
    obtain ⟨hkey, rfl⟩ := Prod.mk.inj he
    obtain ⟨rfl, rfl, rfl⟩ := scopeKey_inj ha (h.plain row hrow).agent hp
      ((h.plain row hrow).project hp') hkey
    exact ⟨row, hrow, rfl, hp', hs', hfalse⟩
  · rintro ⟨row, hrow, rfl, hproject, hservice, hfalse⟩
    exact ⟨_, List.mem_filterMap.mpr
      ⟨row, hrow, serviceEntry_eq_some.mpr ⟨p, s, hproject, hservice, rfl⟩⟩, hfalse⟩

/-! ### What the page shows -/

/-- What is shown for a service is what its agent's scope and its own say. -/
def Shows (rows : List ScopeRow) (agentId : String) (item : NotificationServicePreference) : Prop :=
  Json.hasNul item.projectName = false ∧ item.enabled =
    (agentEnabled rows agentId && directEnabled rows agentId item.projectName item.serviceName)

lemma fromScope_shows {rows : List ScopeRow} (h : Sound rows) {scope : ServiceScope}
    (hscope : scope ∈ (serviceScopes rows).values) :
    Shows rows scope.agentId (fromScope rows scope) := by
  obtain ⟨⟨key, _⟩, hmem, rfl⟩ := List.mem_map.mp hscope
  have hget := JsMap.get_of_mem (m := serviceScopes rows)
    (by rw [serviceScopes, JsMap.ofEntries_eq (serviceEntries_nodup h)]
        exact serviceEntries_nodup h) hmem
  rw [serviceScopes, JsMap.ofEntries_eq (serviceEntries_nodup h)] at hmem
  obtain ⟨row, hrow, he⟩ := List.mem_filterMap.mp hmem
  obtain ⟨p, s, hp, -, he⟩ := serviceEntry_eq_some.mp he
  obtain ⟨rfl, rfl⟩ := Prod.mk.inj he
  refine ⟨(h.plain row hrow).project hp, ?_⟩
  have hdirect : directEnabled rows row.agentId p s = row.enabled := by
    rw [directEnabled, hget]
    rfl
  rw [fromScope, hdirect]

lemma servicesOf_shows {rows : List ScopeRow} (h : Sound rows)
    {services : List (String × Service)} {agentId : String}
    (hservices : ∀ row ∈ services, Json.hasNul row.2.projectName = false) :
    ∀ item ∈ (servicesOf rows services agentId).values, Shows rows agentId item := by
  unfold servicesOf
  refine List.foldlRecOn (motive := fun m => ∀ item ∈ JsMap.values m, Shows rows agentId item)
    _ _ ?_ ?_
  · refine List.foldlRecOn (motive := fun m => ∀ item ∈ JsMap.values m, Shows rows agentId item)
      _ _ ?_ ?_
    · intro item hitem
      cases hitem
    · intro m hm row hrow item hitem
      rcases JsMap.mem_values_set hitem with hitem | rfl
      · exact hm item hitem
      · exact ⟨hservices row (List.mem_filter.mp hrow).1, rfl⟩
  · intro m hm scope hscope item hitem
    obtain ⟨hscope, hagent⟩ := List.mem_filter.mp hscope
    dsimp only at hitem
    split at hitem
    · exact hm item hitem
    · rcases JsMap.mem_values_set hitem with hitem | rfl
      · exact hm item hitem
      · exact of_decide_eq_true hagent ▸ fromScope_shows h hscope

lemma take_of_not_truncated {α : Type*} {l : List α} {n : ℕ} (h : ¬ n < (l.take (n + 1)).length) :
    (l.take (n + 1)).take n = l := by
  rw [List.length_take] at h
  rw [List.take_take, List.take_of_length_le]
  omega

/-- Where the values of an agent on the page come from. -/
structure Shown (s : Store) (agent : NotificationAgentPreference) (rows : List ScopeRow) : Prop where
  known : ∃ a ∈ s.agents, a.id = agent.id
  queried : ∃ ids : List String, agent.id ∈ ids ∧
    rows.Perm (s.hub.scopes.filter fun scope => ids.contains scope.agentId)
  enabled : agent.enabled = agentEnabled rows agent.id
  services : ∃ services : List (String × Service), (∀ row ∈ services, row.2 ∈ s.telemetry row.1) ∧
    agent.services = (servicesOf rows services agent.id).values

lemma exists_shown {limits : Limits} {listing : Listing} {s : Store} {only : Option String}
    (htruncated : (getNotificationTopology limits listing s only).truncated.scopes = false)
    {agent : NotificationAgentPreference}
    (hagent : agent ∈ (getNotificationTopology limits listing s only).agents) :
    ∃ rows, Shown s agent rows := by
  obtain ⟨row, hrow, rfl⟩ := List.mem_map.mp hagent
  refine ⟨_, ⟨row, ?_, rfl⟩, ⟨_, List.mem_map_of_mem (f := AgentRow.id) hrow, ?_⟩, rfl, _, ?_, rfl⟩
  · have hmem := (listing.agents_perm _).subset (List.mem_of_mem_take (List.mem_of_mem_take hrow))
    exact (List.mem_filter.mp hmem).1
  · rw [take_of_not_truncated (of_decide_eq_false htruncated)]
    exact listing.scopes_perm _
  · intro service hservice
    have hmem := (listing.services_perm _).subset
      (List.mem_of_mem_take (List.mem_of_mem_take hservice))
    obtain ⟨id, -, hid⟩ := List.mem_flatMap.mp hmem
    obtain ⟨service', hservice', rfl⟩ := List.mem_map.mp hid
    exact hservice'

/-! ### What is decided -/

/-- Telegram is configured and the event's type is selected. -/
def selects (hub : Hub) (e : Event) : Bool :=
  hub.settings.any fun settings =>
    settings.secrets.isSome && settings.selectedEvents.contains e.type

/-- The rows of an agent are those of the table. -/
def Covers (rows scopes : List ScopeRow) (agentId : String) : Prop :=
  ∀ row : ScopeRow, row.agentId = agentId → (row ∈ rows ↔ row ∈ scopes)

lemma agentScope_any {rows scopes : List ScopeRow} {agentId : String} (h : Sound rows)
    (hcovers : Covers rows scopes agentId) :
    (scopes.any fun row => some row.agentId == some agentId && row.projectName.isNone &&
      !row.enabled) = !agentEnabled rows agentId := by
  rw [Bool.eq_iff_iff, Bool.not_eq_true', agentEnabled_eq_false h, List.any_eq_true]
  constructor
  · rintro ⟨row, hrow, hwhere⟩
    simp only [Option.some_beq_some, Bool.and_eq_true, beq_iff_eq, Option.isNone_iff_eq_none,
      Bool.not_eq_true'] at hwhere
    obtain ⟨⟨hid, hproject⟩, hdisabled⟩ := hwhere
    exact ⟨row, (hcovers row hid).mpr hrow, hid, hproject, hdisabled⟩
  · rintro ⟨row, hrow, hid, hproject, hdisabled⟩
    exact ⟨row, (hcovers row hid).mp hrow, by simp [hid, hproject, hdisabled]⟩

lemma serviceScope_any {rows scopes : List ScopeRow} {a p s : String} (h : Sound rows)
    (hcovers : Covers rows scopes a) (ha : Json.hasNul a = false) (hp : Json.hasNul p = false) :
    (scopes.any fun row => some row.agentId == some a && row.projectName.isSome &&
      row.projectName == some p && row.serviceName == some s && !row.enabled) =
      !directEnabled rows a p s := by
  rw [Bool.eq_iff_iff, Bool.not_eq_true', directEnabled_eq_false h ha hp, List.any_eq_true]
  constructor
  · rintro ⟨row, hrow, hwhere⟩
    simp only [Option.some_beq_some, Bool.and_eq_true, beq_iff_eq, Bool.not_eq_true'] at hwhere
    obtain ⟨⟨⟨⟨hid, -⟩, hproject⟩, hservice⟩, hdisabled⟩ := hwhere
    exact ⟨row, (hcovers row hid).mpr hrow, hid, hproject, hservice, hdisabled⟩
  · rintro ⟨row, hrow, hid, hproject, hservice, hdisabled⟩
    exact ⟨row, (hcovers row hid).mp hrow, by simp [hid, hproject, hservice, hdisabled]⟩

/-- Of an agent's event without a service its scope decides. -/
lemma wanted_agent {hub : Hub} {e : Event} {rows : List ScopeRow} {a : String} (h : Sound rows)
    (hcovers : Covers rows hub.scopes a) (hselects : selects hub e = true)
    (hagent : e.agentId = some a) (hservice : e.serviceName = none) :
    wanted hub e = agentEnabled rows a := by
  unfold selects at hselects
  rw [wanted, hselects, hagent, hservice, agentScope_any h hcovers]
  simp

lemma wanted_service {hub : Hub} {e : Event} {rows : List ScopeRow} {a p s : String}
    (h : Sound rows) (hcovers : Covers rows hub.scopes a) (hselects : selects hub e = true)
    (ha : Json.hasNul a = false) (hp : Json.hasNul p = false) (hagent : e.agentId = some a)
    (hproject : e.projectName = some p) (hservice : e.serviceName = some s) :
    wanted hub e = (agentEnabled rows a && directEnabled rows a p s) := by
  unfold selects at hselects
  rw [wanted, hselects, hagent, hproject, hservice, agentScope_any h hcovers,
    serviceScope_any h hcovers ha hp]
  simp

/-! ### Reached stores -/

structure Inv (s : Store) : Prop where
  scopes : Sound s.hub.scopes
  agents : ∀ a ∈ s.agents, Json.hasNul a.id = false
  telemetry : ∀ id, ∀ service ∈ s.telemetry id, Json.hasNul service.projectName = false

lemma inv_empty : Inv {} where
  scopes := ⟨List.nodup_nil, by simp⟩
  agents := by simp
  telemetry := by simp

lemma Inv.hasAgent {s : Store} (h : Inv s) {agentId : String} (hagent : s.hasAgent agentId = true) :
    Json.hasNul agentId = false := by
  obtain ⟨a, ha, hid⟩ := List.any_eq_true.mp hagent
  rw [Bool.and_eq_true, decide_eq_true_eq] at hid
  exact hid.1 ▸ h.agents a ha

lemma Inv.putScope {s : Store} {scope : ScopeRow} (h : Inv s) (hscope : Plain scope) :
    Inv (s.putScope scope) := ⟨h.scopes.upsertScope hscope, h.agents, h.telemetry⟩

variable {limits : Limits} {listing : Listing}

lemma inv_setAgent {s : Store} (h : Inv s) (agentId : String) (enabled : Bool) :
    Inv (setAgentNotificationPreference limits listing s agentId enabled).1 := by
  unfold setAgentNotificationPreference
  split
  · next hagent => exact h.putScope ⟨h.hasAgent hagent, .inl ⟨rfl, rfl⟩⟩
  · exact h

lemma inv_setService {s : Store} (h : Inv s) (agentId p n : String) (enabled : Bool) :
    Inv (((setServiceNotificationPreference limits listing s agentId p n enabled).map
      Prod.fst).getD s) := by
  unfold setServiceNotificationPreference
  split
  · exact h
  · next hnul =>
    rw [Bool.or_eq_true, not_or, Bool.not_eq_true] at hnul
    split
    · next hguard =>
      rw [Bool.and_eq_true] at hguard
      exact h.putScope ⟨h.hasAgent hguard.1, .inr ⟨p, n, rfl, rfl, hnul.1⟩⟩
    · exact h

lemma inv_step {s : Store} (h : Inv s) (c : Step) : Inv (step limits listing s c) := by
  cases c with
  | createAgent agent =>
    dsimp only [step]
    split
    · exact h
    · next hguard =>
      rw [Bool.or_eq_true, not_or, Bool.not_eq_true] at hguard
      refine ⟨h.scopes, ?_, h.telemetry⟩
      intro a ha
      rcases List.mem_append.mp ha with ha | ha
      · exact h.agents a ha
      · exact List.mem_singleton.mp ha ▸ hguard.1
  | archiveAgent id =>
    refine ⟨h.scopes, ?_, h.telemetry⟩
    intro a ha
    obtain ⟨a', ha', rfl⟩ := List.mem_map.mp ha
    split
    · exact h.agents a' ha'
    · exact h.agents a' ha'
  | deleteAgent id =>
    dsimp only [step]
    split
    · exact h
    · exact ⟨h.scopes, fun a ha => h.agents a (List.mem_filter.mp ha).1, h.telemetry⟩
  | recordTelemetry agentId services =>
    dsimp only [step]
    split
    · exact h
    · next hguard =>
      refine ⟨h.scopes, h.agents, ?_⟩
      intro id service hservice
      dsimp only at hservice
      by_cases hid : id = agentId
      · subst hid
        rw [Function.update_self] at hservice
        by_contra hnul
        rw [Bool.not_eq_false] at hnul
        exact hguard (List.any_eq_true.mpr ⟨service, hservice, by rw [hnul, Bool.true_or]⟩)
      · rw [Function.update_of_ne hid] at hservice
        exact h.telemetry id service hservice
  | setSettings settings => exact ⟨h.scopes, h.agents, h.telemetry⟩
  | setAgent agentId enabled => exact inv_setAgent h agentId enabled
  | setService agentId p n enabled => exact inv_setService h agentId p n enabled

def run (limits : Limits) (listing : Listing) (steps : List Step) : Store :=
  steps.foldl (step limits listing) {}

lemma inv_run (steps : List Step) : Inv (run limits listing steps) := by
  have hfold : ∀ s, Inv s → Inv (steps.foldl (step limits listing) s) := by
    induction steps with
    | nil => exact fun s hs => hs
    | cons c steps ih => exact fun s hs => ih _ (inv_step hs c)
  exact hfold {} inv_empty

/-! ### The page and the outbox -/

lemma Shown.covers {s : Store} {agent : NotificationAgentPreference} {rows : List ScopeRow}
    (h : Shown s agent rows) : Covers rows s.hub.scopes agent.id := by
  obtain ⟨ids, hids, hperm⟩ := h.queried
  rintro row hrow
  rw [hperm.mem_iff, List.mem_filter, hrow, and_iff_left (List.contains_iff_mem.mpr hids)]

lemma Shown.sound {s : Store} {agent : NotificationAgentPreference} {rows : List ScopeRow}
    (h : Shown s agent rows) (hs : Inv s) : Sound rows := by
  obtain ⟨ids, -, hperm⟩ := h.queried
  exact (hs.scopes.sublist List.filter_sublist).perm hperm

/-- What is decided for an event while these are the scopes, when it is queued and when it is
sent. -/
structure Decided (scopes : List ScopeRow) (e : Event) (enabled : Bool) : Prop where
  queued : ∀ hub hub' fresh, hub.scopes = scopes → selects hub e = true →
    enqueueEvent hub fresh e = some hub' → hub'.deliveries.rows = hub.deliveries.rows ++
      if enabled then [⟨fresh.deliveryId, fresh.eventId, .pending, 0, hub.now, none, none, none,
        hub.now⟩] else []
  sent : ∀ hub d, hub.scopes = scopes → selects hub e = true → d.event = e →
    isNotificationDeliveryEnabled hub d = enabled

lemma decided_of_wanted {scopes : List ScopeRow} {e : Event} {enabled : Bool}
    (h : ∀ hub : Hub, hub.scopes = scopes → selects hub e = true → wanted hub e = enabled) :
    Decided scopes e enabled where
  queued := by
    intro hub hub' fresh hscopes hselects henqueue
    unfold enqueueEvent at henqueue
    obtain ⟨events, -, henqueue⟩ := Option.bind_eq_some_iff.mp henqueue
    rw [h hub hscopes hselects] at henqueue
    cases enabled with
    | false =>
      obtain rfl := Option.some.inj henqueue
      exact (List.append_nil _).symm
    | true =>
      obtain ⟨deliveries, hinsert, henqueue⟩ := Option.bind_eq_some_iff.mp henqueue
      obtain rfl := Option.some.inj henqueue
      exact Table.rows_insert hinsert
  sent := by
    rintro hub d hscopes hselects rfl
    exact h hub hscopes hselects

/-- Of every agent on a page whose scopes are all there, each service's value and the agent's own
are what is decided for their events. -/
theorem shown_is_decided (limits : Limits) (listing : Listing) (steps : List Step)
    (only : Option String)
    (hall : (getNotificationTopology limits listing (run limits listing steps)
      only).truncated.scopes = false)
    (agent : NotificationAgentPreference)
    (hagent : agent ∈ (getNotificationTopology limits listing (run limits listing steps)
      only).agents)
    (e : Event) (hid : e.agentId = some agent.id) :
    (∀ service ∈ agent.services, e.projectName = some service.projectName →
      e.serviceName = some service.serviceName →
        Decided (run limits listing steps).hub.scopes e service.enabled) ∧
    (e.serviceName = none → Decided (run limits listing steps).hub.scopes e agent.enabled) := by
  have hinv : Inv (run limits listing steps) := inv_run steps
  obtain ⟨rows, hshown⟩ := exists_shown hall hagent
  have hsound := hshown.sound hinv
  have hcovers := hshown.covers
  obtain ⟨a, ha, hagentId⟩ := hshown.known
  have hplain : Json.hasNul agent.id = false := hagentId ▸ hinv.agents a ha
  constructor
  · intro service hservice hproject hname
    obtain ⟨services, htelemetry, hservices⟩ := hshown.services
    obtain ⟨hprojectPlain, henabled⟩ := servicesOf_shows hsound
      (fun row hrow => hinv.telemetry row.1 row.2 (htelemetry row hrow)) service (hservices ▸ hservice)
    refine decided_of_wanted fun hub hscopes hselects => ?_
    rw [henabled]
    exact wanted_service hsound (hscopes ▸ hcovers) hselects hplain hprojectPlain hid hproject hname
  · intro hname
    refine decided_of_wanted fun hub hscopes hselects => ?_
    rw [hshown.enabled]
    exact wanted_agent hsound (hscopes ▸ hcovers) hselects hid hname

def asStored : Listing :=
  ⟨id, fun _ => .refl _, id, fun _ => .refl _, id, fun _ => .refl _⟩

def silenced : List Step :=
  [.createAgent ⟨"a", "Shop", false⟩, .recordTelemetry "a" [⟨"shop", "web", "running"⟩],
    .setService "a" "shop" "web" false]

/-- A service that has been silenced. -/
theorem shown_is_decided_silenced :
    Decided (run {} asStored silenced).hub.scopes
      { type := "service.stopped", agentId := some "a", projectName := some "shop",
        serviceName := some "web" } false :=
  (shown_is_decided {} asStored silenced none (by decide)
    ⟨"a", "Shop", true, [⟨"shop", "web", "running", true, false, false, false⟩]⟩ (.head _)
    _ rfl).1 ⟨"shop", "web", "running", true, false, false, false⟩ (.head _) rfl rfl

end GatewayControl.TopologyDecisions
