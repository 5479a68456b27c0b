import Mathlib.Algebra.Group.Nat.Even
import GatewayControl.AgentPresence

/-!
The offline and recovered events of an agent, beside its offline mark: every call changes
the two in one of seven ways.
-/

namespace GatewayControl.AgentContact

open Database (Time Event)
open AgentPresence

/-! ### Alternating lists -/

/-- `a, b, a, b, ...` -/
def Alternates {α : Type} (a b : α) : List α → Prop
  | [] => True
  | x :: xs => x = a ∧ Alternates b a xs

lemma alternates_snoc {α : Type} {a b : α} {xs : List α} (h : Alternates a b xs) :
    Alternates a b (xs ++ [if Even xs.length then a else b]) := by
  induction xs generalizing a b with
  | nil => simp [Alternates]
  | cons x xs ih =>
    obtain ⟨rfl, hrest⟩ := h
    have hnext := ih hrest
    refine ⟨rfl, ?_⟩
    by_cases heven : Even xs.length <;> simpa [heven, Nat.even_add_one] using hnext

/-! ### What a call does to one agent -/

def announces (id : String) (e : Event) : Bool :=
  e.agentId = some id && (e.type = "agent.offline" || e.type = "agent.recovered")

/-- The offline and recovered events of an agent. -/
def contact (id : String) (events : List Event) : List String :=
  (events.filter (announces id)).map (·.type)

/-- Whether an agent is enabled, and whether it is reported offline. -/
def mark (db : Registry) (id : String) : Option (Bool × Bool) :=
  (db.agents.find? id).map fun a => (a.enabled, a.offlineDetectedAt.isSome)

/-- An agent's mark and events before and after a call. -/
inductive Change (id : String) (c : Call) :
    Option (Bool × Bool) → List String → Option (Bool × Bool) → List String → Prop
  | same (m : Option (Bool × Bool)) (es : List String) : Change id c m es m es
  | offline (es : List String) :
      Change id c (some (true, false)) es (some (true, true)) (es ++ ["agent.offline"])
  | recovered (e : Bool) (es : List String) :
      Change id c (some (e, true)) es (some (e, false)) (es ++ ["agent.recovered"])
  | telemetry (e : Bool) (es : List String) (h : c.telemetryOf = some id) :
      Change id c (some (e, true)) es (some (e, false)) es
  | archived (m : Bool × Bool) (es : List String) :
      Change id c (some m) es (some (false, false)) es
  | created (es : List String) : Change id c none es (some (true, false)) es
  | deleted (m : Bool × Bool) : Change id c (some m) [] none []

lemma contact_append (id : String) (es es' : List Event) :
    contact id (es ++ es') = contact id es ++ contact id es' := by
  simp [contact]

@[simp] lemma contact_nil (id : String) : contact id [] = [] := rfl

lemma contact_eq_nil {id : String} (es : List Event) (h : ∀ e ∈ es, announces id e = false) :
    contact id es = [] := by
  rw [contact, List.map_eq_nil_iff, List.filter_eq_nil_iff]
  intro e he
  rw [h e he]
  exact Bool.false_ne_true

/-- A report clears the mark of its agent. -/
lemma mark_clear (db : Registry) (id : String) {f : AgentRow → AgentRow}
    (hf : ∀ a, (f a).id = a.id) (henabled : ∀ a, (f a).enabled = a.enabled)
    (hclear : ∀ a, (f a).offlineDetectedAt = none) (i : String) :
    mark (db.updateAgents (·.id = id) f hf) i = (mark db i).map fun m =>
      (m.1, m.2 && decide (i ≠ id)) := by
  rw [mark, mark, Registry.updateAgents, Table.find?_update, Option.map_map, Option.map_map]
  rcases hi : db.agents.find? i with _ | a
  · rfl
  · obtain rfl := Table.key_find? hi
    by_cases heq : a.id = id <;> simp [heq, henabled, hclear]

lemma map_mark_ne {i id : String} (h : i ≠ id) (m : Option (Bool × Bool)) :
    (m.map fun m => (m.1, m.2 && decide (i ≠ id))) = m := by
  simp [h]

/-! ### Heartbeats -/

lemma observeConnector_frame {uuid : String → Option String} {agentId : String}
    {db db' : Registry} {entry : String × Json}
    (h : observeConnector uuid agentId db entry = some db') :
    db'.agents = db.agents ∧ db'.events = db.events ∧ db'.snapshots = db.snapshots := by
  unfold observeConnector at h
  split at h
  · rcases hid : uuid entry.1 with _ | id
    · simp [hid] at h
    · rw [hid, Option.bind_eq_bind, Option.bind_some] at h
      obtain ⟨lastError, -, h⟩ := Option.bind_eq_some_iff.mp h
      obtain rfl := Option.some.inj h
      exact ⟨rfl, rfl, rfl⟩
  · cases h
  · obtain rfl := Option.some.inj h
    exact ⟨rfl, rfl, rfl⟩

lemma observeConnectors_frame {uuid : String → Option String} {agentId : String}
    {entries : List (String × Json)} {db db' : Registry}
    (h : entries.foldlM (observeConnector uuid agentId) db = some db') :
    db'.agents = db.agents ∧ db'.events = db.events ∧ db'.snapshots = db.snapshots := by
  induction entries generalizing db with
  | nil =>
    obtain rfl := Option.some.inj h
    exact ⟨rfl, rfl, rfl⟩
  | cons entry entries ih =>
    rw [List.foldlM_cons] at h
    obtain ⟨between, hfirst, hrest⟩ := Option.bind_eq_some_iff.mp h
    obtain ⟨hagents, hevents, hsnapshots⟩ := observeConnector_frame hfirst
    obtain ⟨hagents', hevents', hsnapshots'⟩ := ih hrest
    exact ⟨hagents'.trans hagents, hevents'.trans hevents, hsnapshots'.trans hsnapshots⟩

lemma heartbeatAgent_spec {uuid : String → Option String} {db db' : Registry} {now : Time}
    {id : String} {metadata : Json} (h : heartbeatAgent uuid db now id metadata = some db') :
    (∀ i, mark db' i = (mark db i).map fun m => (m.1, m.2 && decide (i ≠ id))) ∧
    db'.events = db.events ++ ((db.agents.find? id).filter
      (·.offlineDetectedAt.isSome)).toList.map (recoveredEvent id) := by
  unfold heartbeatAgent at h
  obtain ⟨stored, -, h⟩ := Option.bind_eq_some_iff.mp h
  obtain ⟨hagents, hevents, -⟩ := observeConnectors_frame h
  constructor
  · intro i
    rw [← mark_clear db _ (f := fun a => { a with
      lastHeartbeatAt := some now
      lastMetadata := some stored
      offlineDetectedAt := none }) (fun _ => rfl) (fun _ => rfl) (fun _ => rfl), mark, hagents]
    split <;> rfl
  · rw [hevents]
    split
    · next a ha => simp only [ha, Option.toList_some, List.map_singleton, Registry.enqueueEvent,
        Registry.updateAgents]
    · next hnone => simp only [hnone, Option.toList_none, List.map_nil, List.append_nil,
        Registry.updateAgents]

lemma heartbeatAgent_change {uuid : String → Option String} {db db' : Registry} {now : Time}
    {id : String} {metadata : Json} (h : heartbeatAgent uuid db now id metadata = some db')
    (c : Call) (i : String) :
    Change i c (mark db i) (contact i db.events) (mark db' i) (contact i db'.events) := by
  obtain ⟨hmark, hevents⟩ := heartbeatAgent_spec h
  rw [hmark, hevents, contact_append]
  by_cases heq : i = id
  · subst heq
    rcases hi : db.agents.find? i with _ | a
    · simp only [mark, hi, Option.map_none, Option.filter_none, Option.toList_none, List.map_nil,
        contact_nil, List.append_nil]
      exact .same _ _
    · by_cases hoff : a.offlineDetectedAt.isSome
      · have hself : contact i [recoveredEvent i a] = ["agent.recovered"] := by
          simp [contact, announces, recoveredEvent]
        simp only [mark, hi, Option.map_some, Option.filter_some, hoff, if_true,
          Option.toList_some, List.map_singleton, hself, ne_eq, not_true_eq_false,
          decide_false, Bool.and_false]
        exact .recovered _ _
      · rw [Bool.not_eq_true] at hoff
        simp only [mark, hi, Option.map_some, Option.filter_some, hoff, Bool.false_eq_true,
          if_false, Option.toList_none, List.map_nil, contact_nil, List.append_nil,
          Bool.false_and]
        exact .same _ _
  · have hother : ∀ e ∈ ((db.agents.find? id).filter
        (·.offlineDetectedAt.isSome)).toList.map (recoveredEvent id), announces i e = false := by
      intro e he
      obtain ⟨a, -, rfl⟩ := List.mem_map.mp he
      simp [announces, recoveredEvent, Ne.symm heq]
    rw [map_mark_ne heq, contact_eq_nil _ hother, List.append_nil]
    exact .same _ _

/-! ### Telemetry -/

lemma announces_serviceEvents {clock : Time} {agentId id : String} {previous : Option Service}
    {s : Service} {e : Event} (h : e ∈ serviceEvents clock agentId previous s) :
    announces id e = false := by
  have htype : e.type ∈ ["service.unhealthy", "service.stopped", "service.recovered",
      "certificate.expiring"] := by
    unfold serviceEvents at h
    simp only [List.mem_append] at h
    rcases h with ((h | h) | h) | h
    · split at h <;> simp_all
    · split at h <;> simp_all
    · split at h <;> simp_all
    · split at h
      · split at h <;> simp_all
      · simp at h
  unfold announces
  simp only [List.mem_cons, List.not_mem_nil, or_false] at htype
  rcases htype with h | h | h | h <;> simp [h]

lemma recordTelemetry_change {db db' : Registry} {now clock : Time} {agentId : String}
    {observedAt : Time} {node : Json} {services : List Service}
    (h : recordTelemetry db now clock agentId observedAt node services = some db')
    (i : String) :
    Change i (.recordTelemetry now clock agentId observedAt node services) (mark db i)
      (contact i db.events) (mark db' i) (contact i db'.events) := by
  unfold recordTelemetry at h
  obtain ⟨_, -, h⟩ := Option.bind_eq_some_iff.mp h
  obtain ⟨stored, -, h⟩ := Option.bind_eq_some_iff.mp h
  obtain rfl := Option.some.inj h
  have hmark := mark_clear db agentId
    (f := fun a => { a with lastTelemetryAt := some now, offlineDetectedAt := none })
    (fun _ => rfl) (fun _ => rfl) (fun _ => rfl) i
  have hafter : ∀ snapshots events, mark { db.updateAgents (·.id = agentId)
      (fun a => { a with lastTelemetryAt := some now, offlineDetectedAt := none })
      (fun _ => rfl) with snapshots, events } i = _ := fun _ _ => hmark
  rw [hafter, contact_append, contact_eq_nil (List.flatMap _ services) (by
    intro e he
    obtain ⟨s, -, he⟩ := List.mem_flatMap.mp he
    exact announces_serviceEvents he), List.append_nil]
  by_cases heq : i = agentId
  · subst heq
    rcases hm : mark db i with _ | ⟨e, off⟩
    · exact .same _ _
    · cases off with
      | false => simpa using Change.same _ _
      | true => simpa using Change.telemetry e _ rfl
  · rw [map_mark_ne heq]
    exact .same _ _

/-! ### The sweep -/

lemma contact_offline {id : String} {p : AgentRow → Bool} {rows : List AgentRow}
    (hrows : (rows.map AgentRow.id).Nodup) :
    contact id ((rows.filter p).map offlineEvent) =
      if (rows.find? (·.id = id)).any p then ["agent.offline"] else [] := by
  induction rows with
  | nil => rfl
  | cons a rows ih =>
    rw [List.map_cons, List.nodup_cons] at hrows
    have hself : contact a.id [offlineEvent a] = ["agent.offline"] := by
      simp [contact, announces, offlineEvent]
    by_cases heq : a.id = id
    · subst heq
      have hrest : contact a.id ((rows.filter p).map offlineEvent) = [] := by
        apply contact_eq_nil
        intro e he
        obtain ⟨b, hb, rfl⟩ := List.mem_map.mp he
        have hne : b.id ≠ a.id := fun hba =>
          hrows.1 (hba ▸ List.mem_map_of_mem (List.mem_of_mem_filter hb))
        simp [announces, offlineEvent, hne]
      rw [List.find?_cons_of_pos (by simp), Option.any_some]
      by_cases hp : p a
      · rw [List.filter_cons_of_pos hp, List.map_cons, ← List.singleton_append, contact_append,
          hself, hrest, if_pos hp]
        rfl
      · rw [List.filter_cons_of_neg hp, hrest, if_neg hp]
    · rw [List.find?_cons_of_neg (by simpa using heq), ← ih hrows.2]
      by_cases hp : p a
      · rw [List.filter_cons_of_pos hp, List.map_cons, ← List.singleton_append, contact_append,
          contact_eq_nil [_] (by simp [announces, offlineEvent, heq]), List.nil_append]
      · rw [List.filter_cons_of_neg hp]

lemma sweepOfflineAgents_change (db : Registry) (now offlineBefore : Time) (c : Call)
    (i : String) :
    Change i c (mark db i) (contact i db.events)
      (mark (sweepOfflineAgents db now offlineBefore) i)
      (contact i (sweepOfflineAgents db now offlineBefore).events) := by
  have hmark : mark (sweepOfflineAgents db now offlineBefore) i =
      (db.agents.find? i).map fun a =>
        (a.enabled, goneQuiet offlineBefore a || a.offlineDetectedAt.isSome) := by
    rw [mark, sweepOfflineAgents, Registry.updateAgents, Table.find?_update, Option.map_map]
    congr 1
    funext a
    by_cases hq : goneQuiet offlineBefore a <;> simp [hq]
  have hevents : contact i (sweepOfflineAgents db now offlineBefore).events =
      contact i db.events ++
        if (db.agents.find? i).any (goneQuiet offlineBefore) then ["agent.offline"] else [] := by
    rw [sweepOfflineAgents, contact_append, contact_offline db.agents.distinct]
    rfl
  rw [hmark, hevents, mark]
  rcases hi : db.agents.find? i with _ | a
  · rw [Option.any_none, if_neg (by simp), List.append_nil]
    exact .same _ _
  · by_cases hq : goneQuiet offlineBefore a
    · have hquiet := hq
      simp only [goneQuiet, Bool.and_eq_true, Option.isNone_iff_eq_none] at hquiet
      obtain ⟨⟨⟨henabled, -⟩, -⟩, hoff⟩ := hquiet
      simp only [Option.map_some, Option.any_some, hq, Bool.true_or, henabled, hoff, if_true,
        Option.isSome_none]
      exact .offline _
    · rw [Bool.not_eq_true] at hq
      simp only [Option.map_some, Option.any_some, hq, Bool.false_eq_true, if_false,
        List.append_nil, Bool.false_or]
      exact .same _ _

/-! ### Agents come and go -/

lemma createAgent_change {db db' : Registry} {id name : String}
    (h : createAgent db id name = some db') (c : Call) (i : String) :
    Change i c (mark db i) (contact i db.events) (mark db' i) (contact i db'.events) := by
  obtain ⟨agents, hins, h⟩ := Option.bind_eq_some_iff.mp h
  obtain rfl := Option.some.inj h
  by_cases heq : i = id
  · subst heq
    have hnew : mark db i = none := by
      rw [mark, Table.find?_new hins]
      rfl
    have hrow : mark { db with agents } i = some (true, false) := by
      rw [mark, Table.find?_insert hins, if_pos rfl]
      rfl
    rw [hnew, hrow]
    exact .created _
  · have hsame : mark { db with agents } i = mark db i := by
      rw [mark, Table.find?_insert hins, if_neg heq]
      rfl
    rw [hsame]
    exact .same _ _

lemma enrollAgent_change (db : Registry) (now : Time) (id : String) (c : Call) (i : String) :
    Change i c (mark db i) (contact i db.events) (mark (enrollAgent db now id) i)
      (contact i (enrollAgent db now id).events) := by
  have hmark : mark (enrollAgent db now id) i = mark db i := by
    rw [mark, mark, enrollAgent, Registry.updateAgents, Table.find?_update, Option.map_map]
    congr 1
    funext a
    rw [Function.comp_apply]
    split <;> rfl
  rw [hmark]
  exact .same _ _

lemma removeAgent_change (db : Registry) (now : Time) (id : String) (blocked commands : Bool)
    (c : Call) (i : String) :
    Change i c (mark db i) (contact i db.events)
      (mark (removeAgent db now id blocked commands) i)
      (contact i (removeAgent db now id blocked commands).events) := by
  unfold removeAgent
  rcases hid : db.agents.find? id with _ | a
  · exact .same _ _
  dsimp only
  split_ifs with hkept hdelete
  · exact .same _ _
  · by_cases heq : i = id
    · subst heq
      have hnone : contact i db.events = [] := by
        apply contact_eq_nil
        intro e he
        simp only [Bool.and_eq_true, Bool.not_eq_true', Bool.or_eq_false_iff,
          List.any_eq_false, decide_eq_true_eq] at hdelete
        simp [announces, hdelete.2.2 e he]
      have hgone : mark { db with agents := db.agents.delete (·.id = i) } i = none := by
        simp [mark, Table.find?_delete, hid, Table.key_find? hid]
      rw [hgone, hnone, mark, hid]
      exact .deleted _
    · have hsame : mark { db with agents := db.agents.delete (·.id = id) } i = mark db i := by
        rw [mark, mark, Table.find?_delete]
        rcases hi : db.agents.find? i with _ | b
        · rfl
        · simp [Table.key_find? hi, heq]
      rw [hsame]
      exact .same _ _
  · by_cases heq : i = id
    · subst heq
      have hmark : mark db i = some (a.enabled, a.offlineDetectedAt.isSome) := by
        rw [mark, hid]
        rfl
      have harchived : mark (db.updateAgents (·.id = i)
          (fun a => { a with
            enabled := false
            archivedAt := some now
            offlineDetectedAt := none }) fun _ => rfl) i = some (false, false) := by
        simp [mark, Registry.updateAgents, Table.find?_update, hid, Table.key_find? hid]
      rw [hmark, harchived]
      exact .archived _ _
    · have hsame : mark (db.updateAgents (·.id = id)
          (fun a => { a with
            enabled := false
            archivedAt := some now
            offlineDetectedAt := none }) fun _ => rfl) i = mark db i := by
        rw [mark, mark, Registry.updateAgents, Table.find?_update]
        rcases hi : db.agents.find? i with _ | b
        · rfl
        · simp [Table.key_find? hi, heq]
      rw [hsame]
      exact .same _ _

/-- **What a call does to one agent.** -/
theorem perform_change {uuid : String → Option String} {db db' : Registry} {c : Call}
    (h : c.perform uuid db = some db') (i : String) :
    Change i c (mark db i) (contact i db.events) (mark db' i) (contact i db'.events) := by
  cases c with
  | createAgent id name => exact createAgent_change h _ i
  | enrollAgent now id =>
    obtain rfl := Option.some.inj h
    exact enrollAgent_change db now id _ i
  | removeAgent now id blocked commands =>
    obtain rfl := Option.some.inj h
    exact removeAgent_change db now id blocked commands _ i
  | heartbeatAgent now id metadata => exact heartbeatAgent_change h _ i
  | recordTelemetry now clock agentId observedAt node services =>
    exact recordTelemetry_change h i
  | sweepOfflineAgents now offlineBefore =>
    obtain rfl := Option.some.inj h
    exact sweepOfflineAgents_change db now offlineBefore _ i

/-! ### Runs -/

/-- Telemetry does not come from an agent that is reported offline. -/
def HeartbeatFirst (db : Registry) (c : Call) : Prop :=
  ∀ id, c.telemetryOf = some id → ∀ e, mark db id ≠ some (e, true)

/-- An agent's mark and the events it has so far. -/
structure Told (m : Option (Bool × Bool)) (es : List String) : Prop where
  alternates : Alternates "agent.offline" "agent.recovered" es
  offline : ∀ off, m = some (true, off) → (off = true ↔ ¬ Even es.length)
  enabled : m ≠ some (false, true)
  missing : m = none → es = []

lemma Told.step {id : String} {c : Call} {m m' : Option (Bool × Bool)} {es es' : List String}
    (h : Told m es) (hc : Change id c m es m' es')
    (hfirst : c.telemetryOf = some id → ∀ e, m ≠ some (e, true)) : Told m' es' := by
  cases hc with
  | same => exact h
  | offline =>
    have heven : Even es.length := by simpa using h.offline false rfl
    have hnext := alternates_snoc h.alternates
    rw [if_pos heven] at hnext
    refine ⟨hnext, fun off hoff => ?_, by simp, by simp⟩
    obtain rfl : true = off := by simpa using hoff
    simp [Nat.even_add_one, heven]
  | recovered e =>
    cases e with
    | false => exact absurd rfl h.enabled
    | true =>
      have hodd : ¬ Even es.length := (h.offline true rfl).mp rfl
      have hnext := alternates_snoc h.alternates
      rw [if_neg hodd] at hnext
      refine ⟨hnext, fun off hoff => ?_, by simp, by simp⟩
      obtain rfl : false = off := by simpa using hoff
      simpa [Nat.even_add_one] using hodd
  | telemetry e _ ht => exact absurd rfl (hfirst ht e)
  | archived => exact ⟨h.alternates, by simp, by simp, by simp⟩
  | created =>
    obtain rfl := h.missing rfl
    exact ⟨trivial, by simp, by simp, by simp⟩
  | deleted => exact ⟨trivial, by simp, by simp, by simp⟩

lemma Run.told {uuid : String → Option String} {db : Registry}
    (h : Run uuid HeartbeatFirst db) (id : String) : Told (mark db id) (contact id db.events) := by
  induction h with
  | start => exact ⟨trivial, by simp [mark], by simp [mark], fun _ => rfl⟩
  | call h hok hc ih => exact ih.step (perform_change hc id) (hok id)

/-- The events of an agent alternate, and whenever it is no longer reported offline and
still enabled, that was announced. -/
def Faithful (uuid : String → Option String) (ok : Registry → Call → Prop) : Prop :=
  ∀ db, Run uuid ok db → ∀ id,
    Alternates "agent.offline" "agent.recovered" (contact id db.events) ∧
    ∀ c db', ok db c → c.perform uuid db = some db' →
      mark db id = some (true, true) → mark db' id = some (true, false) →
      contact id db'.events = contact id db.events ++ ["agent.recovered"]

/-- **Offline and recovered alternate.** So it is in every run in which agents that are
reported offline send a heartbeat before they send telemetry. -/
theorem offline_recovered (uuid : String → Option String) : Faithful uuid HeartbeatFirst := by
  intro db h id
  refine ⟨(Run.told h id).alternates, fun c db' hok hc hbefore hafter => ?_⟩
  have hchange := perform_change hc id
  rw [hbefore, hafter] at hchange
  generalize contact id db.events = es, contact id db'.events = es' at hchange
  cases hchange with
  | recovered => rfl
  | telemetry _ _ ht => exact absurd hbefore (hok id ht true)

/-! ### Telemetry first -/

/-- Enrolled, heard of at time 0, found silent by the sweep three minutes later. -/
def silent : AgentRow :=
  { id := "agent", name := "edge", enrolledAt := some 0, lastHeartbeatAt := some 0,
    lastMetadata := some (.obj []), offlineDetectedAt := some 180001 }

def reported : Registry := { agents := .single silent, events := [offlineEvent silent] }

lemma run_reported : Run some (fun _ _ => True) reported := by
  have hcreate : Run some (fun _ _ => True)
      { agents := .single { id := "agent", name := "edge" } } :=
    .call (c := .createAgent "agent" "edge") .start trivial rfl
  have henroll := Run.call (c := .enrollAgent 0 "agent") hcreate trivial rfl
  have hbeat := Run.call (c := .heartbeatAgent 0 "agent" (.obj [])) henroll trivial rfl
  exact .call (c := .sweepOfflineAgents 180001 1) hbeat trivial rfl

/-- **A recovery nobody is told of.** The agent's heartbeats stopped and its telemetry goes
on: the next report clears the mark, and no event says so. -/
theorem recovery_unannounced : ¬ Faithful some fun _ _ => True := by
  intro h
  have htold := (h reported run_reported "agent").2
    (.recordTelemetry 180002 180002 "agent" 180002 (.obj []) []) _ trivial rfl rfl rfl
  cases htold

end GatewayControl.AgentContact
