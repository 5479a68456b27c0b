import GatewayControl.HostRuns
import GatewayControl.RouteSync

/-!
One agent's route syncs, one after the other, each failing or cut short anywhere: the files of
its dynamic directory are those of the routes that its syncs, in their order, come to.
-/

namespace GatewayControl.RouteDirectory

open Text AgentTypes AgentPayloads Programs Host RouteSync

/-! ### The system -/

structure RouteState where
  host : HostState Unit
  /-- The payload of the command being executed, if it was accepted. -/
  command : Option RouteSyncPayload := none
  /-- The syncs that took effect, and those of them before this command. -/
  history : List RouteSyncPayload := []
  before : List RouteSyncPayload := []

/-- A sync takes effect where its file is replaced or removed. -/
def RouteState.noted (s : RouteState) : (o : HostOp) → o.Res → List RouteSyncPayload
  | .rename _, .ok _ => s.history ++ s.command.toList
  | .remove _, .ok _ => s.history ++ s.command.toList
  | _, _ => s.history

structure Exec (links : String → String) (s : RouteState) (o : HostOp) (r : o.Res)
    (t : RouteState) : Prop where
  host : hostEffect links (fun _ _ _ _ => True) s.host o r t.host
  command : t.command = s.command
  history : t.history = s.noted o r
  before : t.before = s.before

variable (e : Executor) (links : String → String)

/-- Where the files of the routes are. -/
def Executor.directory : String := links e.traefikDynamicRoot

def Executor.path (name : String) : String := join (Executor.directory e links) name

/-- What goes on elsewhere on the host. -/
structure Elsewhere (s t : RouteState) : Prop where
  files : ∀ name, t.host.files (Executor.path e links name) =
    s.host.files (Executor.path e links name)
  temporary : t.host.temporary = s.host.temporary
  command : t.command = s.command
  history : t.history = s.history
  before : t.before = s.before

def routeSystem : System interface RouteState Unit CommandResult Unit where
  exec := fun _ => Exec links
  start := fun _ _ s p t => ∃ raw result, result.success = false ∧ result.error = "" ∧
    t = { s with command := (e.decode raw).toOption, before := s.history } ∧
    p = executeRouteSync e result raw
  environment := fun _ => Elsewhere e links
  crash := fun _ s t p => t = { s with host := s.host.crashed } ∧
    ∃ command now, p = .pure (interruptedResult command now)

/-- There is no file of a route yet. -/
def Initial (c : Config interface RouteState Unit CommandResult) : Prop :=
  (∀ name config, c.state.host.files (Executor.path e links name) ≠
    some (.regular (.route config))) ∧
    c.state.command = none ∧ c.state.history = [] ∧ c.state.before = [] ∧
    ∃ command now, c.thread () = .pure (interruptedResult command now)

/-! ### What holds throughout -/

/-- The files are those of the routes. -/
def Mirrors (routes : Routes) (s : RouteState) : Prop :=
  ∀ name config, s.host.files (Executor.path e links name) = some (.regular (.route config)) ↔
    ∃ id route, routes id = some route ∧ name = id ++ ".yaml" ∧ config = configuration id route

/-- A command takes effect at most once, and only as it was sent. -/
def Advanced (s : RouteState) : Prop :=
  s.history = s.before ∨ ∃ p, s.command = some p ∧ s.history = s.before ++ [p]

structure Inv (s : RouteState) : Prop where
  mirrors : Mirrors e links (replay s.history) s
  advanced : Advanced s
  accepted : ∀ p ∈ s.history ++ s.command.toList, connectorUUIDPattern p.routeId

def contract : Contract interface RouteState Unit where
  exec := fun _ => Exec links
  inv := Inv e links
  rely := fun _ => Elsewhere e links
  allowed := fun _ _ _ => True

variable {e links}

lemma lawful : (contract e links).Lawful where
  refl := fun _ _ => ⟨fun _ => rfl, rfl, rfl, rfl, rfl⟩
  trans := fun _ _ _ _ h h' => ⟨fun name => (h'.files name).trans (h.files name),
    h'.temporary.trans h.temporary, h'.command.trans h.command, h'.history.trans h.history,
    h'.before.trans h.before⟩

/-- While the files and the ghosts are the same. -/
lemma Inv.congr {s t : RouteState} (h : Inv e links s)
    (hfiles : ∀ name, t.host.files (Executor.path e links name) =
      s.host.files (Executor.path e links name))
    (hcommand : t.command = s.command) (hhistory : t.history = s.history)
    (hbefore : t.before = s.before) : Inv e links t where
  mirrors := fun name config => by
    rw [hfiles, hhistory]
    exact h.mirrors name config
  advanced := by
    unfold Advanced
    rw [hhistory, hbefore, hcommand]
    exact h.advanced
  accepted := by
    rw [hhistory, hcommand]
    exact h.accepted

/-! ### Files and names -/

lemma path_inj {name name' : String}
    (h : Executor.path e links name = Executor.path e links name') : name = name' := by
  unfold Executor.path join at h
  split at h
  · exact (String.append_right_inj _).mp h
  · exact (String.append_right_inj _).mp h

lemma applied_of_eq (routes : Routes) (p : RouteSyncPayload) {id : String}
    (h : id = toLower p.routeId) :
    applied routes p id = if p.enabled = some false then none else some (routeOf p) := by
  subst h
  exact Function.update_self ..

lemma applied_of_ne (routes : Routes) (p : RouteSyncPayload) {id : String}
    (h : id ≠ toLower p.routeId) : applied routes p id = routes id :=
  Function.update_of_ne h ..

/-- **Step lemma.** Replacing the file of a route by the one it should have. -/
lemma mirrors_applied {routes : Routes} {s t : RouteState} {p : RouteSyncPayload}
    (h : Mirrors e links routes s) (hid : connectorUUIDPattern p.routeId)
    {node : Option Node}
    (hnode : ∀ config, node = some (.regular (.route config)) ↔
      p.enabled ≠ some false ∧ config = buildTraefikConfiguration p)
    (hfiles : t.host.files = Function.update s.host.files
      (Executor.path e links (fileName p.routeId)) node) :
    Mirrors e links (applied routes p) t := by
  intro name config
  rw [hfiles]
  by_cases hname : name = fileName p.routeId
  · subst hname
    rw [Function.update_self, hnode]
    constructor
    · rintro ⟨henabled, rfl⟩
      exact ⟨toLower p.routeId, routeOf p, by rw [applied_of_eq _ _ rfl, if_neg henabled], rfl,
        build_eq hid⟩
    · rintro ⟨id, route, hroute, hname, rfl⟩
      obtain rfl : toLower p.routeId = id := (String.append_left_inj _).mp hname
      rw [applied_of_eq _ _ rfl] at hroute
      split_ifs at hroute with henabled
      obtain rfl := Option.some.inj hroute
      exact ⟨henabled, (build_eq hid).symm⟩
  · rw [Function.update_of_ne fun heq => hname (path_inj heq), h name config]
    refine exists_congr fun id => exists_congr fun route => and_congr_left ?_
    rintro ⟨rfl, -⟩
    rw [applied_of_ne]
    rintro rfl
    exact hname rfl

/-! ### Effects -/

def isStill : HostOp → Bool
  | .rename _ | .remove _ => false
  | _ => true

/-- What is said of the ghosts alone. -/
def Ghost (P : RouteState → Prop) : Prop :=
  ∀ s t : RouteState, t.command = s.command → t.history = s.history → t.before = s.before →
    P s → P t

variable {α : Type} {P : RouteState → Prop} {s t : RouteState}

lemma Ghost.stable (hP : Ghost P) : Stable (contract e links) () P :=
  fun s t _ _ hr h => hP s t hr.command hr.history hr.before h

lemma exec_still {o : HostOp} (ho : isStill o) {r : o.Res} (h : Exec links s o r t) :
    t.host.files = s.host.files ∧ t.history = s.history := by
  have hrename : ∀ path, o ≠ .rename path := by
    rintro path rfl
    cases ho
  have hremove : ∀ path, o ≠ .remove path := by
    rintro path rfl
    cases ho
  refine ⟨HostRuns.effect_files hrename hremove h.host, ?_⟩
  rw [h.history]
  cases o with
  | rename path => exact absurd rfl (hrename path)
  | remove path => exact absurd rfl (hremove path)
  | _ => rfl

lemma inv_still {o : HostOp} (ho : isStill o) {r : o.Res} (h : Exec links s o r t)
    (hs : Inv e links s) : Inv e links t := by
  obtain ⟨hfiles, hhistory⟩ := exec_still ho h
  exact hs.congr (fun name => by rw [hfiles]) h.command hhistory h.before

/-- The rule for a program that replaces and removes no file. -/
lemma triple_still {p : HostProg α} (hp : p.Only (isStill ·)) (hP : Ghost P) :
    Triple (contract e links) () P p fun _ => P := by
  refine triple_only hp hP.stable (fun _ _ _ _ _ => trivial) fun s o r t ho hi hs hexec => ?_
  exact ⟨inv_still ho hexec hi, fun j hj => absurd rfl hj,
    hP s t hexec.command (exec_still ho hexec).2 hexec.before hs⟩

/-! ### One command -/

variable {p : RouteSyncPayload}

/-- Nothing has happened yet. -/
def Ready (p : RouteSyncPayload) (s : RouteState) : Prop :=
  s.command = some p ∧ s.history = s.before

/-- The command has taken effect. -/
def Applied (p : RouteSyncPayload) (s : RouteState) : Prop :=
  s.command = some p ∧ s.history = s.before ++ [p]

lemma ghost_ready : Ghost (Ready p) := by
  rintro s t hcommand hhistory hbefore ⟨hc, hh⟩
  exact ⟨hcommand.trans hc, by rw [hhistory, hbefore, hh]⟩

lemma ghost_applied : Ghost (Applied p) := by
  rintro s t hcommand hhistory hbefore ⟨hc, hh⟩
  exact ⟨hcommand.trans hc, by rw [hhistory, hbefore, hh]⟩

/-- **Step lemma.** A change of the file of the command's route to what it should be. -/
lemma inv_effect {o : HostOp} {r : o.Res} {node : Option Node} (h : Exec links s o r t)
    (hs : Inv e links s) (hready : Ready p s) (hnoted : s.noted o r = s.history ++ s.command.toList)
    (hnode : ∀ config, node = some (.regular (.route config)) ↔
      p.enabled ≠ some false ∧ config = buildTraefikConfiguration p)
    (hfiles : t.host.files = Function.update s.host.files
      (Executor.path e links (fileName p.routeId)) node) :
    Inv e links t ∧ Applied p t := by
  obtain ⟨hcommand, hbefore⟩ := hready
  have hhistory : t.history = s.history ++ [p] := by
    rw [h.history, hnoted, hcommand]
    rfl
  have hid : connectorUUIDPattern p.routeId := by
    refine hs.accepted p (List.mem_append_right _ ?_)
    rw [hcommand]
    exact List.mem_singleton_self p
  have happlied : Applied p t :=
    ⟨h.command.trans hcommand, by rw [hhistory, h.before, hbefore]⟩
  refine ⟨⟨?_, Or.inr ⟨p, happlied⟩, ?_⟩, happlied⟩
  · rw [hhistory, replay_append]
    exact mirrors_applied hs.mirrors hid hnode hfiles
  · intro q hq
    rw [hhistory, h.command] at hq
    rcases List.mem_append.mp hq with hq | hq
    · rcases List.mem_append.mp hq with hq | hq
      · exact hs.accepted q (List.mem_append_left _ hq)
      · rw [List.mem_singleton.mp hq]
        exact hid
    · exact hs.accepted q (List.mem_append_right _ hq)

/-- The new file has been written beside the one it will replace. -/
def Staged (p : RouteSyncPayload) (s : RouteState) : Prop :=
  Ready p s ∧ s.host.temporary = some (.route (buildTraefikConfiguration p))

lemma stable_staged : Stable (contract e links) () (Staged p) :=
  fun _ _ _ _ hr h => ⟨ghost_ready _ _ hr.command hr.history hr.before h.1,
    hr.temporary.trans h.2⟩

/-- What is left when a step before the end fails. -/
def Left (p : RouteSyncPayload) (s : RouteState) : Prop := Ready p s ∨ Applied p s

lemma ghost_left : Ghost (Left p) := fun s t hc hh hb h =>
  h.imp (ghost_ready s t hc hh hb) (ghost_applied s t hc hh hb)

lemma stable_result {K : Unit → RouteState → Prop} (hK : ∀ a, Stable (contract e links) () (K a))
    (r : Except String Unit) : Stable (contract e links) () (Outcome K (fun _ => Left p) r) := by
  cases r with
  | ok a => exact hK a
  | error _ => exact ghost_left.stable

/-- A step that changes no file, before or after the sync has taken effect. -/
lemma still_triple (hP : Ghost P) (hleft : ∀ s, P s → Left p s)
    {q : HostProg (Except String Unit)} (hq : q.Only (isStill ·)) :
    Triple (contract e links) () P q (Outcome (fun _ => P) fun _ => Left p) := by
  refine triple_conseq (triple_still hq hP) (fun _ _ h => h) ?_
  rintro (_ | _) s - h
  · exact hleft s h
  · exact h

lemma stage_triple {directory : String} :
    Triple (contract e links) () (Ready p)
      (eff (.writeTemporary directory (.route (buildTraefikConfiguration p))))
      (Outcome (fun _ => Staged p) fun _ => Left p) := by
  refine triple_perform ghost_ready.stable (stable_result fun _ => stable_staged)
    (fun _ _ _ => trivial) ?_
  intro s r t hi hs hexec
  have hready := ghost_ready s t hexec.command (exec_still rfl hexec).2 hexec.before hs
  refine ⟨inv_still rfl hexec hi, fun j hj => absurd rfl hj, ?_⟩
  rcases hexec.host with ⟨rfl, hhost⟩ | ⟨⟨err, rfl⟩, -⟩
  · refine ⟨hready, ?_⟩
    rw [hhost]
  · exact Or.inl hready

lemma rename_triple (henabled : p.enabled ≠ some false) :
    Triple (contract e links) () (Staged p)
      (eff (.rename (Executor.path e links (fileName p.routeId))))
      (Outcome (fun _ => Applied p) fun _ => Left p) := by
  refine triple_perform stable_staged (stable_result fun _ => ghost_applied.stable)
    (fun _ _ _ => trivial) ?_
  rintro s r t hi ⟨hready, htemporary⟩ hexec
  rcases hexec.host with ⟨rfl, hhost⟩ | ⟨⟨err, rfl⟩, hhost⟩
  · have hfiles : t.host.files = Function.update s.host.files
        (Executor.path e links (fileName p.routeId))
        (some (.regular (.route (buildTraefikConfiguration p)))) := by
      rw [hhost, HostState.renamed, htemporary]
    obtain ⟨hinv, happlied⟩ := inv_effect hexec hi hready rfl (fun config => by
      simp [henabled, eq_comm]) hfiles
    exact ⟨hinv, fun j hj => absurd rfl hj, happlied⟩
  · have hsame : t.history = s.history := hexec.history
    refine ⟨hi.congr (fun name => by rw [hhost]) hexec.command hsame hexec.before,
      fun j hj => absurd rfl hj, Or.inl ?_⟩
    exact ghost_ready s t hexec.command hsame hexec.before hready

lemma write_triple (henabled : p.enabled ≠ some false) :
    Triple (contract e links) () (Ready p)
      (writeFileAtomically (Executor.directory e links) (fileName p.routeId)
        (.route (buildTraefikConfiguration p))).run
      (Outcome (fun _ => Applied p) fun _ => Left p) := by
  have hleft (_ : String) : Stable (contract e links) () (Left p) := ghost_left.stable
  have hafter (q : HostProg (Except String Unit)) (hq : q.Only (isStill ·)) :
      Triple (contract e links) () (Applied p) q
        (Outcome (fun _ => Applied p) fun _ => Left p) :=
    still_triple ghost_applied (fun _ h => Or.inr h) hq
  refine triple_bind lawful (Q := Outcome (fun _ => Applied p) fun _ => Left p) ?_ fun r => ?_
  · refine triple_fallible_bind lawful hleft stage_triple fun _ => ?_
    refine triple_fallible_bind lawful hleft (rename_triple henabled) fun _ => ?_
    refine triple_fallible_bind lawful hleft (hafter _ (only_eff rfl)) fun _ => ?_
    exact hafter _ (only_eff rfl)
  · have hkeep (φ : RouteState → Prop) (hφ : Ghost φ) :
        Triple (contract e links) () φ (eff .removeTemporary) fun _ => φ :=
      triple_still (only_eff rfl) hφ
    cases r with
    | ok _ =>
      exact triple_bind lawful (hkeep _ ghost_applied) fun _ =>
        triple_pure ghost_applied.stable fun _ _ h => h
    | error _ =>
      exact triple_bind lawful (hkeep _ ghost_left) fun _ =>
        triple_pure ghost_left.stable fun _ _ h => h

lemma remove_triple (hdisabled : p.enabled = some false) :
    Triple (contract e links) () (Ready p)
      (removeFileAndSync (Executor.directory e links) (fileName p.routeId)).run
      (Outcome (fun _ => Applied p) fun _ => Left p) := by
  refine triple_fallible_bind lawful (fun _ => ghost_left.stable) (K := fun _ => Applied p) ?_
    fun _ => still_triple ghost_applied (fun _ h => Or.inr h) (only_eff rfl)
  refine triple_perform ghost_ready.stable ?_ (fun _ _ _ => trivial) ?_
  · rintro (_ | _)
    · exact ghost_left.stable
    · exact ghost_applied.stable
  intro s r t hi hready hexec
  have hnode (config : TraefikDynamicConfiguration) :
      (none : Option Node) = some (.regular (.route config)) ↔
        p.enabled ≠ some false ∧ config = buildTraefikConfiguration p := by
    simp [hdisabled]
  have heffect (removed : Bool) (hr : r = .ok removed)
      (hfiles : t.host.files = Function.update s.host.files
        (Executor.path e links (fileName p.routeId)) none) :
      Inv e links t ∧ (∀ j, j ≠ () → (contract e links).rely j s t) ∧
        Outcome (fun _ => Applied p) (fun _ => Left p) r t := by
    subst hr
    obtain ⟨hinv, happlied⟩ := inv_effect hexec hi hready rfl hnode hfiles
    exact ⟨hinv, fun j hj => absurd rfl hj, happlied⟩
  rcases hexec.host with ⟨hr, hhost⟩ | ⟨hr, hnone, hhost⟩ | ⟨⟨err, rfl⟩, hhost⟩
  · exact heffect true hr (by rw [hhost]; rfl)
  · refine heffect false hr ?_
    rw [hhost, ← hnone]
    exact (Function.update_eq_self _ _).symm
  · have hsame : t.history = s.history := hexec.history
    refine ⟨hi.congr (fun name => by rw [hhost]) hexec.command hsame hexec.before,
      fun j hj => absurd rfl hj, Or.inl ?_⟩
    exact ghost_ready s t hexec.command hsame hexec.before hready

/-! ### What a result tells -/

structure Told (result : CommandResult) (s : RouteState) : Prop where
  success : result.success → ∃ p, s.command = some p ∧ s.history = s.before ++ [p]
  unchanged : result.error = invalidPayload ∨ result.error = probeFailed → s.history = s.before

lemma ghost_told (result : CommandResult) : Ghost (Told result) := by
  rintro s t hcommand hhistory hbefore ⟨hsuccess, hunchanged⟩
  exact ⟨by rwa [hcommand, hhistory, hbefore], by rwa [hhistory, hbefore]⟩

lemma failure_triple {result : CommandResult} {summary : String} (hP : Ghost P)
    (hfailed : result.success = false)
    (hsummary : ∀ s, P s → summary = invalidPayload ∨ summary = probeFailed →
      s.history = s.before) :
    Triple (contract e links) () P (safeSyncFailure result summary) Told := by
  have hq : (safeSyncFailure result summary).Ends fun r =>
      r.success = false ∧ r.error = summary := fun _ => ⟨hfailed, rfl⟩
  have hstill : (safeSyncFailure result summary).Only (isStill ·) := ⟨rfl, fun _ => trivial⟩
  refine triple_conseq (triple_ends (triple_still hstill hP) hq) (fun _ _ h => h) ?_
  rintro r s - ⟨⟨hsuccess, rfl⟩, h⟩
  refine ⟨fun habs => ?_, hsummary s h⟩
  rw [hsuccess] at habs
  cases habs

lemma success_triple {result : CommandResult} {summary : String} (herror : result.error = "") :
    Triple (contract e links) () (Applied p) (safeSyncSuccess result summary) Told := by
  have hq : (safeSyncSuccess result summary).Ends fun r => r.error = "" := fun _ => herror
  have hstill : (safeSyncSuccess result summary).Only (isStill ·) := ⟨rfl, fun _ => trivial⟩
  refine triple_conseq (triple_ends (triple_still hstill ghost_applied) hq) (fun _ _ h => h) ?_
  rintro r s - ⟨hempty, h⟩
  refine ⟨fun _ => ⟨p, h⟩, ?_⟩
  rw [hempty]
  rintro (habs | habs)
  · exact absurd habs (by decide)
  · exact absurd habs (by decide)

/-- A change of the file, and what is reported of it. -/
lemma reported_triple {result : CommandResult} {change : HostFallible Unit}
    {failed succeeded : String} (hfailed : result.success = false) (herror : result.error = "")
    (hsummary : failed ≠ invalidPayload ∧ failed ≠ probeFailed)
    (hchange : Triple (contract e links) () (Ready p) change.run
      (Outcome (fun _ => Applied p) fun _ => Left p)) :
    Triple (contract e links) () (Ready p)
      (do
        match ← change.run with
        | .error _ => safeSyncFailure result failed
        | .ok () => safeSyncSuccess result succeeded) Told := by
  refine triple_bind lawful hchange fun r => ?_
  cases r with
  | ok _ => exact success_triple herror
  | error _ =>
    refine failure_triple ghost_left hfailed fun s _ h => ?_
    rcases h with h | h
    · exact absurd h hsummary.1
    · exact absurd h hsummary.2

lemma probe_only (backends : List String) :
    (probeRouteBackends backends).Only (isStill ·) := by
  induction backends with
  | nil => trivial
  | cons backend backends ih =>
    refine ⟨rfl, fun reachable => ?_⟩
    change (if reachable then probeRouteBackends backends else pure false : HostProg Bool).Only _
    split
    · exact ih
    · trivial

/-- The directory that is used is the one the links lead to. -/
lemma directory_triple :
    Triple (contract e links) () (Ready p) (secureSubdirectory e.traefikDynamicRoot []).run
      (Outcome (fun directory s => directory = Executor.directory e links ∧ Ready p s)
        fun _ => Ready p) := by
  have hready : Stable (contract e links) () (Ready p) := ghost_ready.stable
  refine triple_fallible_bind lawful (fun _ => hready) (K := fun _ => Ready p) ?_ fun _ => ?_
  · refine triple_conseq (triple_still (only_eff rfl) ghost_ready) (fun _ _ h => h) ?_
    rintro (_ | _) s - h
    · exact h
    · exact h
  · refine triple_fallible_bind lawful (fun _ => hready)
      (K := fun directory s => directory = Executor.directory e links ∧ Ready p s) ?_
      fun directory => triple_fallible_pure ((stable_const _).and hready) fun _ _ h => h
    refine triple_perform hready ?_ (fun _ _ _ => trivial) ?_
    · rintro (_ | _)
      · exact hready
      · exact (stable_const _).and hready
    · intro s r t hi hs hexec
      have hafter := ghost_ready s t hexec.command (exec_still rfl hexec).2 hexec.before hs
      refine ⟨inv_still rfl hexec hi, fun j hj => absurd rfl hj, ?_⟩
      cases r with
      | error _ => exact hafter
      | ok target => exact ⟨hexec.host.2 target rfl, hafter⟩

lemma syncRoute_triple {result : CommandResult} (hfailed : result.success = false)
    (herror : result.error = "") :
    Triple (contract e links) () (Ready p) (syncRoute e result p) Told := by
  refine triple_bind lawful directory_triple fun r => ?_
  cases r with
  | error err => exact failure_triple ghost_ready hfailed fun _ h _ => h.2
  | ok directory =>
    refine triple_pre fun hdirectory => ?_
    subst hdirectory
    dsimp only
    split
    · next hdisabled =>
      exact reported_triple hfailed herror ⟨by decide, by decide⟩ (remove_triple hdisabled)
    · next henabled =>
      refine triple_bind lawful (Q := fun _ => Ready p)
        (triple_still (probe_only _) ghost_ready) fun reachable => ?_
      split
      · exact reported_triple hfailed herror ⟨by decide, by decide⟩ (write_triple henabled)
      · refine triple_bind lawful (failure_triple ghost_ready hfailed fun _ h _ => h.2)
          fun failed => triple_pure (ghost_told failed).stable fun _ _ h => ?_
        exact ⟨h.success, h.unchanged⟩

lemma executeRouteSync_triple {result : CommandResult} {raw : Bytes}
    (hfailed : result.success = false) (herror : result.error = "") :
    Triple (contract e links) ()
      (fun s => s.command = (e.decode raw).toOption ∧ s.history = s.before)
      (executeRouteSync e result raw) Told := by
  unfold executeRouteSync
  cases hdecoded : e.decode raw with
  | error err =>
    refine failure_triple ?_ hfailed fun _ h _ => h.2
    rintro s t hcommand hhistory hbefore ⟨hc, hh⟩
    exact ⟨hcommand.trans hc, by rw [hhistory, hbefore, hh]⟩
  | ok payload => exact syncRoute_triple hfailed herror

/-! ### Every run -/

lemma interrupted_told {command : Command} {now : Time} :
    Told (interruptedResult command now) s := by
  refine ⟨fun h => Bool.noConfusion h, ?_⟩
  -- the text does not depend on the command
  have herror : (interruptedResult ⟨"", "", .raw ""⟩ 0).error ≠ invalidPayload ∧
      (interruptedResult ⟨"", "", .raw ""⟩ 0).error ≠ probeFailed := ⟨by decide, by decide⟩
  rintro (h | h)
  · exact absurd h herror.1
  · exact absurd h herror.2

lemma keeps_routes : Keeps (routeSystem e links) (contract e links) fun _ => Told where
  lawful := lawful
  exec := fun _ _ _ _ _ h => h
  start := by
    rintro i result s p t ⟨raw, begun, hfailed, herror, rfl, rfl⟩ hi -
    have hinv : Inv e links { s with command := (e.decode raw).toOption, before := s.history } := by
      refine ⟨hi.mirrors, Or.inl rfl, fun q hq => ?_⟩
      rcases List.mem_append.mp hq with hq | hq
      · exact hi.accepted q (List.mem_append_left _ hq)
      · cases hdecoded : e.decode raw with
        | error err =>
          rw [hdecoded] at hq
          cases hq
        | ok payload =>
          rw [hdecoded] at hq
          rw [List.mem_singleton.mp hq]
          exact decode_id e hdecoded
    exact ⟨hinv, fun j hj => absurd rfl hj,
      executeRouteSync_triple hfailed herror _ hinv ⟨rfl, rfl⟩⟩
  environment := fun _ _ _ h hi =>
    ⟨hi.congr h.files h.command h.history h.before, fun _ => h⟩
  crash := by
    rintro i s t p ⟨rfl, command, now, rfl⟩ hi
    exact ⟨hi.congr (fun _ => rfl) rfl rfl rfl, fun j hj => absurd rfl hj,
      fun _ _ _ => interrupted_told⟩

lemma sound_reach {c : Config interface RouteState Unit CommandResult}
    (hc : Reach (routeSystem e links) (Initial e links) c) :
    Sound (contract e links) (fun _ => Told) c := by
  have hkeeps : Keeps (routeSystem e links) (contract e links) fun _ => Told := keeps_routes
  refine reach_sound hkeeps (fun c h => ?_) hc
  obtain ⟨hfiles, hcommand, hhistory, hbefore, command, now, hthread⟩ := h
  refine ⟨⟨fun name config => ?_, Or.inl (hhistory.trans hbefore.symm), ?_⟩, fun j => ?_⟩
  · rw [hhistory]
    refine iff_of_false (hfiles name config) ?_
    rintro ⟨id, route, hroute, -⟩
    cases hroute
  · rw [hhistory, hcommand]
    exact fun q hq => absurd hq List.not_mem_nil
  · rw [show j = () from rfl, hthread]
    exact fun _ _ _ => interrupted_told

lemma inv_reach {c : Config interface RouteState Unit CommandResult}
    (hc : Reach (routeSystem e links) (Initial e links) c) : Inv e links c.state :=
  (sound_reach hc).1

/-- **The directory is a table of routes.** In every run of the syncs an agent is sent, each
failing or cut short anywhere: the files are exactly those of the routes that the syncs which
took effect come to, in their order; a sync takes effect at most once, and only as it was sent;
one that is reported to have succeeded has, and one whose payload is refused or whose backends
do not answer has not. -/
theorem directory_is_replay {c : Config interface RouteState Unit CommandResult}
    (hc : Reach (routeSystem e links) (Initial e links) c) :
    Mirrors e links (replay c.state.history) c.state ∧ Advanced c.state ∧
      ∀ result, c.thread () = .pure result → Told result c.state := by
  have hsound := sound_reach hc
  refine ⟨hsound.1.mirrors, hsound.1.advanced, fun result hend => ?_⟩
  have hsafe := hsound.2 ()
  rw [hend] at hsafe
  exact hsafe c.state (lawful.refl () c.state) hsound.1

/-! ### A route that is switched on -/

def sampleRoute : RouteSyncPayload :=
  { routeId := "3f2504e0-4f89-41d3-9a0c-0305e82c3301", name := "app",
    hostname := "app.example.com", exposure := "public", backends := ["http://app:8080"],
    enabled := some true, revision := some 1 }

def sampleText : String :=
  "\x7b\"routeId\":\"3f2504e0-4f89-41d3-9a0c-0305e82c3301\",\"name\":\"app\"," ++
    "\"hostname\":\"app.example.com\",\"exposure\":\"public\"," ++
    "\"backends\":[\"http://app:8080\"],\"enabled\":true,\"revision\":1\x7d"

def sampleRaw : Bytes := sampleText.toList.map fun c => c.toNat.toUInt8

def sampleUrl : BackendUrl :=
  { scheme := "http", host := "app:8080", user := false, fragment := "", rawQuery := "" }

def sampleExecutor : Executor where
  traefikDynamicRoot := "/dynamic"
  net :=
    { parseIP := fun _ => false
      parseUrl := fun value => if value = "http://app:8080" then some sampleUrl else none }
  schema :=
    { unmarshal := fun text =>
        if text = sampleText.toList then .ok sampleRoute else .error "another value"
      syntaxError := fun _ => "invalid character" }

lemma decode_sample : sampleExecutor.decode sampleRaw = .ok sampleRoute := by decide +kernel

/-- No links. -/
def sampleLinks (path : String) : String := path

/-- Every effect succeeds. -/
def sampleAnswer (s : RouteState) (o : HostOp) : o.Res × RouteState :=
  let (r, host) := respond ⟨fun _ _ => ({}, ()), fun _ => false, fun p => (p, "/"),
    fun _ => (0, ""), 1⟩ sampleLinks s.host o
  (r, { s with host, history := s.noted o r })

lemma exec_sample (s : RouteState) (o : HostOp) :
    Exec sampleLinks s o (sampleAnswer s o).1 (sampleAnswer s o).2 :=
  ⟨hostEffect_respond (fun _ _ => trivial) s.host o, rfl, rfl, rfl⟩

def sampleCommand : Command := ⟨"", "traefik.route.sync", .raw ""⟩

def sampleStart : Config interface RouteState Unit CommandResult :=
  ⟨⟨⟨fun _ => none, none, ()⟩, none, [], []⟩, fun _ => .pure (interruptedResult sampleCommand 1)⟩

def sampleResult : CommandResult :=
  { commandId := "", type := "traefik.route.sync", exitCode := 0, startedAt := 1, finishedAt := 1 }

/-- The command under way. -/
def sampleBegun : RouteState := ⟨⟨fun _ => none, none, ()⟩, some sampleRoute, [], []⟩

def sampleEnd : HostProg CommandResult × RouteState :=
  (syncRoute sampleExecutor sampleResult sampleRoute).runFor sampleAnswer 20 sampleBegun

lemma reach_sampleEnd :
    Reach (routeSystem sampleExecutor sampleLinks) (Initial sampleExecutor sampleLinks)
    ⟨sampleEnd.2, Function.update (fun _ => .pure (interruptedResult sampleCommand 1)) ()
      sampleEnd.1⟩ := by
  have hinit : Reach (routeSystem sampleExecutor sampleLinks)
      (Initial sampleExecutor sampleLinks) sampleStart :=
    .init ⟨by rintro name config ⟨⟩, rfl, rfl, rfl, sampleCommand, 1, rfl⟩
  have hprogram : syncRoute sampleExecutor sampleResult sampleRoute =
      executeRouteSync sampleExecutor sampleResult sampleRaw := by
    rw [executeRouteSync, decode_sample]
  have hstart := hinit.step (.start (p := syncRoute sampleExecutor sampleResult sampleRoute)
    (t := sampleBegun) () rfl ⟨sampleRaw, sampleResult, rfl, rfl, by rw [decode_sample]; rfl,
      hprogram⟩)
  have hrun := reach_runFor (S := routeSystem sampleExecutor sampleLinks) (i := ()) exec_sample 20
    hstart
  rw [Function.update_self, Function.update_idem] at hrun
  exact hrun

lemma history_sampleEnd : sampleEnd.2.history = [sampleRoute] := by decide +kernel

def returned : HostProg CommandResult → Option CommandResult
  | .pure result => some result
  | _ => none

lemma pure_of_returned {p : HostProg CommandResult} {result : CommandResult}
    (h : returned p = some result) : p = .pure result := by
  cases p with
  | pure a => rw [Option.some.inj h]
  | op o k => cases h

theorem directory_is_replay_sample :
    ∃ c result,
      Reach (routeSystem sampleExecutor sampleLinks) (Initial sampleExecutor sampleLinks) c ∧
      c.thread () = .pure result ∧ result.success ∧ c.state.history = [sampleRoute] ∧
      Mirrors sampleExecutor sampleLinks (replay c.state.history) c.state ∧ Advanced c.state ∧
      Told result c.state := by
  obtain ⟨result, hresult⟩ : ∃ result, returned sampleEnd.1 = some result :=
    Option.isSome_iff_exists.mp (by decide +kernel)
  have hsuccess : (returned sampleEnd.1).all (·.success) := by decide +kernel
  rw [hresult, Option.all_some] at hsuccess
  have hend : Function.update (fun _ => Prog.pure (interruptedResult sampleCommand 1)) ()
      sampleEnd.1 () = .pure result := by
    rw [Function.update_self, pure_of_returned hresult]
  obtain ⟨hmirrors, hadvanced, htold⟩ := directory_is_replay reach_sampleEnd
  exact ⟨_, result, reach_sampleEnd, hend, hsuccess, history_sampleEnd, hmirrors, hadvanced,
    htold result hend⟩

end GatewayControl.RouteDirectory
