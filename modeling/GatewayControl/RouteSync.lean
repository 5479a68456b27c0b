import GatewayControl.AgentPayloads
import GatewayControl.Host
import GatewayControl.RecoveryAgreement

/-!
`traefik.route.sync`: the executor writes one file of Traefik's dynamic configuration for each
route that is switched on, and removes the file of one that is switched off.

The backends are probed at the same time; the first answer that is not good, or the time that
is up, ends the probe.
-/

namespace GatewayControl.RouteSync

open Text AgentTypes AgentPayloads Programs Host

/-! ### The configuration of a route -/

/-- `strings.ReplaceAll(strings.ToLower(routeId), "-", "")`, after its prefix. -/
def identifier (routeId : String) : String :=
  "gc-route-" ++ String.ofList ((toLower routeId).toList.filter (· ≠ '-'))

def hostRule (hostname : String) : String := "Host(`" ++ hostname ++ "`)"

def buildTraefikConfiguration (payload : RouteSyncPayload) : TraefikDynamicConfiguration :=
  let identifier := identifier payload.routeId
  let serviceName := identifier ++ "-service"
  let services := [(serviceName, payload.backends)]
  let rule := hostRule payload.hostname
  if payload.exposure = "tunnel" then
    { routers := [(identifier ++ "-tunnel",
        { entryPoints := ["web"], rule, service := serviceName })]
      services }
  else
    let redirectName := identifier ++ "-redirect"
    { routers := [
        (identifier ++ "-web",
          { entryPoints := ["web"], rule, service := serviceName,
            middlewares := [redirectName] }),
        (identifier ++ "-websecure",
          { entryPoints := ["websecure"], rule, service := serviceName,
            tls := some "letsencrypt" })]
      services
      middlewares := [(redirectName, { scheme := "https", permanent := true })] }

/-! ### The command -/

structure Executor where
  traefikDynamicRoot : String
  net : Net
  schema : JsonDecoder.Schema RouteSyncPayload

variable (e : Executor)

def Executor.decode (raw : Bytes) : Except String RouteSyncPayload :=
  decodeRouteSyncPayload e.net e.schema raw

def fileName (routeId : String) : String := toLower routeId ++ ".yaml"

def probeRouteBackends : List String → HostProg Bool
  | [] => pure true
  | backend :: backends => do
      if ← eff (.probe backend) then probeRouteBackends backends else pure false

def safeSyncSuccess (result : CommandResult) (summary : String) : HostProg CommandResult := do
  return { result with
    success := true, exitCode := 0, stdout := summary, finishedAt := ← eff .now }

def safeSyncFailure (result : CommandResult) (summary : String) : HostProg CommandResult := do
  return { result with exitCode := -1, error := summary, finishedAt := ← eff .now }

def invalidPayload : String := "route payload validation failed"

def probeFailed : String := "backend probe failed"

def removeRoute (result : CommandResult) (directory : String) (payload : RouteSyncPayload) :
    HostProg CommandResult := do
  match ← (removeFileAndSync directory (fileName payload.routeId)).run with
  | .error _ => safeSyncFailure result "route configuration removal failed"
  | .ok () => safeSyncSuccess result "Traefik route disabled"

def writeRoute (result : CommandResult) (directory : String) (payload : RouteSyncPayload) :
    HostProg CommandResult := do
  match ← (writeFileAtomically directory (fileName payload.routeId)
      (.route (buildTraefikConfiguration payload))).run with
  | .error _ => safeSyncFailure result "route configuration storage failed"
  | .ok () => safeSyncSuccess result "Traefik route synchronized"

/-- What is done with a payload that was accepted. -/
def syncRoute (result : CommandResult) (payload : RouteSyncPayload) : HostProg CommandResult := do
  match ← (secureSubdirectory e.traefikDynamicRoot []).run with
  | .error _ => safeSyncFailure result "route configuration storage failed"
  | .ok directory =>
      if payload.enabled = some false then removeRoute result directory payload
      else if ← probeRouteBackends payload.backends then writeRoute result directory payload
      else do
        let failed ← safeSyncFailure result probeFailed
        return { failed with code := "backend_probe_failed" }

def executeRouteSync (result : CommandResult) (raw : Bytes) : HostProg CommandResult :=
  match e.decode raw with
  | .error _ => safeSyncFailure result invalidPayload
  | .ok payload => syncRoute e result payload

/-! ### Routes and their files -/

/-- What the file of a route depends on, beside its identifier. -/
structure Route where
  hostname : String
  exposure : String
  backends : List String
deriving DecidableEq

/-- The routes an agent serves, by their identifiers in lower case. -/
abbrev Routes := String → Option Route

def routeOf (p : RouteSyncPayload) : Route := ⟨p.hostname, p.exposure, p.backends⟩

/-- What a sync is for. -/
def applied (routes : Routes) (p : RouteSyncPayload) : Routes :=
  Function.update routes (toLower p.routeId)
    (if p.enabled = some false then none else some (routeOf p))

def replay (history : List RouteSyncPayload) : Routes := history.foldl applied fun _ => none

lemma replay_append (history : List RouteSyncPayload) (p : RouteSyncPayload) :
    replay (history ++ [p]) = applied (replay history) p := by
  simp [replay]

/-- The file of a route. -/
def configuration (id : String) (route : Route) : TraefikDynamicConfiguration :=
  buildTraefikConfiguration
    { routeId := id, name := "", hostname := route.hostname, exposure := route.exposure,
      backends := route.backends, enabled := none, revision := none }

/-! ### Identifiers -/

/-- An identifier in lower case. -/
structure IsId (id : String) : Prop where
  pattern : matchesClasses uuidClasses id.toList
  lower : toLower id = id

lemma uuid_class {p : Char → Bool} (hp : p ∈ uuidClasses) :
    p = isHex ∨ (p = fun c => c == '-') ∨ (p = fun c => decide ('1' ≤ c ∧ c ≤ '5')) ∨
      p = fun c => ['8', '9', 'a', 'b', 'A', 'B'].contains c := by
  simp only [uuidClasses, List.mem_append, List.mem_replicate, List.mem_singleton] at hp
  rcases hp with
    (((((((((⟨-, h⟩ | h) | ⟨-, h⟩) | h) | h) | ⟨-, h⟩) | h) | h) | ⟨-, h⟩) | h) | ⟨-, h⟩
  all_goals
    first
    | exact .inl h
    | exact .inr (.inl h)
    | exact .inr (.inr (.inl h))
    | exact .inr (.inr (.inr h))

lemma class_lower {p : Char → Bool} (hp : p ∈ uuidClasses) {c : Char} (hc : p c) :
    p (lowerChar c) ∧ lowerChar (lowerChar c) = lowerChar c := by
  have hmem := RecoveryAgreement.class_mem hp hc
  have htwice : ∀ c ∈ "0123456789abcdefABCDEF-".toList,
      lowerChar (lowerChar c) = lowerChar c := forall_of_all (by decide)
  refine ⟨?_, htwice c hmem⟩
  have hstays : ∀ c ∈ "0123456789abcdefABCDEF-".toList,
      (isHex c → isHex (lowerChar c)) ∧ ((c == '-') → (lowerChar c == '-')) ∧
        ('1' ≤ c ∧ c ≤ '5' → '1' ≤ lowerChar c ∧ lowerChar c ≤ '5') ∧
        (['8', '9', 'a', 'b', 'A', 'B'].contains c →
          ['8', '9', 'a', 'b', 'A', 'B'].contains (lowerChar c)) := forall_of_all (by decide)
  obtain ⟨hhex, hdash, hversion, hvariant⟩ := hstays c hmem
  rcases uuid_class hp with rfl | rfl | rfl | rfl
  · exact hhex hc
  · exact hdash hc
  · exact decide_eq_true (hversion (of_decide_eq_true hc))
  · exact hvariant hc

lemma matches_lower {ps : List (Char → Bool)} (hps : ∀ p ∈ ps, p ∈ uuidClasses) :
    ∀ {cs : List Char}, matchesClasses ps cs → matchesClasses ps (cs.map lowerChar) ∧
      (cs.map lowerChar).map lowerChar = cs.map lowerChar := by
  induction ps with
  | nil =>
    intro cs h
    cases cs with
    | nil => exact ⟨rfl, rfl⟩
    | cons c cs => cases h
  | cons p ps ih =>
    intro cs h
    cases cs with
    | nil => cases h
    | cons c cs =>
      obtain ⟨hc, hcs⟩ := Bool.and_eq_true_iff.mp h
      obtain ⟨hhead, htwice⟩ := class_lower (hps p List.mem_cons_self) hc
      obtain ⟨htail, hrest⟩ := ih (fun q hq => hps q (List.mem_cons_of_mem _ hq)) hcs
      refine ⟨Bool.and_eq_true_iff.mpr ⟨hhead, htail⟩, ?_⟩
      rw [List.map_cons, List.map_cons, htwice, hrest]

lemma isId_toLower {id : String} (h : connectorUUIDPattern id) : IsId (toLower id) := by
  obtain ⟨hmatches, htwice⟩ := matches_lower (fun _ hp => hp) h
  refine ⟨?_, ?_⟩
  · rw [toLower, String.toList_ofList]
    exact hmatches
  · rw [toLower, toLower, String.toList_ofList, htwice]

lemma identifier_toLower {id : String} (h : IsId (toLower id)) :
    identifier (toLower id) = identifier id := by
  unfold identifier
  rw [h.lower]

lemma build_eq {p : RouteSyncPayload} (h : connectorUUIDPattern p.routeId) :
    buildTraefikConfiguration p = configuration (toLower p.routeId) (routeOf p) := by
  unfold configuration buildTraefikConfiguration
  rw [identifier_toLower (isId_toLower h)]
  rfl

lemma decode_id {raw : Bytes} {p : RouteSyncPayload} (h : e.decode raw = .ok p) :
    connectorUUIDPattern p.routeId := by
  unfold Executor.decode decodeRouteSyncPayload at h
  split at h
  · cases h
  · cases hdecoded : decodeOnly e.schema ("invalid route sync payload: " ++ ·)
        "route sync payload contains trailing data" raw with
    | error err =>
      rw [hdecoded] at h
      cases h
    | ok payload =>
      rw [hdecoded] at h
      change checkRoute e.net payload = .ok p at h
      unfold checkRoute at h
      split at h
      · cases h
      · next hid =>
        split at h
        · cases h
        · dsimp only at h
          split_ifs at h
          cases hbackends : checkBackends e.net [] payload.backends with
          | error err =>
            rw [hbackends] at h
            cases h
          | ok _ =>
            rw [hbackends] at h
            obtain rfl := Except.ok.inj h
            simpa using hid

end GatewayControl.RouteSync
