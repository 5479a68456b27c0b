import GatewayControl.Tally
import GatewayControl.Text

/-!
The Compose services a node reports in its telemetry: `docker ps` lists its containers, a line
to each, and the collector counts the lines of a service by the status they give.
-/

namespace GatewayControl.Collector

open Text Tally

def maximumServices : ℕ := 250

inductive Status
  | healthy | unhealthy | starting | running | completed | stopped | unknown
  deriving DecidableEq

structure TelemetryService where
  name : String
  projectName : String
  serviceName : String
  status : Status
  total : ℕ
  running : ℕ
  healthy : ℕ
  unhealthy : ℕ
  starting : ℕ
  stopped : ℕ
  completed : ℕ
  deriving DecidableEq

def TelemetryService.identity (s : TelemetryService) : String × String :=
  (s.projectName, s.serviceName)

/-- Bytes and characters count alike here: only ASCII passes. -/
def validComposeProjectName : String → Bool :=
  identifierPattern isLowerOrDigit (fun c => isLowerOrDigit c || ['_', '-'].contains c) 62

def validComposeServiceName : String → Bool :=
  identifierPattern (·.isAlphanum) (fun c => c.isAlphanum || ['_', '-', '.'].contains c) 127

def normalizeStatus (state detail : String) : Status :=
  let detail := (toLower detail).toList
  if state = "exited" ∧ occurs "exited (0)".toList detail then .completed
  else if state ≠ "running" then .stopped
  else if occurs "(healthy)".toList detail then .healthy
  else if occurs "(unhealthy)".toList detail then .unhealthy
  else if occurs "health: starting".toList detail || occurs "(starting)".toList detail then
    .starting
  else .running

def aggregateStatus (service : TelemetryService) : Status :=
  if service.total = 0 then .unknown
  else if service.running + service.stopped + service.completed ≠ service.total then .unknown
  else if 0 < service.unhealthy then .unhealthy
  else if 0 < service.starting then .starting
  else if 0 < service.stopped then .stopped
  else if service.completed = service.total then .completed
  else if service.healthy + service.unhealthy + service.starting < service.running then .running
  else if service.healthy + service.completed = service.total then .healthy
  else .unknown

/-! ### Lines -/

/-- A line of a container with Compose's labels. -/
structure Line where
  project : String
  service : String
  state : String
  detail : String
  deriving DecidableEq

def Line.identity (l : Line) : String × String := (l.project, l.service)

def Line.status (l : Line) : Status := normalizeStatus l.state l.detail

def parseLine (line : List Char) : Option Line :=
  match (line.splitOn '\t').map String.ofList with
  | [project, service, state, detail] =>
      if validComposeProjectName project && validComposeServiceName service then
        some ⟨project, service, state, detail⟩
      else none
  | _ => none

/-! ### Counting -/

/-- A service before its first line is counted. -/
def emptyService (identity : String × String) : TelemetryService where
  name := identity.1 ++ "/" ++ identity.2
  projectName := identity.1
  serviceName := identity.2
  status := .unknown
  total := 0
  running := 0
  healthy := 0
  unhealthy := 0
  starting := 0
  stopped := 0
  completed := 0

def TelemetryService.tallied (status : Status) (service : TelemetryService) : TelemetryService :=
  let service := { service with total := service.total + 1 }
  match status with
  | .healthy => { service with running := service.running + 1, healthy := service.healthy + 1 }
  | .unhealthy =>
      { service with running := service.running + 1, unhealthy := service.unhealthy + 1 }
  | .starting => { service with running := service.running + 1, starting := service.starting + 1 }
  | .running => { service with running := service.running + 1 }
  | .completed => { service with completed := service.completed + 1 }
  | .stopped => { service with stopped := service.stopped + 1 }
  | .unknown => service

def observe (line : Line) (service : TelemetryService) : TelemetryService :=
  let service := service.tallied line.status
  { service with status := aggregateStatus service }

/-- Counted at the place the services' index gives, or in a new last place. The index joins both
names by a zero byte, which no valid name holds. -/
def countLine (line : Line) : List TelemetryService → List TelemetryService
  | [] => [observe line (emptyService line.identity)]
  | service :: services =>
      if service.identity = line.identity then observe line service :: services
      else service :: countLine line services

def countLines : List (List Char) → List TelemetryService → List TelemetryService
  | [], services => services
  | raw :: raws, services =>
      match parseLine raw with
      | none => countLines raws services
      | some line =>
          let found := services.any fun service => service.identity = line.identity
          let services := countLine line services
          -- the break leaves the loop over the lines
          if services.length = maximumServices && !found then services
          else countLines raws services

def outputLines (output : String) : List (List Char) :=
  (trimBoth isSpace output.toList).splitOn '\n'

def collectServices (output : Option String) : Except String (List TelemetryService) :=
  match output with
  | none => .error "collect Docker service state"
  | some output => .ok (countLines (outputLines output) [])

/-! ### The collector counts by service -/

lemma identity_observe (line : Line) (service : TelemetryService) :
    (observe line service).identity = service.identity := by
  unfold observe TelemetryService.tallied
  cases line.status <;> rfl

def serviceCounter : Counter (String × String) Line TelemetryService where
  row := Line.identity
  key := TelemetryService.identity
  fresh := emptyService
  add := observe
  key_fresh _ := rfl
  key_add := identity_observe

/-- The lines of containers with Compose's labels. -/
def lines (output : String) : List Line := (outputLines output).filterMap parseLine

lemma countLine_eq (line : Line) (services : List TelemetryService) :
    countLine line services = serviceCounter.count line services := by
  induction services with
  | nil => rfl
  | cons service services ih =>
    rw [countLine, Counter.count, ih]
    rfl

lemma countLines_eq (raws : List (List Char)) (services : List TelemetryService) :
    countLines raws services =
      serviceCounter.run maximumServices (raws.filterMap parseLine) services := by
  induction raws generalizing services with
  | nil => rfl
  | cons raw raws ih =>
    rw [countLines]
    cases hline : parseLine raw with
    | none => rw [List.filterMap_cons_none hline, ← ih]
    | some line =>
      rw [List.filterMap_cons_some hline, Counter.run, ← countLine_eq, ← ih]
      dsimp only
      have hfound : (services.any fun service => service.identity = line.identity) =
          decide (serviceCounter.row line ∈ services.map serviceCounter.key) := by
        rw [Bool.eq_iff_iff, List.any_eq_true, decide_eq_true_eq, List.mem_map]
        simp only [decide_eq_true_eq]
        rfl
      rw [hfound]
      simp only [Bool.and_eq_true, decide_eq_true_eq, Bool.not_eq_true', decide_eq_false_iff_not]
      by_cases hfull : (countLine line services).length = maximumServices ∧
          serviceCounter.row line ∉ services.map serviceCounter.key
      · rw [if_pos hfull, if_pos hfull]
      · rw [if_neg hfull, if_neg hfull]

lemma collectServices_eq (output : String) : collectServices (some output) =
    .ok (serviceCounter.run maximumServices (lines output) []) :=
  congrArg Except.ok (countLines_eq _ _)

/-- The order of the lines of a service does not matter to it. -/
lemma observe_comm (l l' : Line) (s : TelemetryService) :
    observe l (observe l' s) = observe l' (observe l s) := by
  unfold observe TelemetryService.tallied
  cases l.status <;> cases l'.status <;> simp [Nat.add_right_comm, aggregateStatus]

end GatewayControl.Collector
