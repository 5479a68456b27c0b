import GatewayControl.Checks
import GatewayControl.Json

/-!
The agent's own check of a Compose model: the JSON `docker compose config` prints for a
deployment, before anything is started from it.
-/

namespace GatewayControl.ComposeModel

open Text Json Checks

def stackPattern : String → Bool := composeServicePattern

/-- An image with a digest, or with a tag after its last slash. -/
def hasPinnedImageReference (image : String) : Bool :=
  let leaf := (image.toList.reverse.takeWhile (· ≠ '/')).reverse
  occurs "@sha256:".toList image.toList || leaf.contains ':'

def pinnedImage : Option Json → Bool
  | some (.str image) => hasPinnedImageReference image &&
      !":latest".toList.isSuffixOf (toLower image).toList
  | _ => false

def isTrue : Option Json → Bool
  | some (.bool b) => b
  | _ => false

/-- A key whose value is not null. -/
def present (es : Entries) (key : String) : Bool := (es.lookup key).any fun v => !v.isNull

def forbiddenKeys : List String :=
  ["build", "use_api_socket", "devices", "cap_add", "command", "entrypoint",
    "network_mode", "ports", "expose", "pid", "ipc"]

mutual

/-- `fmt.Sprint` of a decoded value. -/
def sprint : Json → String
  | .null => "<nil>"
  | .bool b => if b then "true" else "false"
  | .num _ text => text
  | .str s => s
  | .arr items => "[" ++ sprintItems items ++ "]"
  | .obj es => "map[" ++ sprintEntries es ++ "]"
termination_by structural v => v

def sprintItems : List Json → String
  | [] => ""
  | v :: vs => sprint v ++ if vs.isEmpty then "" else " " ++ sprintItems vs
termination_by structural vs => vs

def sprintEntries : List (String × Json) → String
  | [] => ""
  | e :: es => sprintEntry e ++ if es.isEmpty then "" else " " ++ sprintEntries es
termination_by structural es => es

def sprintEntry : String × Json → String
  | (k, v) => k ++ ":" ++ sprint v
termination_by structural e => e

end

def disablesIsolation (option : Json) : Bool :=
  let text := (toLower (sprint option)).toList
  occurs "unconfined".toList text || occurs "label:disable".toList text

/-- A mount of a normalised service names a volume. -/
def namedMount : Json → Bool
  | .obj mount =>
      match mount.lookup "type", mount.lookup "source" with
      | some (.str type), some (.str source) =>
          type == "volume" && stackPattern source && !source.toList.contains '/' &&
            !source.toList.contains '\\'
      | _, _ => false
  | _ => false

def restartPolicy : Option Json → Bool
  | some (.str s) => s = "always" ∨ s = "unless-stopped" ∨ s = "on-failure"
  | _ => false

/-- `value[key]` of a value that is an object. -/
def field (value : Option Json) (key : String) : Option Json := value.bind (get? key)

def validateService (e : String × Json) : Except String Unit := do
  require (stackPattern e.1) "normalized service name is invalid"
  match e.2 with
  | .obj service =>
      require (pinnedImage (service.lookup "image")) "normalized image is not pinned"
      require (!isTrue (service.lookup "privileged")) "privileged service is forbidden"
      match forbiddenKeys.find? (present service) with
      | some key => .error ("normalized " ++ key ++ " is forbidden")
      | none =>
          require ((items (service.lookup "security_opt")).all fun o => !disablesIsolation o)
            "isolation-disabling security option is forbidden"
          require ((items (service.lookup "volumes")).all namedMount)
            "bind or socket mount is forbidden"
          require (restartPolicy (service.lookup "restart")) "restart policy is required"
          let resources := field (service.lookup "deploy") "resources"
          let limits := field resources "limits"
          require (resources.any isObject) "deploy resource limits are required"
          require ((field limits "cpus").any (!·.isNull) && (field limits "memory").any (!·.isNull))
            "CPU and memory limits are required"
          require (!(field (field resources "reservations") "devices").any (!·.isNull))
            "device reservations are forbidden"
  | _ => .error "normalized service is invalid"

/-- A top-level volume or network is an object that is not external. -/
def ownResource (e : String × Json) : Bool :=
  e.2.isObject && !isTrue (e.2.get? "external")

def validateResources (kind : String) : Option Json → Except String Unit
  | some (.obj es) => require (es.all ownResource) ("external " ++ kind ++ " are forbidden")
  | _ => .ok ()

def validateNormalizedComposeJSON (model : Document) : Except String Unit :=
  match model.value.get? "services" with
  | some (.obj services) => do
      require (1 ≤ services.length && services.length ≤ 50) "normalized services are invalid"
      services.forM validateService
      validateResources "volumes" (model.value.get? "volumes")
      validateResources "networks" (model.value.get? "networks")
  | _ => .error "normalized services are invalid"

end GatewayControl.ComposeModel
