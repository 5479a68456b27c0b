import GatewayControl.Checks
import GatewayControl.Json

/-!
The control plane's Compose policy: what it substitutes and parses, the checks on the
parsed document, and the normalised document it writes.

The YAML library, the digest and the locale's comparison of two keys are parameters.
-/

namespace GatewayControl.ComposePolicy

open Text Json Checks

structure ComposePolicyError where
  code : String
  message : String
  service : Option String := none
deriving DecidableEq

abbrev Checked := Except ComposePolicyError

/-- What the YAML library makes of a text; `toJS` fails past the alias limit. -/
structure YamlDocument where
  errors : Bool := false
  nodeCount : Nat := 1
  toJS : Option Document

structure Runtime where
  parseDocument : String → YamlDocument
  stringify : Json → String
  sha256 : String → String
  /-- `left.localeCompare(right) <= 0` -/
  localeCompare : String → String → Bool

/-! ### Patterns -/

def isUpperWord (c : Char) : Bool := c.isUpper || c.isDigit || c == '_'

/-- `/^[A-Z][A-Z0-9_]{0,63}$/`. -/
def parameterKeyPattern : String → Bool := identifierPattern Char.isUpper isUpperWord 63

def secretWords : List String :=
  ["password", "passwd", "secret", "token", "api_key", "access_key", "private_key",
    "credential", "database_url"]

/-- A secret word between underscores or the ends of the key, in any case. -/
def secretKeyPattern (key : String) : Bool :=
  let padded := '_' :: asciiLower key ++ ['_']
  secretWords.any fun w => occurs ('_' :: w.toList ++ ['_']) padded

def servicePattern : String → Bool := composeServicePattern

def environmentKeyPattern : String → Bool :=
  identifierPattern (fun c => c.isAlpha || c == '_') (fun c => c.isAlphanum || c == '_') 127

def isImageTag (c : Char) : Bool := c.isAlphanum || ['.', '_', '-'].contains c

/-- What may follow the name of an image: a digest, a tag, both or neither. -/
def imageDigest : List Char → Bool
  | [] => true
  | '@' :: rest =>
      let hash := rest.drop 7
      rest.take 7 = "sha256:".toList && hash.length = 64 &&
        hash.all fun c => c.isDigit || ('a' ≤ c && c ≤ 'f')
  | _ => false

def imageTag : List Char → Bool
  | ':' :: c :: rest => c.isAlphanum && imageDigest (rest.dropWhile isImageTag)
  | rest => imageDigest rest

def imagePattern (image : String) : Bool :=
  match image.toList with
  | [] => false
  | c :: cs => isLowerOrDigit c &&
      imageTag (cs.dropWhile fun c => isLowerOrDigit c || ['.', '_', '/', '-'].contains c)

def hasPinnedImage (image : String) : Bool :=
  let leaf := (image.toList.reverse.takeWhile (· ≠ '/')).reverse
  occurs "@sha256:".toList image.toList || leaf.contains ':'

/-- `/:latest(?:@|$)/i`. -/
def latestImage (image : String) : Bool :=
  let text := asciiLower image
  occurs ":latest@".toList text || ":latest".toList.isSuffixOf text

/-- The length of a JavaScript string. -/
def utf16Length (s : String) : Nat :=
  (s.toList.map fun c => if c.toNat < 0x10000 then 1 else 2).sum

/-! ### Parameters -/

def hexDigit (n : Nat) : Char := if n < 10 then Char.ofNat (48 + n) else Char.ofNat (87 + n)

def escapeChar (c : Char) : List Char :=
  if c = '"' then ['\\', '"']
  else if c = '\\' then ['\\', '\\']
  else if c.toNat = 8 then ['\\', 'b']
  else if c.toNat = 9 then ['\\', 't']
  else if c.toNat = 10 then ['\\', 'n']
  else if c.toNat = 12 then ['\\', 'f']
  else if c.toNat = 13 then ['\\', 'r']
  else if c.toNat < 32 then
    ['\\', 'u', '0', '0', hexDigit (c.toNat / 16), hexDigit (c.toNat % 16)]
  else [c]

/-- `JSON.stringify` of a string, number or boolean. -/
def stringifyScalar : Json → List Char
  | .str s => '"' :: s.toList.flatMap escapeChar ++ ['"']
  | v => v.jsString.toList

/-- The name in `NAME}`, and what follows it. -/
def reference (rest : List Char) : Option (String × List Char) :=
  let name := String.ofList (rest.takeWhile isUpperWord)
  match rest.dropWhile isUpperWord with
  | '}' :: tail => if parameterKeyPattern name then some (name, tail) else none
  | _ => none

/-- Replace every reference; the names used come with the text. `fuel` bounds the length
of the source. -/
def expand (parameters : Entries) : Nat → List Char → Checked (List Char × List String)
  | 0, _ => .ok ([], [])
  | _, [] => .ok ([], [])
  | fuel + 1, c :: cs =>
      match if (c :: cs).take 2 = ['$', '{'] then reference (cs.drop 1) else none with
      | some (name, tail) =>
          match parameters.lookup name with
          | none => .error ⟨"parameter_required", "Parameter " ++ name ++ " is required.", none⟩
          | some value => do
              let (text, used) ← expand parameters fuel tail
              .ok (stringifyScalar value ++ text, name :: used)
      | none => do
          let (text, used) ← expand parameters fuel cs
          .ok (c :: text, used)

def boundedParameter (e : String × Json) : Bool :=
  parameterKeyPattern e.1 && !secretKeyPattern e.1 && utf16Length e.2.jsString ≤ 256

def substituteParameters (source : String) (parameters : Entries) : Checked String := do
  require (parameters.length ≤ 50) ⟨"parameter_count", "At most 50 parameters are allowed.", none⟩
  require (parameters.all boundedParameter)
    ⟨"invalid_parameter", "Parameters must be bounded, non-secret, typed values.", none⟩
  let (expanded, used) ← expand parameters source.toList.length source.toList
  require (!occurs ['$', '{'] expanded && parameters.all fun e => used.contains e.1)
    ⟨"invalid_parameter", "Only declared and used $\x7bNAME\x7d parameters are supported.", none⟩
  .ok (String.ofList expanded)

/-! ### Checks on the document -/

/-- The first key outside the list is an error, unless it is the empty key, which the
source's truth test takes for no key at all. -/
def rejectUnknownKeys (es : Entries) (allowed : List String) (code : String)
    (service : Option String) : Checked Unit :=
  match (es.map Prod.fst).find? fun key => !allowed.contains key with
  | none => .ok ()
  | some key => require (key == "")
      ⟨code, key ++ " is not supported by the deployment policy.", service⟩

def serviceKeys : List String :=
  ["image", "restart", "healthcheck", "environment", "ports", "expose", "network_mode",
    "depends_on", "volumes", "networks", "labels", "logging", "deploy", "user", "working_dir",
    "read_only", "tmpfs", "stop_grace_period", "init", "pull_policy", "security_opt"]

def forbiddenKeys : List String :=
  ["build", "privileged", "use_api_socket", "network_mode", "ports", "expose", "pid", "ipc",
    "devices", "cap_add", "command", "entrypoint", "extends"]

def isTrue : Option Json → Bool
  | some (.bool b) => b
  | _ => false

/-- `String(item).split(/=(.*)/s).slice(0, 2)`. -/
def environmentItem (item : Json) : String × Option Json :=
  let (key, value) := splitFirst '=' item.jsString.toList
  (String.ofList key, value.map fun v => .str (String.ofList v))

def environmentEntries : Json → List (String × Option Json)
  | .arr items => items.map environmentItem
  | .obj es => es.map fun e => (e.1, some e.2)
  | _ => []

def literal : Option Json → Bool
  | some (.str s) => utf16Length s ≤ 2048
  | some (.num _ text) => utf16Length text ≤ 2048
  | some (.bool _) => true
  | _ => false

def validateEnvironment (value : Option Json) (service : String) : Checked Unit :=
  match value with
  | none => .ok ()
  | some v => do
      let entries := environmentEntries v
      require (1 ≤ entries.length && entries.length ≤ 100)
        ⟨"invalid_environment", "Environment entries are invalid or exceed the limit.", service⟩
      require (entries.all fun e => environmentKeyPattern e.1 && !secretKeyPattern e.1 &&
          literal e.2)
        ⟨"unsafe_environment", "Environment values must be bounded non-secret literals.", service⟩

/-- One mount of a service, in the short or the long syntax. -/
def validateMount (service : String) : Json → Checked Unit
  | .str mount =>
      let source := String.ofList (splitFirst ':' mount.toList).1
      require (servicePattern source && source != "." && !source.toList.contains '/' &&
          !source.toList.contains '\\' && source != "/var/run/docker.sock")
        ⟨"unsafe_volume", "Bind mounts and Docker socket mounts are not allowed.", service⟩
  | .obj es =>
      require (match es.lookup "type", es.lookup "source", es.lookup "target" with
          | some (.str type), some (.str source), some (.str target) =>
              type == "volume" && servicePattern source && target.toList.head? == some '/'
          | _, _, _ => false)
        ⟨"unsafe_volume", "Only named volume mounts are allowed.", service⟩
  | _ => .error ⟨"unsafe_volume", "Only named volume mounts are allowed.", service⟩

def validateVolumes (value : Option Json) (service : String) : Checked Unit :=
  match value with
  | none => .ok ()
  | some (.arr mounts) => do
      require (mounts.length ≤ 50)
        ⟨"unsafe_volume", "Service volumes must be a bounded list of named volumes.", service⟩
      mounts.forM (validateMount service)
  | some _ => .error
      ⟨"unsafe_volume", "Service volumes must be a bounded list of named volumes.", service⟩

def disablesIsolation (option : String) : Bool :=
  let text := asciiLower option
  ["seccompunconfined", "seccomp:unconfined", "apparmorunconfined", "apparmor:unconfined",
    "label:disable"].any fun w => occurs w.toList text

def validateSecurityOptions (value : Option Json) (service : String) : Checked Unit :=
  let e := ⟨"unsafe_security_opt", "Security options may not disable isolation.", service⟩
  match value with
  | none => .ok ()
  | some (.arr items) => require (items.all fun item =>
      match item with
      | .str s => !disablesIsolation s
      | _ => false) e
  | some _ => .error e

/-! ### Deploy limits -/

def digits (cs : List Char) : Nat := cs.foldl (fun n c => 10 * n + (c.toNat - 48)) 0

/-- A decimal literal without sign: digits, a fraction, an exponent. -/
def decimal (cs : List Char) : Option Rat :=
  let whole := cs.takeWhile Char.isDigit
  let rest := cs.dropWhile Char.isDigit
  let (fraction, rest) := match rest with
    | '.' :: r => (r.takeWhile Char.isDigit, r.dropWhile Char.isDigit)
    | r => ([], r)
  let mantissa : Rat := (digits (whole ++ fraction) : Rat) / (10 ^ fraction.length : Nat)
  if whole.isEmpty && fraction.isEmpty then none
  else match rest with
    | [] => some mantissa
    | e :: r =>
        let (negative, ds) := match r with
          | '-' :: ds => (true, ds)
          | '+' :: ds => (false, ds)
          | ds => (false, ds)
        if (e = 'e' ∨ e = 'E') ∧ ds ≠ [] ∧ ds.all Char.isDigit then
          some (if negative then mantissa / (10 ^ digits ds : Nat)
            else mantissa * (10 ^ digits ds : Nat))
        else none

/-- `Number(text)`, `none` when that is not finite; only unsigned and negated decimals can
pass the bounds it is used for. -/
def stringToNumber (s : String) : Option Rat :=
  match trimBoth isJsSpace s.toList with
  | [] => some 0
  | '-' :: cs => (decimal cs).map fun q => -q
  | '+' :: cs => decimal cs
  | '0' :: x :: cs =>
      if x = 'x' ∨ x = 'X' then
        if cs ≠ [] ∧ cs.all isHex then
          some (cs.foldl (fun n c => 16 * n + (if c.isDigit then c.toNat - 48
            else if c.isLower then c.toNat - 87 else c.toNat - 55)) 0 : Nat)
        else none
      else if x = 'o' ∨ x = 'O' then
        if cs ≠ [] ∧ cs.all (fun c => '0' ≤ c ∧ c ≤ '7') then
          some (cs.foldl (fun n c => 8 * n + (c.toNat - 48)) 0 : Nat)
        else none
      else if x = 'b' ∨ x = 'B' then
        if cs ≠ [] ∧ cs.all (fun c => c = '0' ∨ c = '1') then
          some (cs.foldl (fun n c => 2 * n + (c.toNat - 48)) 0 : Nat)
        else none
      else decimal ('0' :: x :: cs)
  | cs => decimal cs

/-- `Number(value)`. -/
def toNumber : Option Json → Option Rat
  | some (.num value _) => value
  | some (.str s) => stringToNumber s
  | some (.bool b) => some (if b then 1 else 0)
  | some .null => some 0
  | some (.arr items) => stringToNumber (Json.arr items).jsString
  | _ => none

def validCpu (value : Option Json) : Bool :=
  match toNumber value with
  | some q => 1 / 10 ≤ q && q ≤ 8
  | none => false

def unitBytes (c : Char) : Option Nat :=
  if c = 'K' ∨ c = 'k' then some 1024
  else if c = 'M' ∨ c = 'm' then some (1024 ^ 2)
  else if c = 'G' ∨ c = 'g' then some (1024 ^ 3)
  else none

/-- `/^(\d+)([KMG])$/i`, between 32 MiB and 16 GiB. -/
def validMemory : Option Json → Bool
  | some (.str s) =>
      match s.toList.getLast?.bind unitBytes with
      | none => false
      | some unit =>
          let number := s.toList.dropLast
          let bytes := digits number * unit
          !number.isEmpty && number.all Char.isDigit &&
            32 * 1024 ^ 2 ≤ bytes && bytes ≤ 16 * 1024 ^ 3
  | _ => false

structure Warning where
  code : String
  service : Option String := none
deriving DecidableEq

def defaultResources : Json :=
  .obj [("limits", .obj [("cpus", .str "1.0"), ("memory", .str "512M")])]

def hasDevices : Option Json → Bool
  | some (.obj es) => (es.lookup "devices").isSome
  | _ => false

def validLimits : Option Json → Bool
  | some (.obj es) => validCpu (es.lookup "cpus") && validMemory (es.lookup "memory")
  | _ => false

/-- The service with its deploy section completed. -/
def validateDeploy (service : Entries) (name : String) : Checked (Entries × List Warning) := do
  match (service.lookup "deploy").getD (.obj []) with
  | .obj deploy =>
      rejectUnknownKeys deploy ["resources", "restart_policy"] "unsupported_deploy" name
      require (deploy.lookup "placement").isNone
        ⟨"forbidden_placement", "Deploy placement is not allowed.", name⟩
      match deploy.lookup "resources" with
      | none =>
          .ok (set "deploy" (.obj (set "resources" defaultResources deploy)) service,
            [⟨"resource_defaults_injected", name⟩])
      | some (.obj resources) =>
          rejectUnknownKeys resources ["limits", "reservations"] "unsupported_resources" name
          require (!hasDevices (resources.lookup "reservations"))
            ⟨"forbidden_device_reservation", "Device reservations are not allowed.", name⟩
          require (validLimits (resources.lookup "limits"))
            ⟨"resource_limits_required", "CPU and memory limits are required.", name⟩
          .ok (service, [])
      | some _ => .error ⟨"invalid_resources", "deploy.resources must be a mapping.", name⟩
  | _ => .error ⟨"invalid_deploy", "deploy must be a mapping.", name⟩

/-! ### The evaluation -/

structure ServiceSummary where
  name : String
  image : String
  digestPinned : Bool
  healthcheck : Bool
deriving DecidableEq

def firstForbidden (service : Entries) : Option String :=
  forbiddenKeys.find? fun key => (service.lookup key).isSome

def pinnedImage : Option Json → Option String
  | some (.str image) =>
      if imagePattern image && hasPinnedImage image && !latestImage image then some image
      else none
  | _ => none

/-- `String(service.restart ?? '')`. -/
def restartText : Option Json → String
  | none | some .null => ""
  | some v => v.jsString

/-- All checks on one service; the service comes back with its deploy section completed. -/
def validateService (e : String × Json) :
    Checked ((String × Json) × ServiceSummary × List Warning) := do
  let name := e.1
  match e.2 with
  | .obj service =>
      require (servicePattern name) ⟨"invalid_service", "Service " ++ name ++ " is invalid.", name⟩
      rejectUnknownKeys service serviceKeys "unsupported_service_key" name
      match firstForbidden service with
      | some key => .error ⟨"forbidden_" ++ key, key ++ " is not allowed.", name⟩
      | none =>
          match pinnedImage (service.lookup "image") with
          | none => .error ⟨"image_not_pinned",
              "Each service image must have an explicit non-latest tag or sha256 digest.", name⟩
          | some image =>
              let digestPinned := occurs "@sha256:".toList image.toList
              require (["always", "unless-stopped", "on-failure"].contains
                  (restartText (service.lookup "restart")))
                ⟨"restart_required",
                  "Each service requires always, unless-stopped, or on-failure restart policy.",
                  name⟩
              validateEnvironment (service.lookup "environment") name
              validateVolumes (service.lookup "volumes") name
              validateSecurityOptions (service.lookup "security_opt") name
              let (completed, warnings) ← validateDeploy service name
              let healthcheck := (completed.lookup "healthcheck").any Json.isObject
              .ok ((name, .obj completed), ⟨name, image, digestPinned, healthcheck⟩,
                (if digestPinned then [] else [⟨"image_digest_recommended", name⟩]) ++ warnings ++
                  if healthcheck then [] else [⟨"healthcheck_recommended", some name⟩])
  | _ => .error ⟨"invalid_service", "Service " ++ name ++ " is invalid.", name⟩

/-- The source with its parameters, parsed: a mapping. -/
def decode (js : Runtime) (source : String) (parameters : Entries) : Checked Document := do
  let expanded ← substituteParameters source parameters
  let document := js.parseDocument expanded
  require (!document.errors) ⟨"invalid_yaml", "Compose YAML could not be parsed safely.", none⟩
  require (document.nodeCount ≤ 10000)
    ⟨"compose_too_complex", "Compose document is too complex.", none⟩
  match document.toJS with
  | none => .error ⟨"aliases_exceeded", "Compose aliases exceed the allowed limit.", none⟩
  | some value => .ok value

end GatewayControl.ComposePolicy
