import GatewayControl.AgentTypes
import GatewayControl.Jsonb

/-!
A command result as the agent writes it and the control plane reads it: the entries of the
JSON object, and how many bytes the request takes.

Numbers are kept exact; the results' own stay far below the precision of JavaScript's.
-/

namespace GatewayControl.Wire

open AgentTypes Json

/-! ### Times -/

/-- Year, month and day of a day counted from the epoch. -/
def civil (day : Nat) : Nat × Nat × Nat :=
  let z := day + 719468
  let era := z / 146097
  let doe := z % 146097
  let yoe := (doe + doe / 36524 - doe / 1460 - doe / 146096) / 365
  let doy := doe + yoe / 100 - 365 * yoe - yoe / 4
  let mp := (5 * doy + 2) / 153
  let d := doy - (153 * mp + 2) / 5 + 1
  let m := if mp < 10 then mp + 3 else mp - 9
  (yoe + era * 400 + (if m ≤ 2 then 1 else 0), m, d)

def digits (width n : Nat) : List Char :=
  let ds := Nat.toDigits 10 n
  List.replicate (width - ds.length) '0' ++ ds

/-- The fraction of a second, without its last zeros. -/
def fraction (nanoseconds : Nat) : List Char :=
  if nanoseconds = 0 then []
  else '.' :: ((digits 9 nanoseconds).reverse.dropWhile (· == '0')).reverse

/-- `MarshalJSON` of a `time.Time` in UTC. -/
def timestamp (t : AgentTypes.Time) : String :=
  let seconds := t / 1000000000
  let (year, month, day) := civil (seconds / 86400)
  let clock := seconds % 86400
  String.ofList (digits 4 year ++ '-' :: digits 2 month ++ '-' :: digits 2 day ++
    'T' :: digits 2 (clock / 3600) ++ ':' :: digits 2 (clock / 60 % 60) ++
    ':' :: digits 2 (clock % 60) ++ fraction (t % 1000000000) ++ ['Z'])

example : timestamp 951827696500000000 = "2000-02-29T12:34:56.5Z" := by decide

/-! ### Results -/

def number (n : Int) : Json := .num (some n) (toString n)

/-- `omitempty`. -/
def unlessEmpty (key s : String) : Entries := if s = "" then [] else [(key, .str s)]

def unlessZero (key : String) (n : Int) : Entries := if n = 0 then [] else [(key, number n)]

def encodeCheck (c : DiagnosticCheck) : Json :=
  .obj (("state", .str c.state) :: unlessEmpty "detail" c.detail)

def encodeConnector (c : ConnectorDiagnostic) : Json :=
  .obj (("status", .str c.status) :: unlessEmpty "error" c.error)

def encodeDiagnostics (d : Diagnostics) : Json :=
  .obj (("checks", .obj (d.checks.map fun e => (e.1, encodeCheck e.2))) ::
    if d.connectors.isEmpty then []
    else [("connectors", .obj (d.connectors.map fun e => (e.1, encodeConnector e.2)))])

def encodeArtifact (a : BackupArtifact) : Json :=
  .obj [("type", .str a.type), ("name", .str a.name), ("sizeBytes", number a.sizeBytes),
    ("sha256", .str a.sha256)]

def encodeResult (r : CommandResult) : Json :=
  .obj ([("command_id", .str r.commandId), ("type", .str r.type), ("success", .bool r.success),
      ("exit_code", number r.exitCode), ("stdout", .str r.stdout), ("stderr", .str r.stderr),
      ("error", .str r.error)] ++
    unlessEmpty "code" r.code ++
    [("timed_out", .bool r.timedOut), ("truncated", .bool r.truncated),
      ("started_at", .str (timestamp r.startedAt)),
      ("finished_at", .str (timestamp r.finishedAt))] ++
    unlessEmpty "logs" r.logs ++ unlessEmpty "backupId" r.backupId ++
    unlessEmpty "restoreId" r.restoreId ++ unlessEmpty "stackId" r.stackId ++
    unlessEmpty "target" r.target ++ unlessZero "revision" r.revision ++
    unlessZero "sizeBytes" r.sizeBytes ++ unlessZero "fileCount" r.fileCount ++
    unlessEmpty "checksum" r.checksum ++
    (r.diagnostics.map fun d => ("diagnostics", encodeDiagnostics d)).toList ++
    unlessEmpty "runtimeStatus" r.runtimeStatus ++ unlessEmpty "message" r.message ++
    unlessZero "durationMs" r.durationMs ++ unlessZero "matched" r.matched ++
    unlessZero "succeeded" r.succeeded ++ unlessZero "failed" r.failed ++
    if r.artifacts.isEmpty then [] else [("artifacts", .arr (r.artifacts.map encodeArtifact))])

/-- The status `SubmitResult` reports. -/
def status (r : CommandResult) : String := if r.success then "succeeded" else "failed"

def encodeBody (r : CommandResult) : Json :=
  .obj [("status", .str (status r)), ("result", encodeResult r)]

/-! ### Go's text -/

/-- The bytes `json.Marshal` writes for a character of a string. -/
def goBytes (c : Char) : Nat :=
  if c ∈ ['"', '\\', '\n', '\r', '\t', '\x08', '\x0c'] then 2
  else if c.toNat < 32 ∨ c ∈ ['<', '>', '&'] ∨ c.toNat = 0x2028 ∨ c.toNat = 0x2029 then 6
  else c.utf8Size

def goString (s : String) : Nat := 2 + (s.toList.map goBytes).sum

mutual

/-- The bytes of a value's text. -/
def goLength : Json → Nat
  | .null => 4
  | .bool b => if b then 4 else 5
  | .num _ text => text.length
  | .str s => goString s
  | .arr items => 1 + goItems items
  | .obj es => 1 + goEntries es
termination_by structural v => v

/-- Items and entries end with a comma or the closing bracket. -/
def goItems : List Json → Nat
  | [] => 1
  | [v] => goLength v + 1
  | v :: vs => goLength v + 1 + goItems vs
termination_by structural vs => vs

def goEntries : List (String × Json) → Nat
  | [] => 1
  | [e] => goEntry e + 1
  | e :: es => goEntry e + 1 + goEntries es
termination_by structural es => es

def goEntry : String × Json → Nat
  | (k, v) => goString k + 1 + goLength v
termination_by structural e => e

end

example : goLength (.obj [("a", .arr [.null, .str "<"]), ("b", .num (some 1) "1")]) =
    "\x7b'a':[null,'\\u003c'],'b':1\x7d".length := by decide

end GatewayControl.Wire
