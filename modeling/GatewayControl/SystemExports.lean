import Mathlib.Data.Int.Basic

/-!
Exports of system backups: the route's limit, the awaits of `exportArtifact` and the events of
the streams that are sent. One step is what the server runs without awaiting.
-/

namespace GatewayControl.SystemExports

/-- What `exportArtifact` awaits. -/
inductive Stage where
  | lookup
  | opening
  | before
  | checksum
  | after
  | recording
deriving DecidableEq

def Stage.next : Stage → Option Stage
  | .lookup => some .opening
  | .opening => some .before
  | .before => some .checksum
  | .checksum => some .after
  | .after => some .recording
  | .recording => none

/-- Whether the artifact's handle is open, so that a failure closes it. -/
def Stage.hasHandle : Stage → Bool
  | .lookup | .opening => false
  | _ => true

/-- An export's stream, with the events it has emitted, and the `released` of its handler. -/
structure Transfer where
  destroyed : Bool := false
  errored : Bool := false
  closed : Bool := false
  released : Bool := false
deriving DecidableEq

/-- Until its handler goes on with the artifact a request is `exporting`. -/
inductive Request where
  | refused
  | exporting (stage : Stage)
  | closing
  | failed
  | streaming (transfer : Transfer)
deriving DecidableEq

structure Server where
  activeSystemBackupExports : ℤ := 0
  requests : List Request := []
deriving DecidableEq

inductive Step where
  | arrives
  /-- What is awaited is there, and the checks that follow it pass. -/
  | resolves (i : ℕ)
  | rejects (i : ℕ)
  /-- `close` of the response. -/
  | disconnects (i : ℕ)
  /-- At its end, after a failed `send`, or by the framework. -/
  | destroys (i : ℕ)
  | errors (i : ℕ)
  | closes (i : ℕ)
deriving DecidableEq

namespace Server

def put (s : Server) (i : ℕ) (request : Request) : Server :=
  { s with requests := s.requests.set i request }

/-- `releaseExport`, a listener of `close` and of `error`; `transfer` has the event already. -/
def releaseExport (s : Server) (i : ℕ) (transfer : Transfer) : Server :=
  if transfer.released then s.put i (.streaming transfer)
  else
    { activeSystemBackupExports := s.activeSystemBackupExports - 1
      requests := s.requests.set i (.streaming { transfer with released := true }) }

/-- The handler up to its first await. -/
def arrive (s : Server) : Server :=
  { s with requests := s.requests ++
      [if s.activeSystemBackupExports ≥ 2 then .refused else .exporting .lookup] }

/-- The handler after `exportArtifact`: it counts and attaches the listeners. -/
def send (s : Server) (i : ℕ) : Server where
  activeSystemBackupExports := s.activeSystemBackupExports + 1
  requests := s.requests.set i (.streaming {})

def resolve (s : Server) (i : ℕ) : Option Server :=
  match s.requests[i]? with
  | some (.exporting stage) =>
      match stage.next with
      | some stage => some (s.put i (.exporting stage))
      | none => some (s.send i)
  | some .closing => some (s.put i .failed)
  | _ => none

def reject (s : Server) (i : ℕ) : Option Server :=
  match s.requests[i]? with
  | some (.exporting stage) => some (s.put i (if stage.hasHandle then .closing else .failed))
  | some .closing => some (s.put i .failed)
  | _ => none

def disconnect (s : Server) (i : ℕ) : Option Server :=
  match s.requests[i]? with
  | some (.streaming transfer) =>
      some (if transfer.destroyed then s
        else s.put i (.streaming { transfer with destroyed := true }))
  | some _ => some s
  | none => none

def destroy (s : Server) (i : ℕ) : Option Server :=
  match s.requests[i]? with
  | some (.streaming transfer) => some (s.put i (.streaming { transfer with destroyed := true }))
  | _ => none

/-- A stream emits `error` at most once, and before `close`. -/
def error (s : Server) (i : ℕ) : Option Server :=
  match s.requests[i]? with
  | some (.streaming transfer) =>
      if transfer.errored || transfer.closed then none
      else some (s.releaseExport i { transfer with destroyed := true, errored := true })
  | _ => none

/-- A stream that is destroyed emits `close` once. -/
def close (s : Server) (i : ℕ) : Option Server :=
  match s.requests[i]? with
  | some (.streaming transfer) =>
      if transfer.destroyed && !transfer.closed then
        some (s.releaseExport i { transfer with closed := true })
      else none
  | _ => none

def step (s : Server) : Step → Option Server
  | .arrives => some s.arrive
  | .resolves i => s.resolve i
  | .rejects i => s.reject i
  | .disconnects i => s.disconnect i
  | .destroys i => s.destroy i
  | .errors i => s.error i
  | .closes i => s.close i

def run (s : Server) : List Step → Option Server
  | [] => some s
  | a :: actions => (s.step a).bind fun s => s.run actions

end Server

end GatewayControl.SystemExports
