import Mathlib.Data.List.AList
import GatewayControl.AgentTypes

/-!
The agent's durable state: one record for each command it was ever handed, kept in
memory and in one file. The methods here are the memory half of the `state` package;
writing the file is an effect of the agent's programs.
-/

namespace GatewayControl.AgentStore

open AgentTypes

structure Credentials where
  agentId : String
  apiCredential : String
deriving DecidableEq

structure CommandRecord where
  status : String
  result : Option CommandResult := none
  delivered : Bool := false
  updatedAt : Time
deriving DecidableEq

/-- `map[string]CommandRecord`. -/
abbrev Commands := AList fun _ : String => CommandRecord

structure Data where
  credentials : Option Credentials := none
  commands : Commands := ∅

namespace Data

def command (d : Data) (id : String) : Option CommandRecord := d.commands.lookup id

def assign (d : Data) (id : String) (r : CommandRecord) : Data :=
  { d with commands := d.commands.insert id r }

@[simp] lemma command_assign (d : Data) (id : String) (r : CommandRecord) :
    (d.assign id r).command id = some r := by
  simp [command, assign]

lemma command_assign_ne (d : Data) {id k : String} (r : CommandRecord) (h : k ≠ id) :
    (d.assign id r).command k = d.command k := by
  simp [command, assign, AList.lookup_insert_ne h]

lemma command_isSome_assign (d : Data) {id k : String} (r : CommandRecord)
    (h : (d.command k).isSome) : ((d.assign id r).command k).isSome := by
  by_cases hk : k = id
  · simp [hk]
  · rwa [command_assign_ne d r hk]

end Data

/-- The record `MarkRunning` makes. -/
def runningRecord (now : Time) : CommandRecord where
  status := "running"
  updatedAt := now

/-- The record `SaveResult` makes. -/
def completedRecord (result : CommandResult) (now : Time) : CommandRecord where
  status := "completed"
  result := some result
  updatedAt := now

/-- The outputs `MarkDelivered` blanks, through the pointer the map shares. -/
def stripOutputs (r : CommandResult) : CommandResult :=
  { r with stdout := "", stderr := "", logs := "" }

/-- The record `MarkDelivered` makes of one that has a result. -/
def deliveredRecord (record : CommandRecord) (now : Time) : CommandRecord :=
  { record with
    delivered := true
    updatedAt := now
    result := record.result.map stripOutputs }

/-- The result a record still has to deliver. -/
def CommandRecord.pending (r : CommandRecord) : Option CommandResult :=
  if r.delivered then none else r.result

/-- `PendingResults`, up to the order Go's map iteration picks. -/
def Data.pendingResults (d : Data) : List CommandResult :=
  d.commands.entries.filterMap fun e => e.2.pending

lemma Data.mem_pendingResults {d : Data} {r : CommandResult} :
    r ∈ d.pendingResults ↔ ∃ id record, d.command id = some record ∧ record.pending = some r := by
  simp only [Data.pendingResults, List.mem_filterMap, Data.command]
  constructor
  · rintro ⟨⟨id, record⟩, hmem, hr⟩
    exact ⟨id, record, AList.mem_lookup_iff.2 hmem, hr⟩
  · rintro ⟨id, record, hl, hr⟩
    exact ⟨⟨id, record⟩, AList.mem_lookup_iff.1 hl, hr⟩

end GatewayControl.AgentStore
