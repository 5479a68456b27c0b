import GatewayControl.AgentPayloads

/-!
What may follow the value that a strict decoder accepts.

The second value is decoded into `struct{}`, and only a success counts as trailing data. So what
follows is found only if it begins like a value without content.
-/

namespace GatewayControl.TrailingData

open AgentTypes JsonDecoder AgentPayloads

def Succeeds {α : Type} (result : Except String α) : Prop := ∃ value, result = .ok value

variable {α β : Type} {schema : Schema α} {raw : Bytes}

lemma succeeds_decodeOnly {invalid : String → String} {trailing : String}
    {check : α → Except String β} :
    Succeeds ((decodeOnly schema invalid trailing raw).bind check) ↔
      ∃ value rest, schema.decode (text raw) = .ok (value, rest) ∧ beginsEmpty rest = false ∧
        Succeeds (check value) := by
  unfold decodeOnly
  cases hdecode : schema.decode (text raw) with
  | error err =>
    constructor
    · rintro ⟨v, ⟨⟩⟩
    · rintro ⟨value, rest, ⟨⟩, -⟩
  | ok first =>
    obtain ⟨value, rest⟩ := first
    dsimp only
    rw [decodesNothing_eq]
    cases hempty : beginsEmpty rest with
    | true =>
      constructor
      · rintro ⟨v, ⟨⟩⟩
      · rintro ⟨value', rest', heq, hother, -⟩
        obtain ⟨-, rfl⟩ := Prod.mk.inj (Except.ok.inj heq)
        rw [hempty] at hother
        cases hother
    | false =>
      constructor
      · intro h
        exact ⟨value, rest, rfl, hempty, h⟩
      · rintro ⟨value', rest', heq, -, h⟩
        obtain ⟨rfl, -⟩ := Prod.mk.inj (Except.ok.inj heq)
        exact h

lemma succeeds_sized {sized : Prop} [Decidable sized] {message : String}
    {result : Except String β} :
    Succeeds (if sized then .error message else result) ↔ ¬sized ∧ Succeeds result := by
  by_cases h : sized
  · rw [if_pos h]
    constructor
    · rintro ⟨v, ⟨⟩⟩
    · rintro ⟨hnot, -⟩
      exact absurd h hnot
  · rw [if_neg h]
    exact ⟨fun hr => ⟨h, hr⟩, And.right⟩

/-- Any of the decoders: a bound on the length, the two decodings, and the checks. -/
lemma alone_iff_sized {sized : Prop} [Decidable sized] {message trailing : String}
    {invalid : String → String} {check : α → Except String β} :
    (Succeeds (if sized then .error message
        else (decodeOnly schema invalid trailing raw).bind check) → Alone schema (text raw)) ↔
      ¬(¬sized ∧ Tolerated schema (fun value => Succeeds (check value)) (text raw)) :=
  alone_iff_of (succeeds_sized.trans (and_congr_right fun _ => succeeds_decodeOnly))

lemma succeeds_strictDecode {check : α → Except String β} :
    Succeeds ((strictDecode schema raw).bind check) ↔ ¬raw = [] ∧ ∃ value rest,
      schema.decode (text raw) = .ok (value, rest) ∧ beginsEmpty rest = false ∧
        Succeeds (check value) := by
  unfold strictDecode
  by_cases hraw : raw = []
  · rw [if_pos hraw]
    constructor
    · rintro ⟨v, ⟨⟩⟩
    · rintro ⟨hnot, -⟩
      exact absurd hraw hnot
  · rw [if_neg hraw, succeeds_decodeOnly]
    exact ⟨fun h => ⟨hraw, h⟩, And.right⟩

/-- The manifest is decoded strictly, and then it is checked. -/
lemma succeeds_manifest {schema : Schema BackupManifest}
    {validate : BackupManifest → Except String Unit} :
    Succeeds (loadAndValidateManifest schema validate raw) ↔
      (¬2 ^ 20 < raw.length ∧ ¬raw = []) ∧ ∃ manifest rest,
        schema.decode (text raw) = .ok (manifest, rest) ∧ beginsEmpty rest = false ∧
        Succeeds (validate manifest) := by
  unfold loadAndValidateManifest
  rw [succeeds_sized, and_assoc, ← succeeds_strictDecode]
  refine and_congr_right fun _ => ?_
  cases strictDecode schema raw with
  | error err =>
    constructor
    · rintro ⟨v, ⟨⟩⟩
    · rintro ⟨v, ⟨⟩⟩
  | ok manifest =>
    change Succeeds ((validate manifest).map fun _ => manifest) ↔ Succeeds (validate manifest)
    cases validate manifest with
    | error err =>
      constructor
      · rintro ⟨v, ⟨⟩⟩
      · rintro ⟨v, ⟨⟩⟩
    | ok => exact ⟨fun _ => ⟨_, rfl⟩, fun _ => ⟨manifest, rfl⟩⟩

/-- Each decoder accepts nothing but one value and white space just if what follows an accepted
value is blank or begins, after white space, with `null` or an object without members. -/
theorem alone_iff_all (raw : Bytes) (schema : Schema α) (compose : Schema ComposePayload)
    (connector : Schema ConnectorSyncPayload) (remove : Schema ConnectorRemovePayload)
    (route : Schema RouteSyncPayload) (deployment : Schema DeploymentApply.DeploymentPayload)
    (manifest : Schema BackupManifest) (net : Net) (e : DeploymentApply.Executor)
    (validate : BackupManifest → Except String Unit) :
    ((Succeeds (strictDecode schema raw) → Alone schema (text raw)) ↔
      ¬(raw ≠ [] ∧ Tolerated schema (fun _ => True) (text raw))) ∧
    ((Succeeds (decodeComposePayload compose raw) → Alone compose (text raw)) ↔
      ¬(raw ≠ [] ∧ Tolerated compose (fun p => Succeeds (checkCompose p)) (text raw))) ∧
    ((Succeeds (decodeConnectorSyncPayload connector raw) → Alone connector (text raw)) ↔
      ¬(raw ≠ [] ∧ Tolerated connector
        (fun p => Succeeds (ConnectorSync.decodeConnectorSyncPayload (some p))) (text raw))) ∧
    ((Succeeds (decodeConnectorRemovePayload remove raw) → Alone remove (text raw)) ↔
      ¬Tolerated remove (fun p => Succeeds (checkConnectorRemove p)) (text raw)) ∧
    ((Succeeds (decodeRouteSyncPayload net route raw) → Alone route (text raw)) ↔
      ¬(¬(raw = [] ∨ maximumRoutePayloadBytes < raw.length) ∧
        Tolerated route (fun p => Succeeds (checkRoute net p)) (text raw))) ∧
    ((Succeeds (decodeDeploymentComposePayload e deployment raw) →
        Alone deployment (text raw)) ↔
      ¬(¬(raw = [] ∨ maximumDeploymentPayloadBytes < raw.length) ∧
        Tolerated deployment (fun p =>
          Succeeds (DeploymentApply.decodeDeploymentComposePayload e (some p))) (text raw))) ∧
    ((Succeeds (loadAndValidateManifest manifest validate raw) → Alone manifest (text raw)) ↔
      ¬((¬2 ^ 20 < raw.length ∧ ¬raw = []) ∧
        Tolerated manifest (fun m => Succeeds (validate m)) (text raw))) := by
  refine ⟨alone_iff_of ?_, alone_iff_sized, alone_iff_sized, ?_, alone_iff_sized, alone_iff_sized,
    alone_iff_of succeeds_manifest⟩
  · have hstrict : strictDecode schema raw = (strictDecode schema raw).bind .ok := by
      cases strictDecode schema raw <;> rfl
    refine (iff_of_eq (congrArg Succeeds hstrict)).trans (succeeds_strictDecode.trans ?_)
    simp only [Succeeds, Except.ok.injEq, exists_eq', and_true, ne_eq]
  · have hremove : Succeeds (decodeConnectorRemovePayload remove raw) ↔ True ∧
        ∃ p rest, remove.decode (text raw) = .ok (p, rest) ∧ beginsEmpty rest = false ∧
          Succeeds (checkConnectorRemove p) :=
      succeeds_decodeOnly.trans (iff_of_eq (true_and _)).symm
    have halone := alone_iff_of hremove
    rwa [true_and] at halone

def sampleText : String := "\x7b\"stack\":\"web\",\"project\":\"web\"\x7d"

def samplePayload : ComposePayload := ⟨"web", "web", ""⟩

def sampleSchema : Schema ComposePayload where
  unmarshal text := if text = sampleText.toList then .ok samplePayload else .error "another value"
  syntaxError := fun _ => "invalid character"

def followed (following : String) : Bytes :=
  (sampleText ++ following).toList.map fun c => UInt8.ofNat c.toNat

lemma decode_followed : sampleSchema.decode (text (followed " [1] ?")) =
    .ok (samplePayload, " [1] ?".toList) := by
  decide

/-- A second value and garbage are not found. -/
theorem second_value_accepted :
    decodeComposePayload sampleSchema (followed " [1] ?") = .ok samplePayload ∧
      ¬Alone sampleSchema (text (followed " [1] ?")) := by
  refine ⟨by decide, ?_⟩
  rintro ⟨payload, rest, hdecode, hblank⟩
  rw [decode_followed] at hdecode
  obtain ⟨-, rfl⟩ := Prod.mk.inj (Except.ok.inj hdecode)
  exact absurd (hblank '[' (by decide)) (by decide)

end GatewayControl.TrailingData
