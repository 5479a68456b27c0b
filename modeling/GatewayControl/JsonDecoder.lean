import GatewayControl.JsonText

/-!
A decoder that takes one JSON value after another off the front of a text, as Go's
`json.Decoder` does: a value ends where it ends, whatever follows it.
-/

namespace GatewayControl.JsonDecoder

open JsonText

/-- What the values of a type are decoded from, without unknown fields. A value that is nested
too deep is one that `unmarshal` refuses. -/
structure Schema (α : Type*) where
  unmarshal : List Char → Except String α
  syntaxError : List Char → String

/-- The value at the front and what follows it. -/
def readValue (text : List Char) : Option (Tree × List Char) :=
  parseValue (text.length + 1) (skipWs text)

variable {α : Type*} (schema : Schema α)

def Schema.decode (text : List Char) : Except String (α × List Char) :=
  match readValue text with
  | none => .error (schema.syntaxError text)
  | some (_, rest) =>
      (schema.unmarshal (text.take (text.length - rest.length))).map fun value => (value, rest)

/-- Whether a value can be decoded into `struct{}` without unknown fields. -/
def fitsNothing : Tree → Bool
  | .word word => word == "null".toList
  | .object [] => true
  | _ => false

/-- `Decode(&struct{}{}) == nil`. -/
def decodesNothing (text : List Char) : Bool :=
  match readValue text with
  | some (tree, _) => fitsNothing tree
  | none => false

/-- The text begins, after white space, with `null` or with an object without members. -/
def beginsEmpty (text : List Char) : Bool :=
  "null".toList.isPrefixOf (skipWs text) ||
    match skipWs text with
    | '{' :: rest => (skipWs rest).head? == some '}'
    | _ => false

lemma parseMembers_ne_nil {value : List Char → Option (Tree × List Char)} {fuel : ℕ}
    {text rest : List Char} {members : List (List Item × Tree)}
    (h : parseMembers value fuel text = some (members, rest)) : members ≠ [] := by
  obtain ⟨_, _, _, _, _, _, _, -, -, -, -, -, hend⟩ := parseMembers_cases h
  rcases hend with ⟨_, _, -, -, rfl⟩ | ⟨-, rfl⟩
  · exact List.cons_ne_nil _ _
  · exact List.cons_ne_nil _ _

lemma beginsEmpty_of_read {fuel : ℕ} {text rest : List Char} {tree : Tree}
    (h : Read fuel (skipWs text) tree rest) (hfits : fitsNothing tree = true) :
    beginsEmpty text = true := by
  unfold beginsEmpty
  generalize skipWs text = start at h
  cases h with
  | string h => cases hfits
  | emptyObject h => simp [h]
  | object h =>
    obtain ⟨member, members, rfl⟩ := List.exists_cons_of_ne_nil (parseMembers_ne_nil h)
    cases hfits
  | emptyArray h => cases hfits
  | array h => cases hfits
  | scalar h =>
    obtain ⟨front, rfl, -, rfl | rfl⟩ := parseScalar_cases h
    · obtain rfl : front = "null".toList := by simpa [fitsNothing] using hfits
      rw [List.isPrefixOf_iff_prefix.mpr (List.prefix_append _ _), Bool.true_or]
    · cases hfits

/-- What decodes into nothing is told by how it begins. -/
theorem decodesNothing_eq (text : List Char) : decodesNothing text = beginsEmpty text := by
  rw [Bool.eq_iff_iff]
  constructor
  · intro h
    unfold decodesNothing at h
    split at h
    · next tree rest hread =>
      obtain ⟨fuel, -, hvalue⟩ := parseValue_cases hread
      exact beginsEmpty_of_read hvalue h
    · cases h
  · intro h
    unfold beginsEmpty at h
    unfold decodesNothing readValue
    rcases Bool.or_eq_true_iff.mp h with hnull | hobject
    · obtain ⟨rest, hrest⟩ := List.isPrefixOf_iff_prefix.mp hnull
      have hread : parseValue (text.length + 1) (skipWs text) =
          some (.word "null".toList, rest) := by
        rw [← hrest]
        rfl
      rw [hread]
      rfl
    · split at hobject
      · next rest hstart =>
        obtain ⟨rest', hend⟩ : ∃ rest', skipWs rest = '}' :: rest' := by
          cases hskip : skipWs rest with
          | nil =>
            rw [hskip] at hobject
            cases hobject
          | cons c rest' =>
            rw [hskip] at hobject
            obtain rfl : c = '}' := by simpa using hobject
            exact ⟨rest', rfl⟩
        rw [hstart, parseValue, hend]
        rfl
      · cases hobject

/-! ### One value -/

/-- One value of the schema and white space. -/
def Alone (text : List Char) : Prop :=
  ∃ value rest, schema.decode text = .ok (value, rest) ∧ ∀ c ∈ rest, isWs c = true

/-- A value that is accepted, and after it something that does not begin like an empty value. -/
def Tolerated (accepts : α → Prop) (text : List Char) : Prop :=
  ∃ value rest, schema.decode text = .ok (value, rest) ∧ accepts value ∧
    beginsEmpty rest = false ∧ ∃ c ∈ rest, isWs c = false

variable {schema}

lemma alone_iff_of {β : Type*} {result : Except String β} {text : List Char} {sized : Prop}
    {accepts : α → Prop}
    (h : (∃ v, result = .ok v) ↔ sized ∧ ∃ value rest, schema.decode text = .ok (value, rest) ∧
      beginsEmpty rest = false ∧ accepts value) :
    ((∃ v, result = .ok v) → Alone schema text) ↔ ¬(sized ∧ Tolerated schema accepts text) := by
  rw [h]
  constructor
  · rintro halone ⟨hsized, value, rest, hdecode, haccepts, hempty, c, hc, hblack⟩
    obtain ⟨value', rest', hdecode', hblank⟩ :=
      halone ⟨hsized, value, rest, hdecode, hempty, haccepts⟩
    obtain ⟨-, rfl⟩ := Prod.mk.inj (Except.ok.inj (hdecode.symm.trans hdecode'))
    rw [hblank c hc] at hblack
    cases hblack
  · rintro htolerated ⟨hsized, value, rest, hdecode, hempty, haccepts⟩
    refine ⟨value, rest, hdecode, fun c hc => ?_⟩
    by_contra hblack
    exact htolerated ⟨hsized, value, rest, hdecode, haccepts, hempty, c, hc,
      Bool.eq_false_iff.mpr hblack⟩

end GatewayControl.JsonDecoder
