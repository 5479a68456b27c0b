import GatewayControl.HostIsolation
import GatewayControl.Jsonb

/-!
Variable references in normalised documents, and the environment Docker Compose replaces
them from.

The policy looks for `$` and an opening brace in the text, before it is parsed. Compose looks
at the parsed scalars, and knows a name without braces as well. How Compose replaces a
reference is a parameter; what it reads from the normalised text is the normalised document.
-/

namespace GatewayControl.ClosedCompose

open Text Json Checks ComposePolicy HostIsolation

/-! ### References -/

def isNameStart (c : Char) : Bool := c.isAlpha || c == '_'

/-- A dollar sign before a name or a brace, unless it is escaped by another. -/
def referenceIn : List Char → Bool
  | '$' :: '$' :: cs => referenceIn cs
  | '$' :: c :: cs => isNameStart c || c == '\x7b' || referenceIn (c :: cs)
  | _ :: cs => referenceIn cs
  | [] => false

def hasReference (s : String) : Bool := referenceIn s.toList

/-- No key and no scalar has a reference. -/
def Closed (v : Json) : Prop := ∀ s ∈ v.strings, hasReference s = false

/-! ### The agent's environment -/

mutual

/-- All scalars of a model, its keys left alone. -/
def interpolate (replace : String → Option String) : Json → Option Json
  | .str s => (replace s).map Json.str
  | .arr items => (interpolateItems replace items).map Json.arr
  | .obj es => (interpolateEntries replace es).map Json.obj
  | v => some v
termination_by structural v => v

def interpolateItems (replace : String → Option String) : List Json → Option (List Json)
  | [] => some []
  | v :: vs =>
      match interpolate replace v, interpolateItems replace vs with
      | some w, some ws => some (w :: ws)
      | _, _ => none
termination_by structural vs => vs

def interpolateEntries (replace : String → Option String) :
    List (String × Json) → Option (List (String × Json))
  | [] => some []
  | e :: es =>
      match interpolateEntry replace e, interpolateEntries replace es with
      | some w, some ws => some (w :: ws)
      | _, _ => none
termination_by structural es => es

def interpolateEntry (replace : String → Option String) : String × Json → Option (String × Json)
  | (k, v) => (interpolate replace v).map fun w => (k, w)
termination_by structural e => e

end

mutual

/-- Replacements that agree on the strings of a value agree on it. -/
theorem interpolate_congr {f g : String → Option String} :
    (v : Json) → (∀ s ∈ v.strings, f s = g s) → interpolate f v = interpolate g v
  | .str s, h => by
      rw [interpolate, interpolate, h s (by simp [strings])]
  | .arr items, h => by
      rw [interpolate, interpolate, interpolateItems_congr items h]
  | .obj es, h => by
      rw [interpolate, interpolate, interpolateEntries_congr es h]
  | .null, _ => rfl
  | .bool _, _ => rfl
  | .num _ _, _ => rfl
termination_by structural v => v

theorem interpolateItems_congr {f g : String → Option String} :
    (vs : List Json) → (∀ s ∈ itemStrings vs, f s = g s) →
      interpolateItems f vs = interpolateItems g vs
  | [], _ => rfl
  | v :: vs, h => by
      rw [itemStrings] at h
      rw [interpolateItems, interpolateItems,
        interpolate_congr v fun s hs => h s (List.mem_append_left _ hs),
        interpolateItems_congr vs fun s hs => h s (List.mem_append_right _ hs)]
termination_by structural vs => vs

theorem interpolateEntries_congr {f g : String → Option String} :
    (es : List (String × Json)) → (∀ s ∈ entryStrings es, f s = g s) →
      interpolateEntries f es = interpolateEntries g es
  | [], _ => rfl
  | e :: es, h => by
      rw [entryStrings] at h
      rw [interpolateEntries, interpolateEntries,
        interpolateEntry_congr e fun s hs => h s (List.mem_append_left _ hs),
        interpolateEntries_congr es fun s hs => h s (List.mem_append_right _ hs)]
termination_by structural es => es

theorem interpolateEntry_congr {f g : String → Option String} :
    (e : String × Json) → (∀ s ∈ pairStrings e, f s = g s) →
      interpolateEntry f e = interpolateEntry g e
  | (k, v), h => by
      rw [pairStrings] at h
      rw [interpolateEntry, interpolateEntry,
        interpolate_congr v fun s hs => h s (List.mem_cons_of_mem _ hs)]
termination_by structural e => e

end

lemma mem_itemStrings {vs : List Json} {s : String} :
    s ∈ itemStrings vs ↔ ∃ v ∈ vs, s ∈ v.strings := by
  induction vs with
  | nil => simp [itemStrings]
  | cons v vs ih => rw [itemStrings, List.mem_append, ih, List.exists_mem_cons_iff]

lemma mem_entryStrings {es : Entries} {s : String} :
    s ∈ entryStrings es ↔ ∃ e ∈ es, s = e.1 ∨ s ∈ e.2.strings := by
  induction es with
  | nil => simp [entryStrings]
  | cons e es ih =>
    rw [entryStrings, List.mem_append, ih, List.exists_mem_cons_iff]
    obtain ⟨k, v⟩ := e
    rw [pairStrings, List.mem_cons]

section Sorting

variable (le : String → String → Bool)

mutual

/-- Sorting the keys keeps the strings. -/
theorem mem_strings_sorted (s : String) :
    (v : Json) → (s ∈ (v.sortObject le).strings ↔ s ∈ v.strings)
  | .arr items => by
      rw [sortObject, strings, strings]
      exact mem_itemStrings_sorted s items
  | .obj es => by
      rw [sortObject, strings, strings, mem_entryStrings]
      simp only [List.mem_insertionSort]
      rw [← mem_entryStrings]
      exact mem_entryStrings_sorted s es
  | .null => Iff.rfl
  | .bool _ => Iff.rfl
  | .num _ _ => Iff.rfl
  | .str _ => Iff.rfl
termination_by structural v => v

theorem mem_itemStrings_sorted (s : String) :
    (vs : List Json) → (s ∈ itemStrings (sortItems le vs) ↔ s ∈ itemStrings vs)
  | [] => Iff.rfl
  | v :: vs => by
      rw [sortItems, itemStrings, itemStrings, List.mem_append, List.mem_append,
        mem_strings_sorted s v, mem_itemStrings_sorted s vs]
termination_by structural vs => vs

theorem mem_entryStrings_sorted (s : String) :
    (es : List (String × Json)) → (s ∈ entryStrings (sortEntries le es) ↔ s ∈ entryStrings es)
  | [] => Iff.rfl
  | e :: es => by
      rw [sortEntries, entryStrings, entryStrings, List.mem_append, List.mem_append,
        mem_pairStrings_sorted s e, mem_entryStrings_sorted s es]
termination_by structural es => es

theorem mem_pairStrings_sorted (s : String) :
    (e : String × Json) → (s ∈ pairStrings (sortEntry le e) ↔ s ∈ pairStrings e)
  | (k, v) => by
      rw [sortEntry, pairStrings, pairStrings, List.mem_cons, List.mem_cons,
        mem_strings_sorted s v]
termination_by structural e => e

end

end Sorting

/-- With distinct keys, an assignment replaces the entry of its key. -/
lemma mem_set {key : String} {v : Json} {es : Entries} (h : (es.map Prod.fst).Nodup)
    {e : String × Json} : e ∈ Json.set key v es ↔ e = (key, v) ∨ e ∈ es ∧ e.1 ≠ key := by
  obtain ⟨k, w⟩ := e
  rw [← lookup_eq_some_iff (nodup_set h)]
  by_cases hk : k = key
  · subst hk
    rw [lookup_set_self]
    simp [eq_comm]
  · rw [lookup_set_ne v hk, lookup_eq_some_iff h]
    simp [hk]

/-- What the policy itself can add to a document. -/
def policyStrings : List String :=
  ["deploy", "resources", "limits", "cpus", "1.0", "memory", "512M"]

/-- One set of strings is another, but for what the policy adds. -/
structure Grows (old new : List String) : Prop where
  kept : ∀ s ∈ old, s ∈ new
  added : ∀ s ∈ new, s ∈ old ∨ s ∈ policyStrings

lemma Grows.refl (l : List String) : Grows l l := ⟨fun _ h => h, fun _ h => Or.inl h⟩

end GatewayControl.ClosedCompose
