import Mathlib.Data.List.Nodup

/-!
JavaScript's `Map`: entries in the order in which their keys were first set.
-/

namespace GatewayControl

/-- The entries of a map. -/
abbrev JsMap (κ ν : Type*) := List (κ × ν)

namespace JsMap

variable {κ ν : Type*} [DecidableEq κ]

def get : JsMap κ ν → κ → Option ν
  | [], _ => none
  | e :: m, k => if e.1 = k then some e.2 else get m k

/-- A key that is there keeps its place. -/
def set : JsMap κ ν → κ → ν → JsMap κ ν
  | [], k, v => [(k, v)]
  | e :: m, k, v => if e.1 = k then (k, v) :: m else e :: set m k v

def has (m : JsMap κ ν) (k : κ) : Bool := (m.get k).isSome

def values (m : JsMap κ ν) : List ν := m.map Prod.snd

def ofEntries (entries : List (κ × ν)) : JsMap κ ν :=
  entries.foldl (fun m e => set m e.1 e.2) []

@[simp] lemma get_set_self (m : JsMap κ ν) (k : κ) (v : ν) : (m.set k v).get k = some v := by
  induction m with
  | nil => simp [set, get]
  | cons e m ih =>
    by_cases h : e.1 = k
    · simp [set, get, h]
    · simp [set, get, h, ih]

lemma get_set_ne (m : JsMap κ ν) {k k' : κ} (v : ν) (h : k' ≠ k) :
    (m.set k v).get k' = m.get k' := by
  induction m with
  | nil => simp [set, get, Ne.symm h]
  | cons e m ih =>
    by_cases he : e.1 = k
    · simp [set, get, he, Ne.symm h]
    · simp [set, get, he, ih]

lemma mem_set {m : JsMap κ ν} {k : κ} {v : ν} {e : κ × ν} (h : e ∈ m.set k v) :
    e ∈ m ∨ e = (k, v) := by
  induction m with
  | nil => exact .inr (List.mem_singleton.mp h)
  | cons e' m ih =>
    unfold set at h
    split at h
    · rcases List.mem_cons.mp h with rfl | h
      · exact .inr rfl
      · exact .inl (List.mem_cons_of_mem _ h)
    · rcases List.mem_cons.mp h with rfl | h
      · exact .inl List.mem_cons_self
      · exact (ih h).imp_left (List.mem_cons_of_mem _)

lemma mem_values_set {m : JsMap κ ν} {k : κ} {v v' : ν} (h : v' ∈ (m.set k v).values) :
    v' ∈ m.values ∨ v' = v := by
  obtain ⟨e, he, rfl⟩ := List.mem_map.mp h
  rcases mem_set he with he | rfl
  · exact .inl (List.mem_map_of_mem he)
  · exact .inr rfl

lemma set_of_notMem {m : JsMap κ ν} {k : κ} (v : ν) (h : ∀ e ∈ m, e.1 ≠ k) :
    m.set k v = m ++ [(k, v)] := by
  induction m with
  | nil => rfl
  | cons e m ih =>
    rw [set, if_neg (h e List.mem_cons_self), ih fun e' he' => h e' (List.mem_cons_of_mem _ he')]
    rfl

/-- Entries without a key twice are a map. -/
lemma ofEntries_eq {entries : List (κ × ν)} (h : (entries.map Prod.fst).Nodup) :
    ofEntries entries = entries := by
  have hfold : ∀ m : JsMap κ ν, ((m ++ entries).map Prod.fst).Nodup →
      entries.foldl (fun m e => set m e.1 e.2) m = m ++ entries := by
    induction entries with
    | nil => simp
    | cons e entries ih =>
      intro m hm
      have hnew : ∀ e' ∈ m, e'.1 ≠ e.1 := by
        intro e' he' heq
        rw [List.map_append, List.nodup_append] at hm
        exact hm.2.2 _ (List.mem_map_of_mem he') _ (List.mem_map_of_mem List.mem_cons_self) heq
      rw [List.map_cons, List.nodup_cons] at h
      rw [List.foldl_cons, set_of_notMem _ hnew, ih h.2 _ (by simpa using hm), List.append_assoc]
      rfl
  exact hfold [] h

lemma get_of_mem {m : JsMap κ ν} (hnodup : (m.map Prod.fst).Nodup) {k : κ} {v : ν}
    (h : (k, v) ∈ m) : m.get k = some v := by
  induction m with
  | nil => cases h
  | cons e m ih =>
    rw [List.map_cons, List.nodup_cons] at hnodup
    rcases List.mem_cons.mp h with rfl | h
    · simp [get]
    · have hne : e.1 ≠ k := fun heq => hnodup.1 (List.mem_map.mpr ⟨(k, v), h, heq.symm⟩)
      rw [get, if_neg hne, ih hnodup.2 h]

lemma mem_of_get {m : JsMap κ ν} {k : κ} {v : ν} (h : m.get k = some v) : (k, v) ∈ m := by
  induction m with
  | nil => cases h
  | cons e m ih =>
    unfold get at h
    split at h
    · next hkey =>
      obtain rfl := Option.some.inj h
      exact hkey ▸ List.mem_cons_self
    · exact List.mem_cons_of_mem _ (ih h)

/-- A flag that is true by default is false just if an entry says so. -/
lemma flag_eq_false {entries : List (κ × ν)} (hnodup : (entries.map Prod.fst).Nodup) {k : κ}
    {f : ν → Bool} : (((ofEntries entries).get k).map f).getD true = false ↔
      ∃ v, (k, v) ∈ entries ∧ f v = false := by
  rw [ofEntries_eq hnodup]
  constructor
  · intro h
    cases hget : get entries k with
    | none =>
      rw [hget] at h
      cases h
    | some v =>
      rw [hget] at h
      exact ⟨v, mem_of_get hget, h⟩
  · rintro ⟨v, hv, hf⟩
    rw [get_of_mem hnodup hv]
    exact hf

end JsMap

end GatewayControl
