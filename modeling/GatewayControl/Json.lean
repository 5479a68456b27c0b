import Mathlib.Data.List.Sort
import Mathlib.Data.Rat.Defs
import GatewayControl.Text

/-!
JSON-like values as JavaScript and Go programs see them after parsing, with the
conversions and the key sorting the Compose checks use.

An object is the list of its entries in key order. `Document` is a value all of whose
objects have distinct keys, as every parsed one does.
-/

namespace GatewayControl

/-- A number carries its value, unless it is not finite, and its text. -/
inductive Json where
  | null
  | bool (b : Bool)
  | num (value : Option Rat) (text : String)
  | str (s : String)
  | arr (items : List Json)
  | obj (entries : List (String × Json))

namespace Json

open Text

abbrev Entries := List (String × Json)

/-- `value[key]`, `none` when the value has no such property. -/
def get? (key : String) : Json → Option Json
  | obj es => es.lookup key
  | _ => none

def isObject : Json → Bool
  | obj _ => true
  | _ => false

def entries : Option Json → Entries
  | some (obj es) => es
  | _ => []

def items : Option Json → List Json
  | some (arr vs) => vs
  | _ => []

def isNull : Json → Bool
  | null => true
  | _ => false

/-- `es[key] = value`: in place, or a new last entry. -/
def set (key : String) (value : Json) : Entries → Entries
  | [] => [(key, value)]
  | (k, v) :: es => if k = key then (key, value) :: es else (k, v) :: set key value es

mutual

def WellFormed : Json → Prop
  | arr items => ItemsWellFormed items
  | obj es => (es.map Prod.fst).Nodup ∧ EntriesWellFormed es
  | _ => True
termination_by structural v => v

def ItemsWellFormed : List Json → Prop
  | [] => True
  | v :: vs => WellFormed v ∧ ItemsWellFormed vs
termination_by structural vs => vs

def EntriesWellFormed : List (String × Json) → Prop
  | [] => True
  | e :: es => EntryWellFormed e ∧ EntriesWellFormed es
termination_by structural es => es

def EntryWellFormed : String × Json → Prop
  | (_, v) => WellFormed v
termination_by structural e => e

end

lemma mem_of_lookup {es : Entries} {k : String} {v : Json} (h : es.lookup k = some v) :
    (k, v) ∈ es := by
  induction es with
  | nil => cases h
  | cons e es ih =>
      obtain ⟨k', v'⟩ := e
      rw [List.lookup_cons] at h
      by_cases hk : k = k'
      · subst hk
        obtain rfl : v' = v := by simpa using h
        exact List.mem_cons_self
      · have hne : (k == k') = false := by simpa using hk
        rw [hne] at h
        exact List.mem_cons_of_mem _ (ih h)

/-- With distinct keys, the entries are what lookups find. -/
lemma lookup_eq_some_iff {es : Entries} (hn : (es.map Prod.fst).Nodup) {k : String}
    {v : Json} : es.lookup k = some v ↔ (k, v) ∈ es := by
  refine ⟨mem_of_lookup, fun h => ?_⟩
  induction es with
  | nil => cases h
  | cons e es ih =>
      obtain ⟨k', v'⟩ := e
      simp only [List.map_cons, List.nodup_cons] at hn
      rw [List.lookup_cons]
      rcases List.mem_cons.1 h with heq | htail
      · obtain ⟨rfl, rfl⟩ := Prod.mk.inj heq
        simp
      · have hne : (k == k') = false := by
          refine beq_false_of_ne ?_
          rintro rfl
          exact hn.1 (List.mem_map.2 ⟨(k, v), htail, rfl⟩)
        rw [hne]
        exact ih hn.2 htail

lemma lookup_set_ne {es : Entries} {k key : String} (v : Json) (h : k ≠ key) :
    (set key v es).lookup k = es.lookup k := by
  have hne : (k == key) = false := beq_false_of_ne h
  induction es with
  | nil => simp only [set, List.lookup_cons, hne, List.lookup_nil]
  | cons e es ih =>
      obtain ⟨k', v'⟩ := e
      unfold set
      split
      · next hk =>
          subst hk
          simp only [List.lookup_cons, hne]
      · simp only [List.lookup_cons, ih]

lemma lookup_set_self (key : String) (v : Json) (es : Entries) :
    (set key v es).lookup key = some v := by
  induction es with
  | nil => simp [set]
  | cons e es ih =>
      obtain ⟨k', v'⟩ := e
      unfold set
      split
      · simp
      · next hk => simpa [List.lookup_cons, beq_false_of_ne (Ne.symm hk)] using ih

lemma map_fst_set (key : String) (v : Json) (es : Entries) :
    (set key v es).map Prod.fst =
      if key ∈ es.map Prod.fst then es.map Prod.fst else es.map Prod.fst ++ [key] := by
  induction es with
  | nil => rfl
  | cons e es ih =>
      obtain ⟨k', v'⟩ := e
      unfold set
      split
      · next hk => simp [hk]
      · next hk =>
          simp only [List.map_cons, ih, List.mem_cons, Ne.symm hk, false_or]
          split <;> rfl

lemma nodup_set {key : String} {v : Json} {es : Entries} (h : (es.map Prod.fst).Nodup) :
    ((set key v es).map Prod.fst).Nodup := by
  rw [map_fst_set]
  split
  · exact h
  · next hk => exact List.nodup_append.2 ⟨h, by simp, fun a ha b hb => by
      obtain rfl := List.mem_singleton.1 hb
      exact fun hab => hk (hab ▸ ha)⟩

mutual

/-- `sortObject`, under the comparison of two keys. -/
def sortObject (le : String → String → Bool) : Json → Json
  | arr items => arr (sortItems le items)
  | obj es => obj ((sortEntries le es).insertionSort fun a b => le a.1 b.1)
  | v => v
termination_by structural v => v

def sortItems (le : String → String → Bool) : List Json → List Json
  | [] => []
  | v :: vs => v.sortObject le :: sortItems le vs
termination_by structural vs => vs

def sortEntries (le : String → String → Bool) : List (String × Json) → List (String × Json)
  | [] => []
  | e :: es => sortEntry le e :: sortEntries le es
termination_by structural es => es

def sortEntry (le : String → String → Bool) : String × Json → String × Json
  | (k, v) => (k, v.sortObject le)
termination_by structural e => e

end

variable (le : String → String → Bool)

mutual

/-- `String(value)`. -/
def jsString : Json → String
  | null => "null"
  | bool b => if b then "true" else "false"
  | num _ text => text
  | str s => s
  | arr items => jsJoin items
  | obj _ => "[object Object]"
termination_by structural v => v

/-- `items.join()`: `null` leaves an empty place. -/
def jsJoin : List Json → String
  | [] => ""
  | v :: vs => (if v.isNull then "" else v.jsString) ++
      (if vs.isEmpty then "" else "," ++ jsJoin vs)
termination_by structural vs => vs

end

end Json

/-- A parsed value. -/
structure Document where
  value : Json
  wellFormed : value.WellFormed

end GatewayControl
