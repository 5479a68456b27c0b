import Mathlib.Data.List.Nodup

/-!
A table with a primary key: the rows in the order of their insertion, no key twice.

Everything a statement does is read off `find?`: an insertion adds one row, an update maps
the rows its condition selects.
-/

namespace GatewayControl

structure Table (ρ κ : Type) (key : ρ → κ) where
  rows : List ρ
  distinct : (rows.map key).Nodup

namespace Table

variable {ρ κ : Type} {key : ρ → κ}

def empty : Table ρ κ key := ⟨[], List.nodup_nil⟩

instance : EmptyCollection (Table ρ κ key) := ⟨empty⟩

def single (r : ρ) : Table ρ κ key := ⟨[r], List.nodup_singleton _⟩

variable [DecidableEq κ]

def find? (t : Table ρ κ key) (k : κ) : Option ρ := t.rows.find? fun r => key r = k

/-- `INSERT`, unless the primary key is taken. -/
def insert? (t : Table ρ κ key) (r : ρ) : Option (Table ρ κ key) :=
  if h : key r ∈ t.rows.map key then none
  else some ⟨t.rows ++ [r], by
    rw [List.map_append, List.map_singleton]
    exact List.nodup_append.mpr ⟨t.distinct, List.nodup_singleton _, by
      intro a ha b hb hab
      rw [List.mem_singleton.mp hb] at hab
      exact h (hab ▸ ha)⟩⟩

/-- `UPDATE ... WHERE p`; no statement here changes a key. -/
def update (t : Table ρ κ key) (p : ρ → Bool) (f : ρ → ρ) (hf : ∀ r, key (f r) = key r) :
    Table ρ κ key :=
  ⟨t.rows.map fun r => if p r then f r else r, by
    have hkeys : (t.rows.map fun r => if p r then f r else r).map key = t.rows.map key := by
      rw [List.map_map]
      apply List.map_congr_left
      intro r _
      by_cases hp : p r <;> simp [hp, hf]
    rw [hkeys]
    exact t.distinct⟩

/-- `DELETE ... WHERE p`. -/
def delete (t : Table ρ κ key) (p : ρ → Bool) : Table ρ κ key :=
  ⟨t.rows.filter fun r => !p r, t.distinct.sublist (List.filter_sublist.map _)⟩

/-! ### What lookups see -/

lemma key_find? {t : Table ρ κ key} {k : κ} {r : ρ} (h : t.find? k = some r) : key r = k := by
  simpa using List.find?_some h

lemma mem_of_find? {t : Table ρ κ key} {k : κ} {r : ρ} (h : t.find? k = some r) : r ∈ t.rows :=
  List.mem_of_find?_eq_some h

lemma find?_of_mem {t : Table ρ κ key} {r : ρ} (h : r ∈ t.rows) : t.find? (key r) = some r := by
  obtain ⟨rows, distinct⟩ := t
  unfold find?
  induction rows with
  | nil => simp at h
  | cons a rows ih =>
    rw [List.map_cons, List.nodup_cons] at distinct
    rcases List.mem_cons.mp h with rfl | h
    · simp
    · have hne : key a ≠ key r := by
        intro heq
        exact distinct.1 (heq ▸ List.mem_map_of_mem h)
      rw [List.find?_cons_of_neg (by simpa using hne)]
      exact ih distinct.2 h

lemma mem_iff_find? {t : Table ρ κ key} {r : ρ} : r ∈ t.rows ↔ t.find? (key r) = some r :=
  ⟨find?_of_mem, mem_of_find?⟩

lemma find?_eq_none {t : Table ρ κ key} {k : κ} : t.find? k = none ↔ k ∉ t.rows.map key := by
  simp [find?, List.find?_eq_none]

@[simp] lemma find?_empty (k : κ) : (∅ : Table ρ κ key).find? k = none := rfl

lemma rows_insert {t t' : Table ρ κ key} {r : ρ} (h : t.insert? r = some t') :
    t'.rows = t.rows ++ [r] := by
  unfold insert? at h
  split at h
  · cases h
  · exact Option.some.inj h ▸ rfl

lemma mem_map_insert {σ : Type} {t t' : Table ρ κ key} {r : ρ} (h : t.insert? r = some t')
    {g : ρ → σ} {b : σ} (hb : b ∈ t'.rows.map g) : b ∈ t.rows.map g ∨ b = g r := by
  rw [rows_insert h, List.map_append, List.mem_append] at hb
  exact hb.imp_right List.mem_singleton.mp

lemma find?_insert {t t' : Table ρ κ key} {r : ρ} (h : t.insert? r = some t') (k : κ) :
    t'.find? k = if k = key r then some r else t.find? k := by
  unfold insert? at h
  by_cases hmem : key r ∈ t.rows.map key
  · rw [dif_pos hmem] at h
    cases h
  · rw [dif_neg hmem] at h
    obtain rfl := Option.some.inj h
    unfold find?
    rw [List.find?_append]
    by_cases hk : k = key r
    · subst hk
      have hnone := find?_eq_none.mpr hmem
      unfold find? at hnone
      simp [hnone]
    · simp [hk, Ne.symm hk]

lemma find?_new {t t' : Table ρ κ key} {r : ρ} (h : t.insert? r = some t') :
    t.find? (key r) = none := by
  rw [find?_eq_none]
  intro hmem
  rw [insert?, dif_pos hmem] at h
  cases h

lemma find?_update (t : Table ρ κ key) (p : ρ → Bool) (f : ρ → ρ)
    (hf : ∀ r, key (f r) = key r) (k : κ) :
    (t.update p f hf).find? k = (t.find? k).map fun r => if p r then f r else r := by
  obtain ⟨rows, distinct⟩ := t
  unfold update find?
  dsimp only
  clear distinct
  induction rows with
  | nil => rfl
  | cons a rows ih =>
    have hkey : key (if p a then f a else a) = key a := by
      by_cases hp : p a <;> simp [hp, hf]
    rw [List.map_cons]
    by_cases hk : key a = k
    · rw [List.find?_cons_of_pos (by simp [hkey, hk]), List.find?_cons_of_pos (by simp [hk])]
      rfl
    · rw [List.find?_cons_of_neg (by simp [hkey, hk]), List.find?_cons_of_neg (by simp [hk])]
      exact ih

/-- What an update leaves alone is the same in every row. -/
lemma map_update {ρ κ σ : Type} {key : ρ → κ} (t : Table ρ κ key) (p : ρ → Bool) (f : ρ → ρ)
    (hf : ∀ r, key (f r) = key r) (g : ρ → σ) (hg : ∀ r ∈ t.rows, p r → g (f r) = g r) :
    (t.update p f hf).rows.map g = t.rows.map g := by
  unfold update
  rw [List.map_map]
  refine List.map_congr_left ?_
  intro r hr
  rw [Function.comp_apply]
  split
  · next hp => exact hg r hr hp
  · rfl

lemma nodup_rows {ρ κ : Type} {key : ρ → κ} (t : Table ρ κ key) : t.rows.Nodup :=
  List.Nodup.of_map _ t.distinct

lemma filter_unique {ρ κ : Type} {key : ρ → κ} {t : Table ρ κ key} {p : ρ → Bool} {r : ρ}
    (hr : r ∈ t.rows) (hp : p r) (h : ∀ r' ∈ t.rows, p r' → r' = r) : t.rows.filter p = [r] := by
  have hnodup := t.nodup_rows.filter p
  have hmem : r ∈ t.rows.filter p := List.mem_filter.mpr ⟨hr, hp⟩
  have hall : ∀ r' ∈ t.rows.filter p, r' = r := fun r' hr' =>
    h r' (List.mem_filter.mp hr').1 (List.mem_filter.mp hr').2
  match t.rows.filter p, hnodup, hmem, hall with
  | [r'], _, _, hall => rw [hall r' (List.mem_singleton_self r')]
  | r₁ :: r₂ :: l, hnodup, _, hall =>
    have h₁ := hall r₁ List.mem_cons_self
    have h₂ := hall r₂ (List.mem_cons_of_mem _ List.mem_cons_self)
    rw [h₁, h₂] at hnodup
    exact absurd List.mem_cons_self (List.nodup_cons.mp hnodup).1

lemma find?_delete (t : Table ρ κ key) (p : ρ → Bool) (k : κ) :
    (t.delete p).find? k = (t.find? k).filter fun r => !p r := by
  rcases hfind : t.find? k with _ | r
  · rw [Option.filter_none, find?_eq_none]
    intro hmem
    obtain ⟨r, hr, hk⟩ := List.mem_map.mp hmem
    have hold := find?_of_mem (List.mem_of_mem_filter hr)
    rw [hk, hfind] at hold
    cases hold
  · have hkey := key_find? hfind
    by_cases hp : p r
    · rw [Option.filter_some, if_neg (by simp [hp]), find?_eq_none]
      intro hmem
      obtain ⟨r', hr', hk⟩ := List.mem_map.mp hmem
      have hold := find?_of_mem (List.mem_of_mem_filter hr')
      rw [hk, hfind] at hold
      obtain rfl := Option.some.inj hold
      simp [delete, hp] at hr'
    · rw [Option.filter_some, if_pos (by simp [hp]), ← hkey]
      exact find?_of_mem (List.mem_filter.mpr ⟨mem_of_find? hfind, by simp [hp]⟩)

end Table

end GatewayControl
