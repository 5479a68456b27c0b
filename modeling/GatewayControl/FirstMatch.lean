import Mathlib.Data.List.Basic

/-!
Lists of rules that are tried from the front: what reordering them does to the first match.
-/

namespace GatewayControl.FirstMatch

variable {ρ : Type} {p q : ρ → Bool} {l : List ρ}

/-- Rules that do not match may be left out. -/
lemma find?_filter_of_imp (h : ∀ r ∈ l, p r → q r) : (l.filter q).find? p = l.find? p := by
  induction l with
  | nil => rfl
  | cons a l ih =>
    have ih' := ih fun r hr => h r (List.mem_cons_of_mem _ hr)
    by_cases hp : p a
    · have hq := h a (by simp) hp
      rw [List.filter_cons_of_pos hq, List.find?_cons_of_pos hp, List.find?_cons_of_pos hp]
    · rw [List.find?_cons_of_neg hp]
      by_cases hq : q a
      · rw [List.filter_cons_of_pos hq, List.find?_cons_of_neg hp, ih']
      · rw [List.filter_cons_of_neg hq, ih']

lemma find?_skip {a mid b : List ρ} (h : ∀ r ∈ mid, ¬p r) :
    (a ++ mid ++ b).find? p = (a ++ b).find? p := by
  have hmid : mid.find? p = none := List.find?_eq_none.mpr h
  simp [List.find?_append, hmid]

/-- The first match stays first among the rules of its kind. -/
lemma find?_filter_of_first {u : ρ} (h : l.find? p = some u) (hq : q u) :
    (l.filter q).find? p = some u := by
  induction l with
  | nil => simp at h
  | cons a l ih =>
    by_cases hp : p a
    · rw [List.find?_cons_of_pos hp] at h
      obtain rfl := Option.some.inj h
      rw [List.filter_cons_of_pos hq, List.find?_cons_of_pos hp]
    · rw [List.find?_cons_of_neg hp] at h
      by_cases ha : q a
      · rw [List.filter_cons_of_pos ha, List.find?_cons_of_neg hp, ih h]
      · rw [List.filter_cons_of_neg ha, ih h]

/-- The rules of one kind before the others, each kind in its order. -/
def promote (q : ρ → Bool) (l : List ρ) : List ρ := l.filter q ++ l.filter fun r => !q r

/-- **What promoting rules changes.** The first match is another one exactly when the old one
was not promoted and a promoted rule matches too. -/
theorem find?_promote_iff :
    (promote q l).find? p = l.find? p ↔
      ∀ u, l.find? p = some u → ¬q u → ∀ n ∈ l, q n → ¬p n := by
  unfold promote
  rw [List.find?_append]
  constructor
  · intro h u hu hqu n hn hqn hpn
    have hsome : ((l.filter q).find? p).isSome := by
      rw [List.find?_isSome]
      exact ⟨n, List.mem_filter.mpr ⟨hn, hqn⟩, hpn⟩
    obtain ⟨r, hr⟩ := Option.isSome_iff_exists.mp hsome
    have hqr : q r := (List.mem_filter.mp (List.mem_of_find?_eq_some hr)).2
    rw [hr, Option.some_or, hu] at h
    exact hqu (Option.some.inj h ▸ hqr)
  · intro h
    cases hu : l.find? p with
    | none =>
      have hnone := List.find?_eq_none.mp hu
      have hfilter : ∀ k : ρ → Bool, (l.filter k).find? p = none := fun k =>
        List.find?_eq_none.mpr fun r hr => hnone r (List.mem_filter.mp hr).1
      rw [hfilter, hfilter, Option.none_or]
    | some u =>
      by_cases hqu : q u
      · rw [find?_filter_of_first hu hqu, Option.some_or]
      · have hnone : (l.filter q).find? p = none := by
          rw [List.find?_eq_none]
          intro n hn
          obtain ⟨hmem, hqn⟩ := List.mem_filter.mp hn
          exact h u hu hqu n hmem hqn
        rw [hnone, Option.none_or]
        exact find?_filter_of_first hu (by simpa using hqu)

end GatewayControl.FirstMatch
