import Mathlib.Data.List.Nodup
import Mathlib.Logic.Function.Basic

/-!
Names that keys hold, no two keys the same one. Keys take new names one at a time, and a
key cannot take a name that another key holds at that moment.

Whether a whole list of keys gets its names depends on its order. `allFree_iff` says when it
does, of the names held at the start.
-/

namespace GatewayControl.UniqueNames

variable {κ ν : Type*} [DecidableEq κ]

/-- No key but `k` holds the name. -/
def Free (held : κ → Option ν) (k : κ) (name : ν) : Prop :=
  ∀ k', k' ≠ k → held k' ≠ some name

def take (held : κ → Option ν) (p : κ × ν) : κ → Option ν :=
  Function.update held p.1 (some p.2)

@[simp] lemma take_self (held : κ → Option ν) (p : κ × ν) : take held p p.1 = some p.2 :=
  Function.update_self ..

lemma take_of_ne (held : κ → Option ν) (p : κ × ν) {k : κ} (h : k ≠ p.1) :
    take held p k = held k :=
  Function.update_of_ne h ..

/-- Every key finds its name free when its turn comes. -/
def AllFree : (κ → Option ν) → List (κ × ν) → Prop
  | _, [] => True
  | held, p :: l => Free held p.1 p.2 ∧ AllFree (take held p) l

/-- Whoever holds one of the names at the start gets another. -/
def Listed (held : κ → Option ν) (l : List (κ × ν)) : Prop :=
  ∀ p ∈ l, ∀ k, held k = some p.2 → k ∈ l.map Prod.fst

/-- No key takes a name that a later one takes too, or has at the start. -/
def InOrder (held : κ → Option ν) (l : List (κ × ν)) : Prop :=
  l.Pairwise fun p q => p.2 ≠ q.2 ∧ held q.1 ≠ some p.2

/-- A key that comes later in the list holds what it held. -/
lemma take_later {held : κ → Option ν} {p q : κ × ν} {l : List (κ × ν)}
    (hkeys : ((p :: l).map Prod.fst).Nodup) (hq : q ∈ l) : take held p q.1 = held q.1 := by
  apply take_of_ne
  rintro heq
  rw [List.map_cons, List.nodup_cons] at hkeys
  exact hkeys.1 (heq ▸ List.mem_map_of_mem hq)

lemma inOrder_take {held : κ → Option ν} {p : κ × ν} {l : List (κ × ν)}
    (hkeys : ((p :: l).map Prod.fst).Nodup) : InOrder (take held p) l ↔ InOrder held l := by
  apply List.Pairwise.iff_of_mem
  intro a b _ hb
  rw [take_later hkeys hb]

omit [DecidableEq κ] in
lemma free_cons {held : κ → Option ν} {p : κ × ν} {l : List (κ × ν)}
    (hlisted : Listed held (p :: l)) (hlater : ∀ q ∈ l, held q.1 ≠ some p.2) :
    Free held p.1 p.2 := by
  intro k hne hk
  rcases List.mem_cons.mp (hlisted p List.mem_cons_self k hk) with heq | hmem
  · exact hne heq
  · obtain ⟨q, hq, rfl⟩ := List.mem_map.mp hmem
    exact hlater q hq hk

lemma listed_take {held : κ → Option ν} {p : κ × ν} {l : List (κ × ν)}
    (hlisted : Listed held (p :: l)) (hnames : ∀ q ∈ l, p.2 ≠ q.2) :
    Listed (take held p) l := by
  intro q hq k hk
  by_cases heq : k = p.1
  · subst heq
    rw [take_self] at hk
    exact absurd (Option.some.inj hk) (hnames q hq)
  · rw [take_of_ne held p heq] at hk
    rcases List.mem_cons.mp (hlisted q (List.mem_cons_of_mem _ hq) k hk) with hself | hmem
    · exact absurd hself heq
    · exact hmem

lemma listed_cons {held : κ → Option ν} {p : κ × ν} {l : List (κ × ν)}
    (hfree : Free held p.1 p.2) (hlisted : Listed (take held p) l) :
    Listed held (p :: l) := by
  intro q hq k hk
  rw [List.map_cons, List.mem_cons]
  by_cases heq : k = p.1
  · exact Or.inl heq
  · rcases List.mem_cons.mp hq with rfl | hq
    · exact absurd hk (hfree k heq)
    · right
      apply hlisted q hq k
      rw [take_of_ne held p heq]
      exact hk

/-- A name that `p` takes is no later key's, neither now nor before. -/
lemma later_ne {held : κ → Option ν} {p : κ × ν} {l : List (κ × ν)}
    (hkeys : ((p :: l).map Prod.fst).Nodup) (hfree : Free held p.1 p.2)
    (hlisted : Listed (take held p) l) {q : κ × ν} (hq : q ∈ l) :
    p.2 ≠ q.2 ∧ held q.1 ≠ some p.2 := by
  rw [List.map_cons, List.nodup_cons] at hkeys
  constructor
  · intro heq
    exact hkeys.1 (hlisted q hq p.1 (by rw [take_self, heq]))
  · apply hfree
    rintro heq
    exact hkeys.1 (heq ▸ List.mem_map_of_mem hq)

/-- A list of distinct keys gets its names iff the old holders are all in it, each before
the one that takes its name, and the names are distinct. -/
theorem allFree_iff {l : List (κ × ν)} :
    ∀ {held : κ → Option ν}, (l.map Prod.fst).Nodup →
      (AllFree held l ↔ Listed held l ∧ InOrder held l) := by
  induction l with
  | nil =>
    intro held _
    simp [AllFree, Listed, InOrder]
  | cons p l ih =>
    intro held hkeys
    have hrest : (l.map Prod.fst).Nodup := by
      rw [List.map_cons, List.nodup_cons] at hkeys
      exact hkeys.2
    have hturn : AllFree held (p :: l) ↔
        Free held p.1 p.2 ∧ Listed (take held p) l ∧ InOrder held l := by
      rw [← inOrder_take hkeys, ← ih hrest]
      exact Iff.rfl
    have horder : InOrder held (p :: l) ↔
        (∀ q ∈ l, p.2 ≠ q.2 ∧ held q.1 ≠ some p.2) ∧ InOrder held l := List.pairwise_cons
    rw [hturn, horder]
    constructor
    · rintro ⟨hfree, hlisted, hin⟩
      exact ⟨listed_cons hfree hlisted, fun q hq => later_ne hkeys hfree hlisted hq, hin⟩
    · rintro ⟨hlisted, hlater, hin⟩
      exact ⟨free_cons hlisted fun q hq => (hlater q hq).2,
        listed_take hlisted fun q hq => (hlater q hq).1, hin⟩

end GatewayControl.UniqueNames
