import Mathlib.Data.List.Nodup
import Mathlib.Data.List.Perm.Basic

/-!
Rows counted by key. A key's record is made by its first row and changed by every row of it,
and the counting stops with the row that makes the last record there is room for.

Where the counting has not stopped early, each record holds its rows whatever their order. A
key that has a row after the stop loses it: `run_leading` puts all such rows there.
-/

namespace GatewayControl.Tally

variable {κ ι ρ : Type*} [DecidableEq κ]

/-! ### Keys in the order in which they first come -/

def firsts : List κ → List κ
  | [] => []
  | k :: ks => k :: (firsts ks).filter (· ≠ k)

@[simp] lemma mem_firsts {k : κ} {ks : List κ} : k ∈ firsts ks ↔ k ∈ ks := by
  induction ks with
  | nil => rfl
  | cons k' ks ih =>
    rw [firsts, List.mem_cons, List.mem_filter, ih, List.mem_cons, decide_eq_true_eq]
    by_cases h : k = k' <;> simp [h]

lemma nodup_firsts (ks : List κ) : (firsts ks).Nodup := by
  induction ks with
  | nil => exact List.nodup_nil
  | cons k ks ih =>
    rw [firsts, List.nodup_cons]
    exact ⟨by simp, ih.filter _⟩

lemma firsts_append (as bs : List κ) :
    firsts (as ++ bs) = firsts as ++ (firsts bs).filter (· ∉ as) := by
  induction as with
  | nil => simp [firsts]
  | cons a as ih =>
    rw [List.cons_append, firsts, ih, List.filter_append, List.filter_filter, firsts,
      List.cons_append]
    congr 2
    apply List.filter_congr
    intro b _
    rw [Bool.eq_iff_iff]
    simp

lemma firsts_of_nodup {ks : List κ} (h : ks.Nodup) : firsts ks = ks := by
  induction ks with
  | nil => rfl
  | cons k ks ih =>
    rw [List.nodup_cons] at h
    rw [firsts, ih h.2, List.filter_eq_self.mpr]
    intro k' hk'
    rw [decide_eq_true_eq]
    rintro rfl
    exact h.1 hk'

lemma firsts_perm {as bs : List κ} (h : as.Perm bs) : (firsts as).Perm (firsts bs) := by
  rw [List.perm_ext_iff_of_nodup (nodup_firsts as) (nodup_firsts bs)]
  intro k
  rw [mem_firsts, mem_firsts, h.mem_iff]

/-! ### Records -/

structure Counter (κ ι ρ : Type*) where
  row : ι → κ
  key : ρ → κ
  fresh : κ → ρ
  add : ι → ρ → ρ
  key_fresh : ∀ k, key (fresh k) = k
  key_add : ∀ i r, key (add i r) = key r

namespace Counter

variable (c : Counter κ ι ρ)

def count (i : ι) : List ρ → List ρ
  | [] => [c.add i (c.fresh (c.row i))]
  | r :: rs => if c.key r = c.row i then c.add i r :: rs else r :: count i rs

def run (most : ℕ) : List ι → List ρ → List ρ
  | [], rs => rs
  | i :: is, rs =>
      if (count c i rs).length = most ∧ c.row i ∉ rs.map c.key then count c i rs
      else run most is (count c i rs)

def names (is : List ι) : List κ := firsts (is.map c.row)

/-- A key's record of all its rows. -/
def record (is : List ι) (k : κ) : ρ :=
  (is.filter fun i => c.row i = k).foldl (fun r i => c.add i r) (c.fresh k)

def table (is : List ι) : List ρ := (c.names is).map (c.record is)

omit [DecidableEq κ] in
lemma key_foldl (is : List ι) (r : ρ) :
    c.key (is.foldl (fun r i => c.add i r) r) = c.key r := by
  induction is generalizing r with
  | nil => rfl
  | cons i is ih => rw [List.foldl_cons, ih, c.key_add]

@[simp] lemma key_record (is : List ι) (k : κ) : c.key (c.record is k) = k := by
  rw [record, key_foldl, c.key_fresh]

@[simp] lemma map_key_table (is : List ι) : (c.table is).map c.key = c.names is := by
  simp [table, Function.comp_def]

lemma nodup_names (is : List ι) : (c.names is).Nodup := nodup_firsts _

lemma record_snoc (is : List ι) (i : ι) (k : κ) :
    c.record (is ++ [i]) k = if k = c.row i then c.add i (c.record is k) else c.record is k := by
  unfold record
  by_cases h : k = c.row i
  · simp [List.filter_append, h]
  · simp [List.filter_append, h, Ne.symm h]

lemma record_of_notMem {is : List ι} {k : κ} (h : k ∉ c.names is) : c.record is k = c.fresh k := by
  unfold record
  rw [List.filter_eq_nil_iff.mpr, List.foldl_nil]
  intro i hi
  rw [decide_eq_true_eq]
  rintro rfl
  exact h (mem_firsts.mpr (List.mem_map_of_mem hi))

lemma names_snoc (is : List ι) (i : ι) :
    c.names (is ++ [i]) =
      if c.row i ∈ c.names is then c.names is else c.names is ++ [c.row i] := by
  unfold names
  rw [List.map_append, firsts_append]
  by_cases h : c.row i ∈ is.map c.row
  · rw [if_pos (mem_firsts.mpr h)]
    simpa [firsts] using h
  · rw [if_neg (mem_firsts.not.mpr h)]
    simpa [firsts] using h

/-- One row changes or adds its own key's record. -/
lemma count_map {ns : List κ} (hns : ns.Nodup) {g : κ → ρ} (hg : ∀ n, c.key (g n) = n) (i : ι) :
    c.count i (ns.map g) =
      if c.row i ∈ ns then ns.map fun n => if n = c.row i then c.add i (g n) else g n
      else ns.map g ++ [c.add i (c.fresh (c.row i))] := by
  induction ns with
  | nil => rfl
  | cons n ns ih =>
    rw [List.nodup_cons] at hns
    rw [List.map_cons, count, hg]
    by_cases h : n = c.row i
    · have hrest : ns.map (fun n => if n = c.row i then c.add i (g n) else g n) = ns.map g := by
        apply List.map_congr_left
        intro n' hn'
        rw [if_neg]
        rintro rfl
        exact hns.1 (h ▸ hn')
      rw [if_pos h, if_pos (by simp [h]), List.map_cons, if_pos h, hrest]
    · rw [if_neg h, ih hns.2]
      by_cases hmem : c.row i ∈ ns
      · rw [if_pos hmem, if_pos (List.mem_cons_of_mem _ hmem), List.map_cons, if_neg h]
      · rw [if_neg hmem, if_neg (by simp [Ne.symm h, hmem]), List.cons_append]

lemma count_table (is : List ι) (i : ι) : c.count i (c.table is) = c.table (is ++ [i]) := by
  unfold table
  rw [c.count_map (c.nodup_names is) (c.key_record is), names_snoc]
  by_cases h : c.row i ∈ c.names is
  · rw [if_pos h, if_pos h]
    exact List.map_congr_left fun n _ => (c.record_snoc is i n).symm
  · rw [if_neg h, if_neg h, List.map_append, List.map_singleton, record_snoc, if_pos rfl,
      c.record_of_notMem h]
    congr 1
    apply List.map_congr_left
    intro n hn
    rw [record_snoc, if_neg]
    rintro rfl
    exact h hn

/-! ### Where the counting stops -/

/-- The rows counted of all those that came. -/
def Stops (most : ℕ) (front back : List ι) : Prop :=
  ((c.names front).length < most ∧ back = []) ∨
    ((c.names front).length = most ∧
      ∃ before i, front = before ++ [i] ∧ c.row i ∉ c.names before)

lemma run_table {most : ℕ} (is seen : List ι) (hseen : (c.names seen).length < most) :
    ∃ front back, is = front ++ back ∧ c.run most is (c.table seen) = c.table (seen ++ front) ∧
      c.Stops most (seen ++ front) back := by
  induction is generalizing seen with
  | nil =>
    refine ⟨[], [], rfl, ?_, .inl ⟨?_, rfl⟩⟩
    · rw [List.append_nil]
      rfl
    · rwa [List.append_nil]
  | cons i is ih =>
    rw [run, count_table, map_key_table]
    by_cases hfull : (c.table (seen ++ [i])).length = most ∧ c.row i ∉ c.names seen
    · refine ⟨[i], is, rfl, if_pos hfull, .inr ⟨?_, seen, i, rfl, hfull.2⟩⟩
      simpa [table] using hfull.1
    · have hless : (c.names (seen ++ [i])).length < most := by
        rw [table, List.length_map] at hfull
        by_cases hmem : c.row i ∈ c.names seen
        · rwa [names_snoc, if_pos hmem]
        · have hne : (c.names (seen ++ [i])).length ≠ most := fun heq => hfull ⟨heq, hmem⟩
          rw [names_snoc, if_neg hmem, List.length_append, List.length_singleton] at hne ⊢
          omega
      obtain ⟨front, back, rfl, hrun, hstop⟩ := ih (seen ++ [i]) hless
      rw [List.append_assoc] at hrun hstop
      exact ⟨i :: front, back, rfl, (if_neg hfull).trans hrun, hstop⟩

lemma run_stops {most : ℕ} (hmost : 0 < most) (is : List ι) :
    ∃ front back, is = front ++ back ∧ c.run most is [] = c.table front ∧
      c.Stops most front back :=
  c.run_table is [] hmost

lemma names_append (as bs : List ι) : ∃ more, c.names (as ++ bs) = c.names as ++ more := by
  unfold names
  rw [List.map_append, firsts_append]
  exact ⟨_, rfl⟩

lemma names_perm {as bs : List ι} (h : as.Perm bs) : (c.names as).Perm (c.names bs) :=
  firsts_perm (h.map c.row)

/-- A key all of whose rows come before the stop keeps its record. -/
lemma record_append_of_once {as bs : List ι} {k : κ} (hk : k ∈ c.names as)
    (honce : ((as ++ bs).filter fun i => c.row i = k).length = 1) :
    c.record (as ++ bs) k = c.record as k := by
  have hsome : as.filter (fun i => c.row i = k) ≠ [] := by
    intro hnil
    obtain ⟨i, hi, rfl⟩ := List.mem_map.mp (mem_firsts.mp hk)
    have hmem : i ∈ as.filter fun j => c.row j = c.row i := by simp [hi]
    rw [hnil] at hmem
    cases hmem
  have hnone : bs.filter (fun i => c.row i = k) = [] := by
    have hpos := List.length_pos_iff.mpr hsome
    rw [List.filter_append, List.length_append] at honce
    exact List.length_eq_zero_iff.mp (by omega)
  unfold record
  rw [List.filter_append, hnone, List.append_nil]

/-- With room left, or with a row to a key, every record made is the whole one. -/
theorem run_of_once {most : ℕ} (hmost : 0 < most) {is : List ι}
    (h : (c.names is).length < most ∨
      ∀ k ∈ (c.names is).take most, (is.filter fun i => c.row i = k).length = 1) :
    c.run most is [] = ((c.names is).take most).map (c.record is) := by
  obtain ⟨front, back, rfl, hrun, ⟨hless, rfl⟩ | ⟨hlen, -⟩⟩ := c.run_stops hmost is
  · rw [hrun, List.append_nil, List.take_of_length_le (by omega)]
    rfl
  obtain ⟨more, hmore⟩ := c.names_append front back
  have htake : (c.names (front ++ back)).take most = c.names front := by
    rw [hmore, List.take_append_of_le_length (by omega), List.take_of_length_le (by omega)]
  rw [htake] at h ⊢
  rw [hrun]
  unfold table
  apply List.map_congr_left
  intro k hk
  rcases h with h | h
  · rw [hmore, List.length_append] at h
    omega
  · exact (c.record_append_of_once hk (h k hk)).symm

/-! ### The same rows in another order -/

lemma record_perm (hcomm : ∀ i j r, c.add i (c.add j r) = c.add j (c.add i r)) {as bs : List ι}
    (h : as.Perm bs) : c.record as = c.record bs := by
  funext k
  unfold record
  apply (h.filter _).foldl_eq'
  intro i _ j _ r
  exact hcomm j i r

/-- Each key's first row. -/
def leading : List ι → List ι
  | [] => []
  | i :: is => i :: (leading is).filter fun j => c.row j ≠ c.row i

def following : List ι → List ι
  | [] => []
  | i :: is => ((c.leading is).filter fun j => c.row j = c.row i) ++ following is

lemma map_leading (is : List ι) : (c.leading is).map c.row = c.names is := by
  induction is with
  | nil => rfl
  | cons i is ih =>
    unfold names at ih ⊢
    rw [leading, List.map_cons, List.map_cons, firsts, ← ih, List.filter_map]
    rfl

lemma perm_leading (is : List ι) : (c.leading is ++ c.following is).Perm is := by
  induction is with
  | nil => exact List.Perm.refl _
  | cons i is ih =>
    rw [leading, following, List.cons_append, ← List.append_assoc]
    refine List.Perm.cons i (List.Perm.trans (List.Perm.append_right _ ?_) ih)
    have hsplit := List.filter_append_perm (fun j => decide (c.row j = c.row i)) (c.leading is)
    refine List.Perm.trans (List.perm_append_comm) ?_
    simpa using hsplit

lemma names_leading (is : List ι) : c.names (c.leading is ++ c.following is) = c.names is := by
  have hmap : firsts ((c.leading is).map c.row) = c.names is := by
    rw [map_leading, firsts_of_nodup (c.nodup_names is)]
  have hmore : (firsts ((c.following is).map c.row)).filter (· ∉ (c.leading is).map c.row) =
      [] := by
    rw [List.filter_eq_nil_iff]
    intro k hk
    have hperm := ((c.perm_leading is).map c.row).mem_iff (a := k)
    have hfirst : k ∈ firsts (is.map c.row) ↔ k ∈ is.map c.row := mem_firsts
    rw [List.map_append, List.mem_append, ← hfirst] at hperm
    rw [map_leading, decide_eq_true_eq, not_not]
    exact hperm.mp (.inr (mem_firsts.mp hk))
  unfold names
  rw [List.map_append, firsts_append, hmap, hmore, List.append_nil]
  rfl

/-- Rows of different keys. -/
lemma filter_of_nodup {is : List ι} (h : (is.map c.row).Nodup) {i : ι} (hi : i ∈ is) :
    (is.filter fun j => c.row j = c.row i) = [i] := by
  induction is with
  | nil => cases hi
  | cons j is ih =>
    rw [List.map_cons, List.nodup_cons] at h
    rcases List.mem_cons.mp hi with rfl | hi
    · have hrest : is.filter (fun j => c.row j = c.row i) = [] := by
        rw [List.filter_eq_nil_iff]
        intro j hj
        rw [decide_eq_true_eq]
        intro heq
        exact h.1 (heq ▸ List.mem_map_of_mem hj)
      rw [List.filter_cons, if_pos (by simp), hrest]
    · rw [List.filter_cons, if_neg, ih h.2 hi]
      rw [decide_eq_true_eq]
      intro heq
      exact h.1 (heq ▸ List.mem_map_of_mem hi)

lemma table_of_nodup {is : List ι} (h : (is.map c.row).Nodup) :
    c.table is = is.map fun i => c.add i (c.fresh (c.row i)) := by
  unfold table names
  rw [firsts_of_nodup h, List.map_map]
  apply List.map_congr_left
  intro i hi
  rw [Function.comp_apply, record, c.filter_of_nodup h hi]
  rfl

/-- When the first rows all have keys of their own and fill the table, no other is counted. -/
theorem run_full {front : List ι} (back : List ι) (hfront : front ≠ []) (h : (front.map c.row).Nodup) :
    c.run front.length (front ++ back) [] = front.map fun i => c.add i (c.fresh (c.row i)) := by
  have hnames : c.names front = front.map c.row := firsts_of_nodup h
  obtain ⟨front', back', heq, hrun, hstop⟩ :=
    c.run_stops (List.length_pos_iff.mpr hfront) (front ++ back)
  suffices hsame : front' = front by rw [hrun, hsame, c.table_of_nodup h]
  obtain ⟨hless, rfl⟩ | ⟨hlen, before, i, rfl, hi⟩ := hstop
  · obtain ⟨more, hmore⟩ := c.names_append front back
    rw [List.append_nil] at heq
    rw [← heq, hmore, hnames, List.length_append, List.length_map] at hless
    omega
  rcases List.append_eq_append_iff.mp heq with ⟨rest, hrest, -⟩ | ⟨rest, rfl, -⟩
  · rcases List.eq_nil_or_concat rest with rfl | ⟨rest, j, rfl⟩
    · rw [hrest, List.append_nil]
    · -- the row that stops the counting comes after the table is full
      rw [List.concat_eq_append, ← List.append_assoc] at hrest
      obtain ⟨rfl, -⟩ := List.append_inj' hrest rfl
      obtain ⟨more, hmore⟩ := c.names_append front rest
      rw [names_snoc, if_neg hi, hmore, hnames] at hlen
      simp only [List.length_append, List.length_map, List.length_singleton] at hlen
      omega
  · rw [List.map_append] at h
    rw [names, firsts_of_nodup h.of_append_left] at hlen
    simp only [List.length_append, List.length_map, List.length_singleton] at hlen
    rw [List.length_eq_zero_iff.mp (show rest.length = 0 by omega), List.append_nil]

/-- With every key's first row at the start, one row of a key is counted. -/
theorem run_leading {most : ℕ} (hmost : 0 < most) {is : List ι}
    (h : most ≤ (c.names is).length) :
    c.run most (c.leading is ++ c.following is) [] =
      ((c.leading is).take most).map fun i => c.add i (c.fresh (c.row i)) := by
  have hnodup : (((c.leading is).take most).map c.row).Nodup := by
    rw [List.map_take, map_leading]
    exact (c.nodup_names is).sublist (List.take_sublist ..)
  have hlen : ((c.leading is).take most).length = most := by
    rw [← map_leading, List.length_map] at h
    rw [List.length_take]
    omega
  have hfull := c.run_full ((c.leading is).drop most ++ c.following is) (List.length_pos_iff.mp (by omega)) hnodup
  rwa [hlen, ← List.append_assoc, List.take_append_drop] at hfull

end Counter

end GatewayControl.Tally
