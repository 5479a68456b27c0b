import Mathlib.Data.List.TakeWhile
import GatewayControl.Extraction

/-!
How one slash-separated path is reached from another, as `filepath.Rel` finds it on the text of
the cleaned paths, and what that says about their components.
-/

namespace GatewayControl.RelativePaths

open FileTree Extraction

def dotDot : Bytes := [dot, dot]

/-- The components of a path. -/
def components (s : Bytes) : Path := (s.splitOn slash).filter (· ≠ [])

/-- `filepath.Abs`, in a working directory. -/
def filepathAbs (cwd s : Bytes) : Bytes := if isAbs s then clean s else join cwd s

/-- The loop of `filepath.Rel`: what is left of the two paths from the first element in which they
differ, and the element of the base it stopped at, if it stopped at a difference. -/
def relWalk : ℕ → Bytes → Bytes → Bytes × Bytes × Bytes
  | 0, base, targ => (base, targ, [])
  | fuel + 1, base, targ =>
    if base = [] ∨ targ = [] then (base, targ, [])
    else if base.takeWhile (· ≠ slash) ≠ targ.takeWhile (· ≠ slash) then
      (base, targ, base.takeWhile (· ≠ slash))
    else
      relWalk fuel (base.dropWhile (· ≠ slash)).tail (targ.dropWhile (· ≠ slash)).tail

/-- Up to the base's last common directory, and down again. -/
def upAndDown (base targ : Bytes) : Bytes :=
  dotDot ++ (List.replicate (base.count slash) (slash :: dotDot)).flatten ++
    if targ = [] then [] else slash :: targ

/-- `filepath.Rel`, `none` for an error. -/
def rel (basepath targpath : Bytes) : Option Bytes :=
  if clean targpath = clean basepath then some [dot]
  else
    let base := if clean basepath = [dot] then [] else clean basepath
    let targ := clean targpath
    if isAbs base ≠ isAbs targ then none
    else
      match relWalk (base.length + 1) base targ with
      | (left, rest, word) =>
        if word = dotDot then none
        else if left ≠ [] then some (upAndDown left rest)
        else some rest

/-! ### Joined names -/

lemma joined_cons (name : Bytes) {p : Path} (hp : p ≠ []) :
    joined (name :: p) = name ++ slash :: joined p := by
  unfold joined
  rw [List.intercalate_cons_of_ne_nil hp]
  simp

lemma joined_ne_nil {p : Path} (hp : p ≠ []) (h : ∀ name ∈ p, Plain name) : joined p ≠ [] := by
  intro hnil
  have hsplit := splitOn_joined hp h
  rw [hnil, List.splitOn_nil] at hsplit
  rw [← hsplit] at h
  exact (h [] List.mem_cons_self).1 rfl

lemma takeWhile_plain {name rest : Bytes} (h : slash ∉ name) :
    (name ++ slash :: rest).takeWhile (· ≠ slash) = name ∧
      (name ++ slash :: rest).dropWhile (· ≠ slash) = slash :: rest := by
  have hname : ∀ b ∈ name, decide (b ≠ slash) = true := fun b hb =>
    decide_eq_true (ne_of_mem_of_not_mem hb h)
  rw [List.takeWhile_append_of_pos hname, List.dropWhile_append_of_pos hname]
  simp

/-- The first element of a path's text, and what follows its slash. -/
lemma first_joined {name : Bytes} {p : Path} (h : slash ∉ name) :
    (joined (name :: p)).takeWhile (· ≠ slash) = name ∧
      ((joined (name :: p)).dropWhile (· ≠ slash)).tail = joined p := by
  cases p with
  | nil =>
    have hname : ∀ b ∈ name, decide (b ≠ slash) = true := fun b hb =>
      decide_eq_true (ne_of_mem_of_not_mem hb h)
    have hjoined : joined [name] = name := List.intercalate_singleton
    rw [hjoined, List.takeWhile_eq_self_iff.mpr hname, List.dropWhile_eq_nil_iff.mpr hname]
    exact ⟨rfl, rfl⟩
  | cons next p =>
    rw [joined_cons name (List.cons_ne_nil _ _)]
    rw [(takeWhile_plain h).1, (takeWhile_plain h).2]
    exact ⟨rfl, rfl⟩

/-! ### The loop on components -/

/-- What is left of two paths after their common front. -/
def apart : Path → Path → Path × Path
  | b :: bs, t :: ts => if b = t then apart bs ts else (b :: bs, t :: ts)
  | bs, ts => (bs, ts)

@[simp] lemma apart_nil (ts : Path) : apart [] ts = ([], ts) := by
  cases ts <;> rfl

lemma exists_common (bs ts : Path) : ∃ front,
    bs = front ++ (apart bs ts).1 ∧ ts = front ++ (apart bs ts).2 := by
  induction bs generalizing ts with
  | nil => exact ⟨[], by simp, by simp⟩
  | cons b bs ih =>
    cases ts with
    | nil => exact ⟨[], rfl, rfl⟩
    | cons t ts =>
      unfold apart
      split
      · next heq =>
        obtain ⟨front, hb, ht⟩ := ih ts
        exact ⟨b :: front, congrArg (b :: ·) hb, heq ▸ congrArg (t :: ·) ht⟩
      · exact ⟨[], rfl, rfl⟩

/-- One path is a prefix of another just if nothing of it is left. -/
lemma apart_fst_eq_nil (bs ts : Path) : (apart bs ts).1 = [] ↔ bs <+: ts := by
  constructor
  · intro h
    obtain ⟨front, hb, ht⟩ := exists_common bs ts
    rw [h, List.append_nil] at hb
    rw [ht, hb]
    exact List.prefix_append _ _
  · intro h
    induction bs generalizing ts with
    | nil => simp
    | cons b bs ih =>
      obtain ⟨rest, rfl⟩ := h
      rw [List.cons_append, apart, if_pos rfl]
      exact ih _ (List.prefix_append _ _)

lemma relWalk_joined {bs ts : Path} (hb : ∀ name ∈ bs, Plain name) (ht : ∀ name ∈ ts, Plain name)
    {fuel : ℕ} (hfuel : bs.length < fuel) :
    ∃ word, word ≠ dotDot ∧ relWalk fuel (joined bs) (joined ts) =
      (joined (apart bs ts).1, joined (apart bs ts).2, word) := by
  induction bs generalizing ts fuel with
  | nil =>
    obtain ⟨n, rfl⟩ := Nat.exists_eq_add_one.mpr hfuel
    refine ⟨[], by decide, ?_⟩
    rw [relWalk, if_pos (.inl rfl), apart_nil]
  | cons b bs ih =>
    obtain ⟨n, rfl⟩ := Nat.exists_eq_add_one.mpr (Nat.zero_lt_of_lt hfuel)
    obtain ⟨hplain, hbs⟩ := List.forall_mem_cons.mp hb
    have hbase : joined (b :: bs) ≠ [] := joined_ne_nil (List.cons_ne_nil _ _) hb
    cases ts with
    | nil =>
      refine ⟨[], by decide, ?_⟩
      rw [relWalk, if_pos (.inr rfl)]
      rfl
    | cons t ts =>
      obtain ⟨hplain', hts⟩ := List.forall_mem_cons.mp ht
      have htarg : joined (t :: ts) ≠ [] := joined_ne_nil (List.cons_ne_nil _ _) ht
      obtain ⟨htake, hdrop⟩ := first_joined (p := bs) hplain.2.2.2
      obtain ⟨htake', hdrop'⟩ := first_joined (p := ts) hplain'.2.2.2
      rw [relWalk, if_neg (not_or.mpr ⟨hbase, htarg⟩), htake, htake', hdrop, hdrop', apart]
      by_cases heq : b = t
      · rw [if_neg (not_not.mpr heq), if_pos heq]
        exact ih hbs hts (Nat.lt_of_succ_lt_succ hfuel)
      · rw [if_pos heq, if_neg heq]
        exact ⟨b, hplain.2.2.1, rfl⟩

/-! ### Rooted paths -/

lemma clean_rooted {s : Bytes} (h : isAbs s = true) : clean s = slash :: joined (elements s) := by
  unfold clean
  rw [if_pos h]

lemma isAbs_clean {s : Bytes} (h : isAbs s = true) : isAbs (clean s) = true := by
  rw [clean_rooted h]
  rfl

lemma clean_clean {s : Bytes} (h : isAbs s = true) : clean (clean s) = clean s := by
  rw [clean_rooted (isAbs_clean h), elements_clean h, clean_rooted h]

lemma components_clean {s : Bytes} (h : isAbs s = true) : components (clean s) = elements s := by
  have hplain := plain_of_isAbs h
  have hroot : (slash :: joined (elements s)).splitOn slash =
      [] :: (joined (elements s)).splitOn slash := by
    rw [List.splitOn_cons_eq_if_modifyHead, if_pos (beq_self_eq_true _)]
  unfold components
  rw [clean_rooted h, hroot]
  by_cases hnil : elements s = []
  · rw [hnil]
    rfl
  · rw [splitOn_joined hnil hplain, List.filter_cons_of_neg (by simp)]
    exact List.filter_eq_self.mpr fun name hname => decide_eq_true (hplain name hname).1

lemma length_le_joined {p : Path} (h : ∀ name ∈ p, Plain name) : p.length ≤ (joined p).length := by
  induction p with
  | nil => exact Nat.zero_le _
  | cons name p ih =>
    obtain ⟨hname, hp⟩ := List.forall_mem_cons.mp h
    have hpos := List.length_pos_of_ne_nil hname.1
    by_cases hnil : p = []
    · subst hnil
      have hjoined : joined [name] = name := List.intercalate_singleton
      rw [hjoined]
      exact hpos
    · rw [joined_cons name hnil, List.length_append, List.length_cons, List.length_cons]
      have := ih hp
      omega

/-- The way from one rooted path to another, on their components. -/
lemma rel_rooted {p q : Bytes} (hp : isAbs p = true) (hq : isAbs q = true) :
    rel p q =
      if elements q = elements p then some [dot]
      else if (apart (elements p) (elements q)).1 = [] then
        some (joined (apart (elements p) (elements q)).2)
      else some (upAndDown (joined (apart (elements p) (elements q)).1)
        (joined (apart (elements p) (elements q)).2)) := by
  have hplain := plain_of_isAbs hp
  have hplain' := plain_of_isAbs hq
  have hsame : clean q = clean p ↔ elements q = elements p := by
    constructor
    · intro h
      rw [← elements_clean hq, h, elements_clean hp]
    · intro h
      rw [clean_rooted hq, h, clean_rooted hp]
  unfold rel
  by_cases heq : elements q = elements p
  · rw [if_pos (hsame.mpr heq), if_pos heq]
  · rw [if_neg (mt hsame.mp heq), if_neg heq]
    have hdot : clean p ≠ [dot] := by
      rw [clean_rooted hp]
      exact fun h => absurd (List.cons.inj h).1 (by decide)
    have hfuel : (elements p).length < (slash :: joined (elements p)).length := by
      have := length_le_joined hplain
      rw [List.length_cons]
      omega
    obtain ⟨word, hword, hwalk⟩ := relWalk_joined hplain hplain' hfuel
    have hfirst : relWalk ((slash :: joined (elements p)).length + 1) (slash :: joined (elements p))
        (slash :: joined (elements q)) =
          relWalk (slash :: joined (elements p)).length (joined (elements p))
            (joined (elements q)) := by
      rw [relWalk, if_neg (by simp)]
      simp
    simp only [if_neg hdot]
    rw [if_neg (by rw [isAbs_clean hp, isAbs_clean hq]; simp), clean_rooted hp, clean_rooted hq,
      hfirst, hwalk]
    simp only [if_neg hword]
    by_cases hleft : (apart (elements p) (elements q)).1 = []
    · rw [if_neg (by rw [hleft]; simp [joined]), if_pos hleft]
    · obtain ⟨front, hfront, -⟩ := exists_common (elements p) (elements q)
      have hne : joined (apart (elements p) (elements q)).1 ≠ [] :=
        joined_ne_nil hleft fun name hname => hplain name (by
          rw [hfront]
          exact List.mem_append_right _ hname)
      rw [if_pos hne, if_neg hleft]

end GatewayControl.RelativePaths
