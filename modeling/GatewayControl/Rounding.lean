import Mathlib.Algebra.Order.Floor.Ring
import Mathlib.Data.Int.Log
import Mathlib.Data.Rat.Floor
import Mathlib.Tactic.FieldSimp
import Mathlib.Tactic.Linarith
import Mathlib.Tactic.Positivity
import Mathlib.Tactic.Ring

/-!
Rounding rationals that are not negative to a number of binary digits, to the nearest and on a
tie to the even one. The exponent has no bounds.

`toPrecision_le_iff` says what is rounded to at most a given number, if its last digit is even.
-/

namespace GatewayControl.Rounding

/-- The nearest integer, of two the even one. -/
def nearestEven (y : ℚ) : ℤ :=
  if y - ⌊y⌋ < 1 / 2 then ⌊y⌋
  else if 1 / 2 < y - ⌊y⌋ then ⌊y⌋ + 1
  else if Even ⌊y⌋ then ⌊y⌋
  else ⌊y⌋ + 1

lemma nearestEven_bounds (y : ℚ) : ⌊y⌋ ≤ nearestEven y ∧ nearestEven y ≤ ⌊y⌋ + 1 := by
  unfold nearestEven
  split_ifs <;> omega

@[simp] lemma nearestEven_intCast (n : ℤ) : nearestEven n = n := by
  simp [nearestEven]

/-- A tie at an even number goes down to it. -/
lemma nearestEven_le_iff {y : ℚ} {n : ℤ} (hn : Even n) :
    nearestEven y ≤ n ↔ y ≤ n + 1 / 2 := by
  have hfloor := Int.floor_le y
  have hnext := Int.lt_floor_add_one y
  unfold nearestEven
  generalize ⌊y⌋ = f at *
  split_ifs with hlow hhigh heven
  · constructor
    · intro h
      have h' : (f : ℚ) ≤ n := by exact_mod_cast h
      linarith
    · intro h
      have h' : (f : ℚ) < n + 1 := by linarith
      have h'' : f < n + 1 := by exact_mod_cast h'
      omega
  · constructor
    · intro h
      have h' : (f : ℚ) + 1 ≤ n := by exact_mod_cast h
      linarith
    · intro h
      have h' : (f : ℚ) < n := by linarith
      have h'' : f < n := by exact_mod_cast h'
      omega
  · have htie : y = f + 1 / 2 := by linarith
    rw [htie]
    constructor
    · intro h
      have h' : (f : ℚ) ≤ n := by exact_mod_cast h
      linarith
    · intro h
      have h' : (f : ℚ) ≤ n := by linarith
      exact_mod_cast h'
  · have htie : y = f + 1 / 2 := by linarith
    rw [htie]
    constructor
    · intro h
      have h' : (f : ℚ) + 1 ≤ n := by exact_mod_cast h
      linarith
    · intro h
      have h' : (f : ℚ) ≤ n := by linarith
      have h'' : f ≤ n := by exact_mod_cast h'
      have hne : f ≠ n := fun heq => heven (heq ▸ hn)
      omega

/-! ### A number of digits -/

/-- The distance of the numbers with `p` digits about `x`. -/
def spacing (p : ℕ) (x : ℚ) : ℚ := 2 ^ (Int.log 2 x + 1 - p)

def toPrecision (p : ℕ) (x : ℚ) : ℚ := nearestEven (x / spacing p x) * spacing p x

lemma spacing_pos (p : ℕ) (x : ℚ) : 0 < spacing p x := by
  exact zpow_pos (by norm_num) _

lemma toPrecision_nonneg {p : ℕ} {x : ℚ} (hx : 0 ≤ x) : 0 ≤ toPrecision p x := by
  have hpos := spacing_pos p x
  have hfloor : 0 ≤ ⌊x / spacing p x⌋ := Int.floor_nonneg.mpr (by positivity)
  have hnear : (0 : ℚ) ≤ nearestEven (x / spacing p x) := by
    exact_mod_cast hfloor.trans (nearestEven_bounds _).1
  exact mul_nonneg hnear hpos.le

/-- An integer with few enough digits stays. -/
lemma toPrecision_natCast {p n : ℕ} (h : n < 2 ^ p) : toPrecision p n = n := by
  rcases Nat.eq_zero_or_pos n with rfl | hpos
  · have hzero : nearestEven 0 = 0 := nearestEven_intCast 0
    simp [toPrecision, hzero]
  have hlog : Int.log 2 (n : ℚ) < p := by
    have hle := Int.zpow_log_le_self (b := 2) (r := (n : ℚ)) (by decide) (by exact_mod_cast hpos)
    have hlt : ((2 : ℕ) : ℚ) ^ Int.log 2 (n : ℚ) < (2 : ℕ) ^ (p : ℤ) := by
      refine hle.trans_lt ?_
      exact_mod_cast h
    exact (zpow_lt_zpow_iff_right₀ (by norm_num)).mp hlt
  obtain ⟨k, hk⟩ : ∃ k : ℕ, (p : ℤ) - (Int.log 2 (n : ℚ) + 1) = k :=
    ⟨_, (Int.toNat_of_nonneg (by omega)).symm⟩
  have hspacing : spacing p n = ((2 : ℚ) ^ k)⁻¹ := by
    unfold spacing
    rw [show Int.log 2 (n : ℚ) + 1 - p = -(k : ℤ) by omega, zpow_neg, zpow_natCast]
  have hquot : (n : ℚ) / spacing p n = ((n * 2 ^ k : ℕ) : ℤ) := by
    rw [hspacing]
    push_cast
    field_simp
  unfold toPrecision
  rw [hquot, nearestEven_intCast, hspacing]
  push_cast
  field_simp

/-- Counted in spacings, a number has all its digits. -/
lemma scaled_bounds {p : ℕ} {x : ℚ} (hx : 0 < x) :
    (2 : ℚ) ^ p ≤ x / spacing (p + 1) x ∧ x / spacing (p + 1) x < 2 ^ (p + 1) := by
  have hlow := Int.zpow_log_le_self (b := 2) (by decide) hx
  have hhigh := Int.lt_zpow_succ_log_self (b := 2) (by decide) x
  push_cast at hlow hhigh
  have hpos := spacing_pos (p + 1) x
  constructor
  · rw [le_div_iff₀ hpos, spacing, ← zpow_natCast, ← zpow_add₀ (by norm_num)]
    rwa [show (p : ℤ) + (Int.log 2 x + 1 - (p + 1 : ℕ)) = Int.log 2 x by push_cast; ring]
  · rw [div_lt_iff₀ hpos, spacing, ← zpow_natCast, ← zpow_add₀ (by norm_num)]
    rwa [show ((p + 1 : ℕ) : ℤ) + (Int.log 2 x + 1 - (p + 1 : ℕ)) = Int.log 2 x + 1 by ring]

lemma nearestEven_scaled {p : ℕ} {x : ℚ} (hx : 0 < x) :
    (2 : ℚ) ^ p ≤ nearestEven (x / spacing (p + 1) x) ∧
      (nearestEven (x / spacing (p + 1) x) : ℚ) ≤ 2 ^ (p + 1) := by
  obtain ⟨hlow, hhigh⟩ := scaled_bounds (p := p) hx
  obtain ⟨hfloor, hnext⟩ := nearestEven_bounds (x / spacing (p + 1) x)
  constructor
  · have h : (2 : ℤ) ^ p ≤ ⌊x / spacing (p + 1) x⌋ := Int.le_floor.mpr (by exact_mod_cast hlow)
    exact_mod_cast h.trans hfloor
  · have h : ⌊x / spacing (p + 1) x⌋ < (2 : ℤ) ^ (p + 1) :=
      Int.floor_lt.mpr (by exact_mod_cast hhigh)
    have h' : nearestEven (x / spacing (p + 1) x) ≤ (2 : ℤ) ^ (p + 1) := by omega
    exact_mod_cast h'

lemma toPrecision_pos {p : ℕ} {x : ℚ} (hx : 0 < x) : 0 < toPrecision (p + 1) x := by
  have hnear := (nearestEven_scaled (p := p) hx).1
  have hpow : (0 : ℚ) < 2 ^ p := by positivity
  exact mul_pos (hpow.trans_le hnear) (spacing_pos _ _)

/-- What is rounded to at most `m * 2 ^ e`, a number with all its digits and an even last one. -/
theorem toPrecision_le_iff {p : ℕ} {m e : ℤ} {x : ℚ} (hx : 0 < x) (hm : Even m)
    (hlow : 2 ^ p ≤ m) (hhigh : m < 2 ^ (p + 1)) :
    toPrecision (p + 1) x ≤ m * 2 ^ e ↔ x ≤ (m + 1 / 2) * 2 ^ e := by
  obtain ⟨hylow, hyhigh⟩ := scaled_bounds (p := p) hx
  obtain ⟨hnlow, hnhigh⟩ := nearestEven_scaled (p := p) hx
  have hmlow : (2 : ℚ) ^ p ≤ m := by exact_mod_cast hlow
  have hmhigh : (m : ℚ) + 1 ≤ 2 ^ (p + 1) := by exact_mod_cast hhigh
  have hxy : x = x / spacing (p + 1) x * spacing (p + 1) x :=
    (div_mul_cancel₀ x (spacing_pos _ _).ne').symm
  obtain ⟨f, hf⟩ : ∃ f : ℤ, spacing (p + 1) x = 2 ^ f := ⟨_, rfl⟩
  unfold toPrecision
  generalize x / spacing (p + 1) x = y at *
  rw [hf] at hxy ⊢
  rw [hxy]
  have hfpos : (0 : ℚ) < 2 ^ f := zpow_pos (by norm_num) f
  have hepos : (0 : ℚ) < 2 ^ e := zpow_pos (by norm_num) e
  have hmpos : (0 : ℚ) ≤ m := le_trans (by positivity) hmlow
  have hpower : (2 : ℚ) ^ (p + 1) = 2 * 2 ^ p := pow_succ' 2 p
  rcases lt_trichotomy f e with hlt | rfl | hgt
  · -- the number lies below, and so does all that it may be rounded to
    have hspace : (2 : ℚ) * 2 ^ f ≤ 2 ^ e := by
      rw [← zpow_one_add₀ (by norm_num)]
      exact zpow_le_zpow_right₀ (by norm_num) (by omega)
    have hbound : ∀ z : ℚ, z ≤ 2 ^ (p + 1) → z * 2 ^ f ≤ m * 2 ^ e := by
      intro z hz
      calc z * 2 ^ f ≤ 2 ^ (p + 1) * 2 ^ f := by gcongr
        _ = 2 ^ p * (2 * 2 ^ f) := by rw [hpower]; ring
        _ ≤ m * 2 ^ e := by gcongr
    have hbelow := hbound y hyhigh.le
    exact iff_of_true (hbound _ hnhigh) (by linarith)
  · rw [mul_le_mul_iff_left₀ hfpos, mul_le_mul_iff_left₀ hfpos, ← nearestEven_le_iff hm]
    exact Int.cast_le
  · have hspace : (2 : ℚ) * 2 ^ e ≤ 2 ^ f := by
      rw [← zpow_one_add₀ (by norm_num)]
      exact zpow_le_zpow_right₀ (by norm_num) (by omega)
    have hbound : ∀ z : ℚ, 2 ^ p ≤ z → (m + 1) * 2 ^ e ≤ z * 2 ^ f := by
      intro z hz
      have hzpos : (0 : ℚ) ≤ z := le_trans (by positivity) hz
      calc (m + 1) * (2 : ℚ) ^ e ≤ 2 ^ (p + 1) * 2 ^ e := by gcongr
        _ = 2 ^ p * (2 * 2 ^ e) := by rw [hpower]; ring
        _ ≤ z * 2 ^ f := by gcongr
    have habove := hbound _ hnlow
    have habove' := hbound y hylow
    exact iff_of_false (by linarith) (by linarith)

end GatewayControl.Rounding
