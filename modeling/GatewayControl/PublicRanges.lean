import Mathlib.Data.Nat.Bitwise
import GatewayControl.ZoneReading

/-!
The ranges of public addresses, as prefixes of 128 bits and as the checks on groups.
-/

namespace GatewayControl.PublicIp

open Text Ipv6Texts

/-! ### Ranges of addresses -/

def value (gs : List ℕ) : ℕ := gs.foldl (fun n g => n * 65536 + g) 0

/-- An address that begins with the first bits of a base. -/
def Within (gs base : List ℕ) (bits : ℕ) : Prop :=
  value gs / 2 ^ (128 - bits) = value base / 2 ^ (128 - bits)

/-- The special ranges: each base and how many of its bits count. -/
def specialRanges : List (List ℕ × ℕ) :=
  [([0x3fff, 0, 0, 0, 0, 0, 0, 0], 20), ([0, 0, 0, 0, 0, 0xffff, 0, 0], 96),
    ([0x64, 0xff9b, 0, 0, 0, 0, 0, 0], 32), ([0x2001, 0, 0, 0, 0, 0, 0, 0], 32),
    ([0x2001, 2, 0, 0, 0, 0, 0, 0], 48), ([0x2001, 0x10, 0, 0, 0, 0, 0, 0], 28),
    ([0x2001, 0x20, 0, 0, 0, 0, 0, 0], 28), ([0x2001, 0xdb8, 0, 0, 0, 0, 0, 0], 32),
    ([0x2002, 0, 0, 0, 0, 0, 0, 0], 16)]

/-- In `2000::/3` and in none of the special ranges. -/
def Global (gs : List ℕ) : Prop :=
  Within gs [0x2000, 0, 0, 0, 0, 0, 0, 0] 3 ∧ ∀ range ∈ specialRanges, ¬ Within gs range.1 range.2

lemma and_high_bits {x k m : ℕ} (hx : x < 2 ^ (k + m)) :
    x &&& ((2 ^ m - 1) <<< k) = x / 2 ^ k * 2 ^ k := by
  apply Nat.eq_of_testBit_eq
  intro i
  rw [← Nat.shiftRight_eq_div_pow, ← Nat.shiftLeft_eq, Nat.testBit_and, Nat.testBit_shiftLeft,
    Nat.testBit_shiftLeft, Nat.testBit_two_pow_sub_one, Nat.testBit_shiftRight]
  by_cases hk : k ≤ i
  · rw [Nat.add_sub_cancel' hk]
    by_cases hm : i - k < m
    · simp [hk, hm]
    · have hfalse : x.testBit i = false :=
        Nat.testBit_eq_false_of_lt (hx.trans_le (Nat.pow_le_pow_right (by decide) (by omega)))
      simp [hfalse]
  · simp [hk]

lemma masked_eq {x k m : ℕ} (hx : x < 65536) (hkm : k + m = 16) :
    masked (some (x : ℤ)) ((2 ^ m - 1) <<< k) = x / 2 ^ k * 2 ^ k := by
  have hsmall : ((x : ℤ) % 2 ^ 32).toNat = x := by
    have hmod : (x : ℤ) % 2 ^ 32 = x := Int.emod_eq_of_lt (by omega) (by omega)
    rw [hmod, Int.toNat_natCast]
  change ((x : ℤ) % 2 ^ 32).toNat &&& _ = _
  rw [hsmall]
  exact and_high_bits (hkm ▸ hx)

lemma value_eight (a b c d e f g h : ℕ) :
    value [a, b, c, d, e, f, g, h] = a * 2 ^ 112 + b * 2 ^ 96 + c * 2 ^ 80 + d * 2 ^ 64 +
      e * 2 ^ 48 + f * 2 ^ 32 + g * 2 ^ 16 + h := by
  simp only [value, List.foldl_cons, List.foldl_nil]
  omega

/-- The first bits of eight groups. -/
lemma first_bits {a b c d e f g h : ℕ} (hb : b < 65536) (hc : c < 65536) (hd : d < 65536)
    (he : e < 65536) (hf : f < 65536) (hg : g < 65536) (hh : h < 65536) :
    let n := value [a, b, c, d, e, f, g, h]
    n / 2 ^ 112 = a ∧ n / 2 ^ 96 = a * 65536 + b ∧ n / 2 ^ 80 = (a * 65536 + b) * 65536 + c ∧
      n / 2 ^ 32 = ((((a * 65536 + b) * 65536 + c) * 65536 + d) * 65536 + e) * 65536 + f := by
  intro n
  have hn : n = a * 2 ^ 112 + b * 2 ^ 96 + c * 2 ^ 80 + d * 2 ^ 64 +
      e * 2 ^ 48 + f * 2 ^ 32 + g * 2 ^ 16 + h := value_eight ..
  refine ⟨?_, ?_, ?_, ?_⟩
  all_goals omega

/-- The ranges, group by group. -/
lemma global_iff {a b c d e f g h : ℕ} (hb : b < 65536) (hc : c < 65536) (hd : d < 65536)
    (he : e < 65536) (hf : f < 65536) (hg : g < 65536) (hh : h < 65536) :
    Global [a, b, c, d, e, f, g, h] ↔ a / 2 ^ 13 = 1 ∧
      ¬ (a = 0x3fff ∧ b / 2 ^ 12 = 0) ∧
      ¬ (a = 0 ∧ b = 0 ∧ c = 0 ∧ d = 0 ∧ e = 0 ∧ f = 0xffff) ∧ ¬ (a = 0x64 ∧ b = 0xff9b) ∧
      ¬ (a = 0x2001 ∧ b = 0) ∧ ¬ (a = 0x2001 ∧ b = 2 ∧ c = 0) ∧
      ¬ (a = 0x2001 ∧ b / 2 ^ 4 = 1) ∧ ¬ (a = 0x2001 ∧ b / 2 ^ 4 = 2) ∧
      ¬ (a = 0x2001 ∧ b = 0xdb8) ∧ ¬ a = 0x2002 := by
  obtain ⟨hbits16, hbits32, hbits48, hbits96⟩ := first_bits (a := a) hb hc hd he hf hg hh
  have hless : ∀ k m, value [a, b, c, d, e, f, g, h] / 2 ^ (k + m) =
      value [a, b, c, d, e, f, g, h] / 2 ^ k / 2 ^ m := by
    intro k m
    rw [Nat.div_div_eq_div_mul, ← pow_add]
  have hbits3 : value [a, b, c, d, e, f, g, h] / 2 ^ 125 = a / 2 ^ 13 := by
    rw [hless 112 13, hbits16]
  have hbits20 : value [a, b, c, d, e, f, g, h] / 2 ^ 108 = (a * 65536 + b) / 2 ^ 12 := by
    rw [hless 96 12, hbits32]
  have hbits28 : value [a, b, c, d, e, f, g, h] / 2 ^ 100 = (a * 65536 + b) / 2 ^ 4 := by
    rw [hless 96 4, hbits32]
  unfold Global Within specialRanges
  simp only [List.forall_mem_cons, Nat.reduceSub, hbits3, hbits16, hbits20, hbits28, hbits32,
    hbits48, hbits96]
  refine and_congr (by simp [value]) (and_congr (not_congr ?_) (and_congr (not_congr ?_)
    (and_congr (not_congr ?_) (and_congr (not_congr ?_) (and_congr (not_congr ?_)
    (and_congr (not_congr ?_) (and_congr (not_congr ?_) (and_congr (not_congr ?_)
    ((and_iff_left (by simp)).trans (not_congr ?_))))))))))
  all_goals
    simp only [value, List.foldl_cons, List.foldl_nil]
    omega

lemma some_eq {n : ℕ} {z : ℤ} (k : ℕ) (hz : z = k) : some (n : ℤ) = some z ↔ n = k :=
  hz ▸ Option.some_inj.trans Int.natCast_inj

lemma high_bits_eq {x k n m : ℕ} (h : m = n * 2 ^ k) : x / 2 ^ k * 2 ^ k = m ↔ x / 2 ^ k = n := by
  rw [h]
  exact Nat.mul_left_inj (pow_ne_zero k two_ne_zero)

/-- The checks on the groups are the ranges. -/
lemma checks_iff {gs : List ℕ} (hlength : gs.length = 8) (hgs : ∀ g ∈ gs, g < 65536) :
    (masked (element (numbers gs) 0) 0xe000 ≠ 0x2000 ∨ specialIpv6 (numbers gs) = true ∨
      explicitlyExcluded (numbers gs) = true) ↔ ¬ Global gs := by
  match gs, hlength with
  | [a, b, c, d, e, f, g, h], _ =>
    simp only [List.forall_mem_cons] at hgs
    obtain ⟨ha, hb, hc, hd, he, hf, hg, hh, -⟩ := hgs
    have h3 : masked (some (a : ℤ)) 0xe000 = a / 2 ^ 13 * 2 ^ 13 := masked_eq (m := 3) ha rfl
    have hf000 : masked (some (b : ℤ)) 0xf000 = b / 2 ^ 12 * 2 ^ 12 := masked_eq (m := 4) hb rfl
    have hfff0 : masked (some (b : ℤ)) 0xfff0 = b / 2 ^ 4 * 2 ^ 4 := masked_eq (m := 12) hb rfl
    have h13 : masked (some (a : ℤ)) 0xe000 = 0x2000 ↔ a / 2 ^ 13 = 1 :=
      h3 ▸ high_bits_eq (by decide)
    have h12 : masked (some (b : ℤ)) 0xf000 = 0 ↔ b / 2 ^ 12 = 0 := hf000 ▸ high_bits_eq (by decide)
    have h4 : masked (some (b : ℤ)) 0xfff0 = 0x10 ↔ b / 2 ^ 4 = 1 := hfff0 ▸ high_bits_eq (by decide)
    have h4' : masked (some (b : ℤ)) 0xfff0 = 0x20 ↔ b / 2 ^ 4 = 2 :=
      hfff0 ▸ high_bits_eq (by decide)
    rw [global_iff hb hc hd he hf hg hh]
    unfold specialIpv6 explicitlyExcluded
    simp only [numbers, element, List.map_cons, List.map_nil, List.getElem?_cons_zero,
      List.getElem?_cons_succ, Option.getD_some, List.take_succ_cons, List.take_zero, List.all_cons,
      List.all_nil, Bool.or_eq_true, Bool.and_eq_true, decide_eq_true_eq, ne_eq,
      h13, h12, h4, h4', and_true, some_eq (z := 0) 0 rfl, some_eq (z := 2) 2 rfl,
      some_eq (z := 0x64) 0x64 rfl, some_eq (z := 0xdb8) 0xdb8 rfl,
      some_eq (z := 0x2001) 0x2001 rfl, some_eq (z := 0x2002) 0x2002 rfl,
      some_eq (z := 0x3fff) 0x3fff rfl, some_eq (z := 0xff9b) 0xff9b rfl,
      some_eq (z := 0xffff) 0xffff rfl]
    constructor
    · rintro hchecked ⟨h₀, h₁, h₂, h₃, h₄, h₅, h₆, h₇, h₈, h₉⟩
      rcases hchecked with hout | (⟨ha, (((hb | hb) | hb) | hb) | hb⟩ | ha) |
        ((hin | ⟨⟨ha, hb, hc, hd, he⟩, hf⟩) | hin)
      · exact hout h₀
      · exact h₄ ⟨ha, hb⟩
      · exact h₅ ⟨ha, hb⟩
      · exact h₆ ⟨ha, hb⟩
      · exact h₇ ⟨ha, hb⟩
      · exact h₈ ⟨ha, hb⟩
      · exact h₉ ha
      · exact h₁ hin
      · exact h₂ ⟨ha, hb, hc, hd, he, hf⟩
      · exact h₃ hin
    · intro hnot
      by_contra hpassed
      simp only [not_or, not_not] at hpassed
      obtain ⟨h₀, ⟨h2001, h₉⟩, ⟨h₁, h₂⟩, h₃⟩ := hpassed
      exact hnot ⟨h₀, h₁, fun ⟨ha, hb, hc, hd, he, hf⟩ => h₂ ⟨⟨ha, hb, hc, hd, he⟩, hf⟩, h₃,
        fun ⟨ha, hb⟩ => h2001 ⟨ha, .inl (.inl (.inl (.inl hb)))⟩,
        fun ⟨ha, hb⟩ => h2001 ⟨ha, .inl (.inl (.inl (.inr hb)))⟩,
        fun ⟨ha, hb⟩ => h2001 ⟨ha, .inl (.inl (.inr hb))⟩,
        fun ⟨ha, hb⟩ => h2001 ⟨ha, .inl (.inr hb)⟩,
        fun ⟨ha, hb⟩ => h2001 ⟨ha, .inr hb⟩, h₉⟩

end GatewayControl.PublicIp
