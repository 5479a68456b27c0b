import GatewayControl.Rounding
import GatewayControl.Text

/-!
The processor usage a node reports: the share of the time between two readings of `/proc/stat`
in which its processors were not idle.

The reader takes the whole file for the line of all processors. What the kernel writes goes on
with a line for each processor, so that no reading of it succeeds and the usage is always 0
(`reading_kernelFormat`).
-/

namespace GatewayControl.CpuUsage

open Text Rounding

/-- Rounding to the numbers of 64-bit floating point; none here comes near its least or greatest
exponent. -/
def float64 (x : ℚ) : ℚ := toPrecision 53 x

/-- `strconv.ParseUint(field, 10, 64)`. -/
def parseUint (field : List Char) : Option ℕ :=
  let n := field.foldl (fun n c => 10 * n + (c.toNat - '0'.toNat)) 0
  if field ≠ [] ∧ field.all Char.isDigit ∧ n < 2 ^ 64 then some n else none

structure Counters where
  total : ℕ
  idle : ℕ
  deriving DecidableEq

/-- The counters of a file, if it could be read; sums wrap. -/
def reading (contents : Option (List Char)) : Option Counters :=
  match contents with
  | none => none
  | some contents =>
      let fields := fields contents
      if fields.length < 6 ∨ fields.head? ≠ some "cpu".toList then none
      else
        match fields.tail.mapM parseUint with
        | none => none
        | some values =>
            let total := values.foldl (fun total value => (total + value) % 2 ^ 64) 0
            let idle := values.getD 3 0
            let idle := if 4 < values.length then (idle + values.getD 4 0) % 2 ^ 64 else idle
            some ⟨total, idle⟩

/-- The percentage, and the subtractions made for it. -/
structure Usage where
  percent : ℚ
  subtractions : List (ℕ × ℕ)

/-- Unsigned, so that it wraps. -/
def subtract (a b : ℕ) : ℕ := (a + 2 ^ 64 - b) % 2 ^ 64

def collectCPUPercent (previous : Counters) (contents : Option (List Char)) :
    Counters × Usage :=
  match reading contents with
  | none => (previous, ⟨0, []⟩)
  | some current =>
      if previous.total = 0 ∨ current.total ≤ previous.total ∨ current.idle < previous.idle then
        (current, ⟨0, []⟩)
      else
        let totalDelta := subtract current.total previous.total
        let idleDelta := subtract current.idle previous.idle
        let deltas := [(current.total, previous.total), (current.idle, previous.idle)]
        if totalDelta ≤ idleDelta then (current, ⟨0, deltas⟩)
        else
          let busy := subtract totalDelta idleDelta
          (current, ⟨float64 (float64 (float64 busy * 100) / float64 totalDelta),
            deltas ++ [(totalDelta, idleDelta)]⟩)

/-! ### What the kernel writes -/

def decimal (n : ℕ) : List Char := Nat.toDigits 10 n

/-- The line of all processors with these counters, then one of a processor, then anything. -/
def KernelFormat (contents : Option (List Char)) (counters : List ℕ) : Prop :=
  ∃ line rest n, contents = some (line ++ '\n' :: rest) ∧
    fields line = "cpu".toList :: counters.map decimal ∧ 5 ≤ counters.length ∧
    (∀ c ∈ counters, c < 2 ^ 64) ∧ (fields rest).head? = some ("cpu".toList ++ decimal n)

def idleOf (counters : List ℕ) : ℕ := counters.getD 3 0 + counters.getD 4 0

/-- No counter goes back, and time passes. -/
def Advance (counters counters' : List ℕ) : Prop :=
  List.Forall₂ (· ≤ ·) counters counters' ∧ counters.sum < counters'.sum

/-- What the second of two calls says of the time between them. -/
structure Measured (previous : Counters) (first second : Option (List Char)) (usage : Usage) :
    Prop where
  formula : ∀ counters counters', KernelFormat first counters → KernelFormat second counters' →
    Advance counters counters' → usage.percent = 100 * (1 -
      ((idleOf counters' : ℚ) - idleOf counters) / ((counters'.sum : ℚ) - counters.sum))
  range : 0 ≤ usage.percent ∧ usage.percent ≤ 100
  subtractions : ∀ p ∈ usage.subtractions, p.2 ≤ p.1

def secondUsage (previous : Counters) (first second : Option (List Char)) : Usage :=
  (collectCPUPercent (collectCPUPercent previous first).1 second).2

lemma mapM_eq_none {α β : Type*} {f : α → Option β} {as : List α} {a : α} (ha : a ∈ as)
    (h : f a = none) : as.mapM f = none := by
  induction as with
  | nil => cases ha
  | cons b as ih =>
    rw [List.mapM_cons]
    rcases List.mem_cons.mp ha with rfl | ha
    · rw [h]
      rfl
    · rw [ih ha]
      cases f b <;> rfl

lemma reading_kernelFormat {contents : Option (List Char)} {counters : List ℕ}
    (h : KernelFormat contents counters) : reading contents = none := by
  obtain ⟨line, rest, n, rfl, hline, -, -, hrest⟩ := h
  obtain ⟨more, hmore⟩ : ∃ more, fields rest = ("cpu".toList ++ decimal n) :: more := by
    cases hfields : fields rest with
    | nil => simp [hfields] at hrest
    | cons w more => exact ⟨more, by simpa [hfields] using hrest⟩
  have hword : parseUint ("cpu".toList ++ decimal n) = none := by
    unfold parseUint
    have hletter : ("cpu".toList ++ decimal n).all Char.isDigit = false := by
      rw [show "cpu".toList = ['c', 'p', 'u'] from rfl]
      rfl
    rw [hletter]
    simp
  unfold reading
  dsimp only
  rw [fields_append (by decide), hline, hmore]
  split
  · rfl
  · rw [mapM_eq_none (a := "cpu".toList ++ decimal n) (by simp) hword]

/-! ### The subtractions -/

lemma parseUint_lt {field : List Char} {n : ℕ} (h : parseUint field = some n) : n < 2 ^ 64 := by
  unfold parseUint at h
  dsimp only at h
  split at h
  · next hfield =>
    obtain rfl := Option.some.inj h
    exact hfield.2.2
  · cases h

lemma mapM_parseUint_lt {fields : List (List Char)} {values : List ℕ}
    (h : fields.mapM parseUint = some values) : ∀ v ∈ values, v < 2 ^ 64 := by
  induction fields generalizing values with
  | nil =>
    obtain rfl : values = [] := by simpa using h.symm
    simp
  | cons field fields ih =>
    rw [List.mapM_cons] at h
    cases hfield : parseUint field with
    | none => simp [hfield] at h
    | some n =>
      cases hrest : fields.mapM parseUint with
      | none => simp [hfield, hrest] at h
      | some rest =>
        obtain rfl : n :: rest = values := by simpa [hfield, hrest] using h
        intro v hv
        rcases List.mem_cons.mp hv with rfl | hv
        · exact parseUint_lt hfield
        · exact ih hrest v hv

lemma getD_lt {values : List ℕ} (h : ∀ v ∈ values, v < 2 ^ 64) (n : ℕ) :
    values.getD n 0 < 2 ^ 64 := by
  rw [List.getD_eq_getElem?_getD]
  cases hv : values[n]? with
  | none => simp
  | some v => simpa using h v (List.mem_of_getElem? hv)

lemma reading_lt {contents : Option (List Char)} {current : Counters}
    (h : reading contents = some current) : current.total < 2 ^ 64 ∧ current.idle < 2 ^ 64 := by
  unfold reading at h
  split at h
  · cases h
  dsimp only at h
  split at h
  · cases h
  split at h
  · cases h
  · next values hvalues =>
    have hlt := mapM_parseUint_lt hvalues
    obtain rfl := Option.some.inj h
    constructor
    · have hfold : ∀ total : ℕ, total < 2 ^ 64 →
          values.foldl (fun total value => (total + value) % 2 ^ 64) total < 2 ^ 64 := by
        clear hvalues hlt h
        induction values with
        | nil => exact fun total htotal => htotal
        | cons v values ih => exact fun total _ => ih _ (Nat.mod_lt _ (by decide))
      exact hfold 0 (by decide)
    · dsimp only
      split
      · exact Nat.mod_lt _ (by decide)
      · exact getD_lt hlt 3

lemma subtract_eq {a b : ℕ} (ha : a < 2 ^ 64) (hb : b ≤ a) : subtract a b = a - b := by
  unfold subtract
  omega

/-! ### The range -/

lemma float64_pos {x : ℚ} (hx : 0 < x) : 0 < float64 x := toPrecision_pos hx

lemma float64_le_hundred {x : ℚ} (hx : 0 < x) : float64 x ≤ 100 ↔ x ≤ 100 + 1 / 2 ^ 47 := by
  have h := toPrecision_le_iff (p := 52) (m := 100 * 2 ^ 46) (e := -46) hx (by decide)
    (by norm_num) (by norm_num)
  have hhundred : (((100 * 2 ^ 46 : ℤ) : ℚ)) * 2 ^ (-46 : ℤ) = 100 := by norm_num
  have hmore : (((100 * 2 ^ 46 : ℤ) : ℚ) + 1 / 2) * 2 ^ (-46 : ℤ) = 100 + 1 / 2 ^ 47 := by
    norm_num
  rwa [hhundred, hmore] at h

/-- Of `total` ticks `busy` are not idle, and rounding makes no more than all of them of it. -/
def RoundsWithin (busy total : ℕ) : Prop :=
  float64 (float64 busy * 100) ≤ (100 + 1 / 2 ^ 47) * float64 total

lemma percent_le_iff {busy total : ℕ} (hbusy : 0 < busy) (hle : busy ≤ total) :
    float64 (float64 (float64 busy * 100) / float64 total) ≤ 100 ↔ RoundsWithin busy total := by
  have hbusy' := float64_pos (x := busy) (by exact_mod_cast hbusy)
  have htotal := float64_pos (x := total) (by exact_mod_cast hbusy.trans_le hle)
  have hproduct := float64_pos (x := float64 busy * 100) (by positivity)
  rw [float64_le_hundred (by positivity), div_le_iff₀ htotal]
  rfl

/-- Below 2 ^ 46 ticks nothing is rounded before the division. -/
lemma roundsWithin_of_lt {busy total : ℕ} (hle : busy ≤ total) (htotal : total < 2 ^ 46) :
    RoundsWithin busy total := by
  have hexact : ∀ n : ℕ, n < 2 ^ 53 → float64 n = n := fun n hn => toPrecision_natCast hn
  have hproduct : float64 ((busy : ℚ) * 100) = busy * 100 := by
    have h := hexact (busy * 100) (by omega)
    rwa [Nat.cast_mul, Nat.cast_ofNat] at h
  unfold RoundsWithin
  rw [hexact busy (by omega), hexact total (by omega), hproduct]
  have hcast : (busy : ℚ) ≤ total := by exact_mod_cast hle
  have htotal' : (0 : ℚ) ≤ total := Nat.cast_nonneg total
  linarith

/-- The rounding of every measurement made of the two readings stays within the range. -/
def RoundingHolds (previous : Counters) (first second : Option (List Char)) : Prop :=
  ∀ current, reading second = some current →
    let before := (reading first).getD previous
    before.total ≠ 0 → before.total < current.total → before.idle ≤ current.idle →
      current.idle - before.idle < current.total - before.total →
      RoundsWithin (current.total - before.total - (current.idle - before.idle))
        (current.total - before.total)

lemma collect_fst (previous : Counters) (contents : Option (List Char)) :
    (collectCPUPercent previous contents).1 = (reading contents).getD previous := by
  unfold collectCPUPercent
  split
  · next h => rw [h]; rfl
  · next current h =>
    rw [h]
    dsimp only
    split_ifs <;> rfl

/-- What one call reports, by the counters before it. -/
lemma usage_range (before : Counters) (contents : Option (List Char)) :
    (∀ p ∈ (collectCPUPercent before contents).2.subtractions, p.2 ≤ p.1) ∧
      0 ≤ (collectCPUPercent before contents).2.percent ∧
      ((collectCPUPercent before contents).2.percent ≤ 100 ↔
        ∀ current, reading contents = some current → before.total ≠ 0 →
          before.total < current.total → before.idle ≤ current.idle →
          current.idle - before.idle < current.total - before.total →
          RoundsWithin (current.total - before.total - (current.idle - before.idle))
            (current.total - before.total)) := by
  unfold collectCPUPercent
  cases hread : reading contents with
  | none => simp
  | some current =>
    dsimp only
    obtain ⟨htotal, hidle⟩ := reading_lt hread
    by_cases hguard : before.total = 0 ∨ current.total ≤ before.total ∨ current.idle < before.idle
    · rw [if_pos hguard]
      refine ⟨by simp, le_refl _, iff_of_true (by norm_num) ?_⟩
      rintro _ ⟨⟩ h₁ h₂ h₃
      omega
    rw [if_neg hguard]
    simp only [not_or, not_le, not_lt] at hguard
    obtain ⟨hzero, hmore, hidles⟩ := hguard
    rw [subtract_eq htotal hmore.le, subtract_eq hidle hidles]
    by_cases hidleDelta : current.total - before.total ≤ current.idle - before.idle
    · rw [if_pos hidleDelta]
      refine ⟨by simp [hmore.le, hidles], le_refl _, iff_of_true (by norm_num) ?_⟩
      rintro _ ⟨⟩ - - - h
      omega
    rw [if_neg hidleDelta, not_le] at *
    have hbusy : subtract (current.total - before.total) (current.idle - before.idle) =
        current.total - before.total - (current.idle - before.idle) :=
      subtract_eq (by omega) hidleDelta.le
    rw [hbusy]
    refine ⟨by simp [hmore.le, hidles, hidleDelta.le], ?_, ?_⟩
    · have hbusy' := float64_pos
        (x := (current.total - before.total - (current.idle - before.idle) : ℕ))
        (by exact_mod_cast Nat.sub_pos_of_lt hidleDelta)
      have htotal' := float64_pos (x := (current.total - before.total : ℕ))
        (by exact_mod_cast Nat.sub_pos_of_lt hmore)
      have hproduct := float64_pos (mul_pos hbusy' (by norm_num : (0 : ℚ) < 100))
      exact toPrecision_nonneg (by positivity)
    · rw [percent_le_iff (Nat.sub_pos_of_lt hidleDelta) (Nat.sub_le _ _)]
      constructor
      · rintro h _ ⟨⟩ - - - -
        exact h
      · exact fun h => h current rfl hzero hmore hidles hidleDelta

lemma difference_ne_zero {counters counters' : List ℕ} (h : Advance counters counters') :
    ((counters'.sum : ℚ) - counters.sum) ≠ 0 := by
  have hlt : (counters.sum : ℚ) < counters'.sum := by exact_mod_cast h.2
  linarith

/-- The usage is what the kernel's counters say, and within its range, if and only if the
processors were idle throughout; for readings that no kernel writes the rounding decides. -/
theorem measured_iff (previous : Counters) (first second : Option (List Char)) :
    Measured previous first second (secondUsage previous first second) ↔
      (∀ counters counters', KernelFormat first counters → KernelFormat second counters' →
        Advance counters counters' →
        idleOf counters' + counters.sum = counters'.sum + idleOf counters) ∧
      RoundingHolds previous first second := by
  obtain ⟨hsub, hlow, hhigh⟩ :=
    usage_range (collectCPUPercent previous first).1 second
  rw [collect_fst] at hsub hlow hhigh
  have hformula : ∀ counters counters', KernelFormat second counters' →
      Advance counters counters' →
      ((secondUsage previous first second).percent = 100 * (1 -
        ((idleOf counters' : ℚ) - idleOf counters) / ((counters'.sum : ℚ) - counters.sum)) ↔
        idleOf counters' + counters.sum = counters'.sum + idleOf counters) := by
    intro counters counters' hsecond hadvance
    have hzero : (secondUsage previous first second).percent = 0 := by
      unfold secondUsage collectCPUPercent
      rw [reading_kernelFormat hsecond]
    have hne := difference_ne_zero hadvance
    rw [hzero, eq_comm, mul_eq_zero, sub_eq_zero, eq_div_iff hne]
    constructor
    · rintro (h | h)
      · norm_num at h
      · have h' : (idleOf counters' : ℚ) + counters.sum = counters'.sum + idleOf counters := by
          linarith
        exact_mod_cast h'
    · intro h
      have h' : (idleOf counters' : ℚ) + counters.sum = counters'.sum + idleOf counters := by
        exact_mod_cast h
      exact .inr (by linarith)
  unfold secondUsage at hformula ⊢
  rw [collect_fst] at hformula ⊢
  constructor
  · intro h
    refine ⟨fun c c' hfirst hsecond hadv => ?_, hhigh.mp h.range.2⟩
    exact (hformula c c' hsecond hadv).mp (h.formula c c' hfirst hsecond hadv)
  · rintro ⟨hidle, hround⟩
    refine ⟨fun c c' hfirst hsecond hadv => ?_, ⟨hlow, hhigh.mpr hround⟩, hsub⟩
    exact (hformula c c' hsecond hadv).mpr (hidle c c' hfirst hsecond hadv)

/-! ### A busy processor -/

def firstStat : List Char :=
  "cpu  100 0 100 700 100 0 0\ncpu0 100 0 100 700 100 0 0\nintr 9\n".toList

def secondStat : List Char :=
  "cpu  160 0 100 740 100 0 0\ncpu0 160 0 100 740 100 0 0\nintr 9\n".toList

/-- In 100 ticks, 40 of them idle, the usage reported is 0. -/
theorem busy_unreported : KernelFormat (some firstStat) [100, 0, 100, 700, 100, 0, 0] ∧
    KernelFormat (some secondStat) [160, 0, 100, 740, 100, 0, 0] ∧
    Advance [100, 0, 100, 700, 100, 0, 0] [160, 0, 100, 740, 100, 0, 0] ∧
    (secondUsage ⟨0, 0⟩ (some firstStat) (some secondStat)).percent = 0 ∧
    ¬ Measured ⟨0, 0⟩ (some firstStat) (some secondStat)
      (secondUsage ⟨0, 0⟩ (some firstStat) (some secondStat)) := by
  have hfirst : KernelFormat (some firstStat) [100, 0, 100, 700, 100, 0, 0] :=
    ⟨"cpu  100 0 100 700 100 0 0".toList, "cpu0 100 0 100 700 100 0 0\nintr 9\n".toList, 0,
      by decide, by decide, by decide, by decide, by decide⟩
  have hsecond : KernelFormat (some secondStat) [160, 0, 100, 740, 100, 0, 0] :=
    ⟨"cpu  160 0 100 740 100 0 0".toList, "cpu0 160 0 100 740 100 0 0\nintr 9\n".toList, 0,
      by decide, by decide, by decide, by decide, by decide⟩
  have hadvance : Advance [100, 0, 100, 700, 100, 0, 0] [160, 0, 100, 740, 100, 0, 0] := by
    constructor
    · simp
    · decide
  have hzero : (secondUsage ⟨0, 0⟩ (some firstStat) (some secondStat)).percent = 0 := by
    unfold secondUsage collectCPUPercent
    rw [reading_kernelFormat hsecond]
  refine ⟨hfirst, hsecond, hadvance, hzero, fun h => ?_⟩
  have hformula := h.formula _ _ hfirst hsecond hadvance
  rw [hzero] at hformula
  norm_num [idleOf] at hformula

end GatewayControl.CpuUsage
