import Mathlib.Algebra.Order.Field.Power
import Mathlib.Algebra.Order.Ring.Rat
import Mathlib.Data.Rat.Cast.Order
import Mathlib.Tactic.FieldSimp
import Mathlib.Tactic.Linarith
import Mathlib.Tactic.NormNum
import Mathlib.Tactic.Positivity
import Mathlib.Tactic.Ring
import Mathlib.Tactic.SplitIfs
import QueryCatalog.Binary64.Shortest

namespace QueryCatalog.Binary64

variable {x y : Binary64} {tie : Tie} {v : ℚ} {k : Int} {d : Decimal}

section Fields

theorem fraction_lt (x : Binary64) : x.fraction < 2 ^ 52 := Nat.mod_lt _ (by decide)

theorem significand_lt (x : Binary64) : x.significand < 2 ^ 53 := by
  have hfraction := x.fraction_lt
  have hpow : Nat.pow 2 52 = 2 ^ 52 := rfl
  unfold significand
  split
  · omega
  · omega

theorem significand_pos (h : x.isZero = false) : 0 < x.significand := by
  have hpow : Nat.pow 2 52 = 2 ^ 52 := rfl
  unfold significand
  split
  · rename_i hfield
    apply Nat.pos_of_ne_zero
    intro hfraction
    rw [isZero, hfield, hfraction] at h
    cases h
  · omega

theorem le_exponent (x : Binary64) : -1074 ≤ x.exponent := by
  unfold exponent
  split
  · rfl
  · omega

theorem fields_eq (hsignificand : x.significand = y.significand)
    (hexponent : x.exponent = y.exponent) :
    x.exponentField = y.exponentField ∧ x.fraction = y.fraction := by
  have hx := x.fraction_lt
  have hy := y.fraction_lt
  have hpow : Nat.pow 2 52 = 2 ^ 52 := rfl
  unfold significand at hsignificand
  unfold exponent at hexponent
  split_ifs at hsignificand hexponent
  all_goals omega

theorem eq_of_fields (hsign : x.isNegative = y.isNegative)
    (hexponent : x.exponentField = y.exponentField) (hfraction : x.fraction = y.fraction) :
    x = y := by
  obtain ⟨x⟩ := x
  obtain ⟨y⟩ := y
  have hx := x.toNat_lt
  have hy := y.toNat_lt
  have hpow : Nat.pow 2 63 = 2 ^ 63 ∧ Nat.pow 2 52 = 2 ^ 52 ∧ Nat.pow 2 11 = 2 ^ 11 :=
    ⟨rfl, rfl, rfl⟩
  simp only [isNegative, exponentField, fraction, hpow, beq_eq_beq] at hsign hexponent hfraction
  have hbits : x.toNat = y.toNat := by omega
  rw [UInt64.toNat_inj.mp hbits]

end Fields

section Nearness

def quarter (x : Binary64) : ℚ := 2 ^ (x.exponent - 2)

theorem quarter_pos (x : Binary64) : 0 < x.quarter := by
  unfold quarter
  positivity

/-- A value that rounds to the size of the number. -/
structure Near (x : Binary64) (v : ℚ) : Prop where
  low_le : x.roundingInterval.low * x.quarter ≤ v
  le_high : v ≤ x.roundingInterval.high * x.quarter
  low_lt : x.significand % 2 = 1 → x.roundingInterval.low * x.quarter < v
  lt_high : x.significand % 2 = 1 → v < x.roundingInterval.high * x.quarter

theorem high_eq (x : Binary64) : x.roundingInterval.high = 4 * x.significand + 2 := rfl

theorem le_low (x : Binary64) : 4 * x.significand ≤ x.roundingInterval.low + 2 := by
  unfold roundingInterval
  dsimp only
  split <;> omega

theorem low_lt (h : 0 < x.significand) : x.roundingInterval.low < 4 * x.significand := by
  unfold roundingInterval
  dsimp only
  split <;> omega

/-- Below a power of two the last place is half as large, and so the interval starts one quarter
later. -/
theorem low_of_normal (h : -1074 < x.exponent) : 2 ^ 54 ≤ x.roundingInterval.low + 1 := by
  have hpow : Nat.pow 2 52 = 2 ^ 52 := rfl
  have hfield : 1 < x.exponentField := by
    unfold exponent at h
    split at h <;> omega
  have hsignificand : x.significand = 2 ^ 52 + x.fraction := by
    unfold significand
    rw [if_neg (by omega), hpow]
  unfold roundingInterval
  dsimp only
  rw [hsignificand]
  split <;> omega

theorem Near.pos (h : Near x v) (hx : 0 < x.significand) : 0 < v := by
  have hlow : (2 : ℚ) ≤ x.roundingInterval.low := by
    have := x.le_low
    exact_mod_cast (by omega : 2 ≤ x.roundingInterval.low)
  have hmul : 2 * x.quarter ≤ x.roundingInterval.low * x.quarter :=
    mul_le_mul_of_nonneg_right hlow x.quarter_pos.le
  have := h.low_le
  have := x.quarter_pos
  linarith

theorem two_mul_quarter_le (h : x.exponent < y.exponent) : 2 * x.quarter ≤ y.quarter := by
  have hstep : 2 * x.quarter = (2 : ℚ) ^ (x.exponent - 1) := by
    rw [quarter, ← zpow_one_add₀ two_ne_zero]
    congr 1
    ring
  rw [hstep, quarter]
  apply zpow_le_zpow_right₀ one_le_two
  omega

theorem Near.not_of_exponent_lt (h : x.exponent < y.exponent) (hx : Near x v) : ¬ Near y v := by
  intro hy
  have hq := x.quarter_pos
  have hlow : (2 ^ 54 : ℚ) ≤ y.roundingInterval.low + 1 := by
    exact_mod_cast low_of_normal (lt_of_le_of_lt x.le_exponent h)
  have hle : (2 ^ 55 - 2) * x.quarter ≤ v := by
    calc (2 ^ 55 - 2) * x.quarter = (2 ^ 54 - 1) * (2 * x.quarter) := by ring
      _ ≤ y.roundingInterval.low * y.quarter := by
        apply mul_le_mul _ (two_mul_quarter_le h)
        · linarith
        · linarith
        · linarith
      _ ≤ v := hy.low_le
  have hhigh : (2 ^ 55 - 2 : ℚ) ≤ x.roundingInterval.high :=
    le_of_mul_le_mul_right (hle.trans hx.le_high) hq
  have hhigh' : 2 ^ 55 ≤ x.roundingInterval.high + 2 := by
    have : (2 ^ 55 : ℚ) ≤ x.roundingInterval.high + 2 := by linarith
    exact_mod_cast this
  -- Only the largest significand reaches so far, and its interval is open.
  have hodd : x.significand = 9007199254740991 := by
    have := x.significand_lt
    rw [high_eq] at hhigh'
    omega
  have hlt := hx.lt_high (by rw [hodd])
  rw [high_eq, hodd] at hlt
  push_cast at hlt
  linarith

theorem Near.not_of_significand_lt (hexponent : x.exponent = y.exponent)
    (h : x.significand < y.significand) (hx : Near x v) : ¬ Near y v := by
  intro hy
  have hq := y.quarter_pos
  have hxy : x.quarter = y.quarter := by rw [quarter, quarter, hexponent]
  have hlow := y.le_low
  have hhigh := x.high_eq
  have hmeet : y.roundingInterval.low ≤ x.roundingInterval.high := by
    have := hy.low_le.trans hx.le_high
    rw [hxy] at this
    exact_mod_cast le_of_mul_le_mul_right this hq
  -- The intervals of neighbours share an end, which belongs to the even one alone.
  have hnext : y.significand = x.significand + 1 := by omega
  have hend : x.roundingInterval.high ≤ y.roundingInterval.low := by omega
  have hend' : (x.roundingInterval.high : ℚ) * x.quarter ≤ y.roundingInterval.low * y.quarter := by
    rw [hxy]
    exact mul_le_mul_of_nonneg_right (by exact_mod_cast hend) hq.le
  rcases Nat.mod_two_eq_zero_or_one x.significand with heven | hodd
  · have := hy.low_lt (by omega)
    have := hx.le_high
    linarith
  · have := hx.lt_high hodd
    have := hy.low_le
    linarith

/-- A value rounds to one size only. -/
theorem Near.unique (hx : Near x v) (hy : Near y v) :
    x.exponentField = y.exponentField ∧ x.fraction = y.fraction := by
  have hexponent : x.exponent = y.exponent := by
    rcases lt_trichotomy x.exponent y.exponent with h | h | h
    · exact absurd hy (hx.not_of_exponent_lt h)
    · exact h
    · exact absurd hx (hy.not_of_exponent_lt h)
  apply fields_eq _ hexponent
  rcases Nat.lt_trichotomy x.significand y.significand with h | h | h
  · exact absurd hy (hx.not_of_significand_lt hexponent h)
  · exact h
  · exact absurd hx (hy.not_of_significand_lt hexponent.symm h)

end Nearness

section Grid

theorem pow_toNat_eq {b : ℚ} (hb : b ≠ 0) (n : Int) :
    b ^ n.toNat = b ^ n * b ^ (-n).toNat := by
  rcases Int.le_total 0 n with h | h
  · obtain ⟨m, rfl⟩ := Int.eq_ofNat_of_zero_le h
    simp
  · obtain ⟨m, hm⟩ := Int.eq_ofNat_of_zero_le (Int.neg_nonneg_of_nonpos h)
    obtain rfl : n = -m := by omega
    rw [Int.toNat_of_nonpos (by omega), neg_neg, Int.toNat_natCast, zpow_neg, zpow_natCast,
      pow_zero, inv_mul_cancel₀ (pow_ne_zero m hb)]

def gridStep (x : Binary64) (k : Int) : Nat :=
  Nat.pow 10 k.toNat * Nat.pow 2 (-(x.exponent - 2)).toNat

def gridUnit (x : Binary64) (k : Int) : Nat :=
  Nat.pow 10 (-k).toNat * Nat.pow 2 (x.exponent - 2).toNat

def gridFloor (x : Binary64) (k : Int) : Nat := 4 * x.significand * x.gridUnit k / x.gridStep k

theorem gridStep_pos (x : Binary64) (k : Int) : 0 < x.gridStep k :=
  Nat.mul_pos (Nat.pow_pos (by decide)) (Nat.pow_pos (by decide))

theorem gridUnit_pos (x : Binary64) (k : Int) : 0 < x.gridUnit k :=
  Nat.mul_pos (Nat.pow_pos (by decide)) (Nat.pow_pos (by decide))

theorem gridStep_mul_quarter (x : Binary64) (k : Int) :
    (x.gridStep k : ℚ) * x.quarter = x.gridUnit k * 10 ^ k := by
  unfold gridStep gridUnit quarter
  push_cast [Nat.pow_eq]
  rw [pow_toNat_eq (by norm_num) k, pow_toNat_eq two_ne_zero (x.exponent - 2)]
  ring

theorem cast_mul_gridStep (n : Nat) :
    ((n * x.gridStep k : Nat) : ℚ) * x.quarter = n * 10 ^ k * x.gridUnit k := by
  rw [Nat.cast_mul, mul_assoc, gridStep_mul_quarter]
  ring

theorem cast_mul_gridUnit (n : Nat) :
    ((n * x.gridUnit k : Nat) : ℚ) * x.quarter = n * x.quarter * x.gridUnit k := by
  rw [Nat.cast_mul]
  ring

theorem unit_le_step_iff (m n : Nat) :
    m * x.gridUnit k ≤ n * x.gridStep k ↔ (m : ℚ) * x.quarter ≤ n * 10 ^ k := by
  have hunit : (0 : ℚ) < x.gridUnit k := by exact_mod_cast x.gridUnit_pos k
  rw [← Nat.cast_le (α := ℚ), ← mul_le_mul_iff_left₀ x.quarter_pos, cast_mul_gridStep,
    cast_mul_gridUnit, mul_le_mul_iff_left₀ hunit]

theorem step_le_unit_iff (m n : Nat) :
    n * x.gridStep k ≤ m * x.gridUnit k ↔ (n : ℚ) * 10 ^ k ≤ m * x.quarter := by
  have hunit : (0 : ℚ) < x.gridUnit k := by exact_mod_cast x.gridUnit_pos k
  rw [← Nat.cast_le (α := ℚ), ← mul_le_mul_iff_left₀ x.quarter_pos, cast_mul_gridStep,
    cast_mul_gridUnit, mul_le_mul_iff_left₀ hunit]

theorem above_iff (n : Nat) :
    x.roundingInterval.above (n * x.gridStep k) (x.gridUnit k) = true ↔
      (x.roundingInterval.low : ℚ) * x.quarter ≤ n * 10 ^ k ∧
        (x.significand % 2 = 1 → (x.roundingInterval.low : ℚ) * x.quarter < n * 10 ^ k) := by
  rw [← unit_le_step_iff, ← not_le, ← step_le_unit_iff, not_le]
  unfold RoundingInterval.above
  have hclosed : x.roundingInterval.closed = (x.significand % 2 == 0) := rfl
  rw [hclosed]
  rcases Nat.mod_two_eq_zero_or_one x.significand with hparity | hparity
  · simp [hparity]
  · simp only [hparity, Nat.one_ne_zero, beq_iff_eq, if_false, decide_eq_true_eq, true_imp_iff]
    exact ⟨fun h ↦ ⟨h.le, h⟩, And.right⟩

theorem below_iff (n : Nat) :
    x.roundingInterval.below (n * x.gridStep k) (x.gridUnit k) = true ↔
      (n : ℚ) * 10 ^ k ≤ x.roundingInterval.high * x.quarter ∧
        (x.significand % 2 = 1 → (n : ℚ) * 10 ^ k < x.roundingInterval.high * x.quarter) := by
  rw [← step_le_unit_iff, ← not_le, ← unit_le_step_iff, not_le]
  unfold RoundingInterval.below
  have hclosed : x.roundingInterval.closed = (x.significand % 2 == 0) := rfl
  rw [hclosed]
  rcases Nat.mod_two_eq_zero_or_one x.significand with hparity | hparity
  · simp [hparity]
  · simp only [hparity, Nat.one_ne_zero, beq_iff_eq, if_false, decide_eq_true_eq, true_imp_iff]
    exact ⟨fun h ↦ ⟨h.le, h⟩, And.right⟩

theorem gridFloor_le (x : Binary64) (k : Int) :
    (x.gridFloor k : ℚ) * 10 ^ k ≤ 4 * x.significand * x.quarter := by
  have := (step_le_unit_iff (4 * x.significand) (x.gridFloor k)).mp (Nat.div_mul_le_self ..)
  exact_mod_cast this

theorem lt_gridFloor (x : Binary64) (k : Int) :
    4 * x.significand * x.quarter < (x.gridFloor k + 1) * (10 : ℚ) ^ k := by
  have hlt : 4 * x.significand * x.gridUnit k < (x.gridFloor k + 1) * x.gridStep k :=
    Nat.lt_mul_of_div_lt (Nat.lt_succ_self _) (x.gridStep_pos k)
  rw [← not_le, step_le_unit_iff, not_le] at hlt
  exact_mod_cast hlt

def Decimal.value (d : Decimal) : ℚ := d.digits * 10 ^ d.exponent

theorem onGrid?_cases (h : onGrid? tie x k = some d) :
    d = ⟨x.gridFloor k, k⟩ ∧
      x.roundingInterval.above (x.gridFloor k * x.gridStep k) (x.gridUnit k) = true ∨
    d = ⟨x.gridFloor k + 1, k⟩ ∧
      x.roundingInterval.below ((x.gridFloor k + 1) * x.gridStep k) (x.gridUnit k) = true := by
  unfold onGrid? at h
  dsimp only at h
  split at h
  · rename_i hboth
    obtain ⟨hdown, hup⟩ := Bool.and_eq_true_iff.mp hboth
    cases h
    split
    · exact Or.inr ⟨rfl, hup⟩
    · exact Or.inl ⟨rfl, (Bool.and_eq_true_iff.mp hdown).2⟩
  · split at h
    · rename_i hdown
      cases h
      exact Or.inl ⟨rfl, (Bool.and_eq_true_iff.mp hdown).2⟩
    · split at h
      · rename_i hup
        cases h
        exact Or.inr ⟨rfl, hup⟩
      · cases h

theorem onGrid?_eq_none (h : onGrid? tie x k = none) :
    (x.gridFloor k ≠ 0 →
      x.roundingInterval.above (x.gridFloor k * x.gridStep k) (x.gridUnit k) = false) ∧
    x.roundingInterval.below ((x.gridFloor k + 1) * x.gridStep k) (x.gridUnit k) = false := by
  unfold onGrid? at h
  dsimp only at h
  split at h
  · cases h
  · split at h
    · cases h
    · rename_i hdown
      split at h
      · cases h
      · rename_i hup
        refine ⟨fun hfloor ↦ ?_, Bool.eq_false_iff.mpr hup⟩
        rw [Bool.and_eq_true_iff, not_and, decide_eq_true_eq] at hdown
        exact Bool.eq_false_iff.mpr (hdown hfloor)

theorem near_of_onGrid? (hx : 0 < x.significand) (h : onGrid? tie x k = some d) :
    Near x d.value := by
  have hq := x.quarter_pos
  have hfloor := x.gridFloor_le k
  have hceil := x.lt_gridFloor k
  have hhigh : 4 * x.significand * x.quarter < x.roundingInterval.high * x.quarter := by
    rw [high_eq]
    apply mul_lt_mul_of_pos_right _ hq
    push_cast
    linarith
  have hlow : x.roundingInterval.low * x.quarter < 4 * x.significand * x.quarter := by
    apply mul_lt_mul_of_pos_right _ hq
    exact_mod_cast low_lt hx
  rcases onGrid?_cases h with ⟨rfl, habove⟩ | ⟨rfl, hbelow⟩
  · obtain ⟨hle, hlt⟩ := (above_iff _).mp habove
    have hv : Decimal.value ⟨x.gridFloor k, k⟩ < x.roundingInterval.high * x.quarter :=
      hfloor.trans_lt hhigh
    exact ⟨hle, hv.le, hlt, fun _ ↦ hv⟩
  · obtain ⟨hle, hlt⟩ := (below_iff _).mp hbelow
    have hv : x.roundingInterval.low * x.quarter < Decimal.value ⟨x.gridFloor k + 1, k⟩ := by
      rw [Decimal.value]
      push_cast
      exact hlow.trans hceil
    exact ⟨hv.le, hle, fun _ ↦ hv, hlt⟩

/-- The interval is three quarters wide at a power of two, and four elsewhere. -/
theorem width_cases (hx : 0 < x.significand) :
    x.significand = 2 ^ 52 ∧ x.roundingInterval.high = x.roundingInterval.low + 3 ∨
      x.roundingInterval.high = x.roundingInterval.low + 4 := by
  have hpow : Nat.pow 2 52 = 2 ^ 52 := rfl
  unfold roundingInterval
  dsimp only
  split
  · rename_i hpower
    refine Or.inl ⟨?_, by omega⟩
    unfold significand
    rw [if_neg (by omega), hpower.1, hpow, Nat.add_zero]
  · exact Or.inr (by omega)

/-- Sixteen decimal places below the first digit a step is finer than the interval. -/
theorem step_lt_width (hx : (10 : ℚ) ^ 16 * 10 ^ k ≤ 4 * x.significand * x.quarter) :
    (10 : ℚ) ^ k < (x.roundingInterval.high - x.roundingInterval.low) * x.quarter := by
  have hq := x.quarter_pos
  have hpow : (0 : ℚ) < 10 ^ k := by positivity
  have hpos : 0 < x.significand := by
    apply Nat.pos_of_ne_zero
    intro hzero
    rw [hzero, Nat.cast_zero] at hx
    linarith
  have hlt : (x.significand : ℚ) * x.quarter ≤ 2 ^ 53 * x.quarter :=
    mul_le_mul_of_nonneg_right (by exact_mod_cast x.significand_lt.le) hq.le
  rcases width_cases hpos with ⟨hpower, hwidth⟩ | hwidth
  · rw [hpower] at hx
    rw [hwidth]
    push_cast at hx ⊢
    linarith
  · rw [hwidth]
    push_cast
    linarith

theorem onGrid?_ne_none (hx : (10 : ℚ) ^ 16 * 10 ^ k ≤ 4 * x.significand * x.quarter) :
    onGrid? tie x k ≠ none := by
  intro hnone
  obtain ⟨hdown, hup⟩ := onGrid?_eq_none hnone
  have hwidth := step_lt_width hx
  have hpow : (0 : ℚ) < 10 ^ k := by positivity
  have hfloor : x.gridFloor k ≠ 0 := by
    intro hzero
    have hceil := x.lt_gridFloor k
    rw [hzero] at hceil
    norm_num at hceil
    linarith
  have hlow : (x.gridFloor k : ℚ) * 10 ^ k ≤ x.roundingInterval.low * x.quarter := by
    by_contra hlt
    rw [not_le] at hlt
    have := (above_iff (x.gridFloor k)).mpr ⟨hlt.le, fun _ ↦ hlt⟩
    rw [hdown hfloor] at this
    cases this
  have hhigh : x.roundingInterval.high * x.quarter ≤ (x.gridFloor k + 1) * (10 : ℚ) ^ k := by
    by_contra hlt
    rw [not_le] at hlt
    have hlt' : ((x.gridFloor k + 1 : Nat) : ℚ) * 10 ^ k < x.roundingInterval.high * x.quarter := by
      exact_mod_cast hlt
    have := (below_iff (x.gridFloor k + 1)).mpr ⟨hlt'.le, fun _ ↦ hlt'⟩
    rw [hup] at this
    cases this
  linarith

end Grid

section Search

theorem lt_pow_digitCount (n : Nat) : n < 10 ^ digitCount n :=
  (Nat.length_toDigits_le_iff (by decide) Nat.length_toDigits_pos).mp le_rfl

theorem pow_digitCount_le {n : Nat} (hn : 0 < n) : 10 ^ (digitCount n - 1) ≤ n := by
  rcases Nat.eq_zero_or_pos (digitCount n - 1) with hzero | hpos
  · rw [hzero]
    exact hn
  · rw [← Nat.not_lt, ← Nat.length_toDigits_le_iff (by decide) hpos]
    have : 0 < digitCount n := Nat.length_toDigits_pos
    unfold digitCount at *
    omega

theorem leadingExponent_le {num : Nat} (hnum : 0 < num) (den : Nat) :
    (10 : ℚ) ^ leadingExponent num den * den ≤ num := by
  unfold leadingExponent
  generalize hguess : (digitCount num : Int) - digitCount den = guess
  dsimp only
  split
  · rename_i hle
    have hpow : (0 : ℚ) < 10 ^ (-guess).toNat := by positivity
    apply le_of_mul_le_mul_right _ hpow
    rw [mul_right_comm, ← pow_toNat_eq (by norm_num), mul_comm]
    exact_mod_cast hle
  · have hden : (den : ℚ) ≤ 10 ^ digitCount den := by exact_mod_cast (lt_pow_digitCount den).le
    have hdigits : 0 < digitCount num := Nat.length_toDigits_pos
    have hexponent : guess - 1 + digitCount den = (digitCount num - 1 : Nat) := by omega
    calc (10 : ℚ) ^ (guess - 1) * den ≤ 10 ^ (guess - 1) * 10 ^ digitCount den :=
          mul_le_mul_of_nonneg_left hden (by positivity)
      _ = 10 ^ (digitCount num - 1) := by
          rw [← zpow_natCast, ← zpow_add₀ (by norm_num), hexponent, zpow_natCast]
      _ ≤ num := by exact_mod_cast pow_digitCount_le hnum

theorem le_ratio (hx : 0 < x.significand) :
    (10 : ℚ) ^ leadingExponent x.ratio.1 x.ratio.2 ≤ 4 * x.significand * x.quarter := by
  have hnum : 0 < x.ratio.1 := Nat.mul_pos hx (Nat.pow_pos (by decide))
  have hpow : (0 : ℚ) < 2 ^ (-x.exponent).toNat := by positivity
  have hsize : 4 * x.significand * x.quarter * 2 ^ (-x.exponent).toNat = x.ratio.1 := by
    have hquarter : 4 * x.quarter = 2 ^ x.exponent := by
      rw [quarter, zpow_sub₀ two_ne_zero]
      norm_num
      ring
    unfold ratio
    push_cast [Nat.pow_eq]
    rw [pow_toNat_eq two_ne_zero x.exponent, ← hquarter]
    ring
  apply le_of_mul_le_mul_right _ hpow
  rw [hsize]
  have := leadingExponent_le hnum x.ratio.2
  rwa [show (x.ratio.2 : ℚ) = 2 ^ (-x.exponent).toNat by
    unfold ratio
    push_cast [Nat.pow_eq]
    rfl] at this

theorem searchGrids_near {lead : Int} (hx : 0 < x.significand)
    (hlead : (10 : ℚ) ^ lead ≤ 4 * x.significand * x.quarter) {fuel n : Nat} (hn : n + fuel = 17) :
    Near x (searchGrids tie x lead (fuel + 1) n).value := by
  induction fuel generalizing n with
  | zero =>
    obtain rfl : n = 17 := hn
    have hstep : (10 : ℚ) ^ 16 * 10 ^ (lead - (17 : Nat) + 1) = 10 ^ lead := by
      rw [← zpow_natCast, ← zpow_add₀ (by norm_num)]
      congr 1
      omega
    cases h : onGrid? tie x (lead - (17 : Nat) + 1) with
    | none => exact absurd h (onGrid?_ne_none (hstep.trans_le hlead))
    | some d =>
      rw [searchGrids, h]
      exact near_of_onGrid? hx h
  | succ fuel ih =>
    rw [searchGrids]
    cases h : onGrid? tie x (lead - n + 1) with
    | none => exact ih (by omega)
    | some d => exact near_of_onGrid? hx h

theorem stripZeros_value (fuel : Nat) (d : Decimal) : (stripZeros fuel d).value = d.value := by
  induction fuel generalizing d with
  | zero => rfl
  | succ fuel ih =>
    rw [stripZeros]
    split
    · rename_i hzero
      have hdigits : (d.digits : ℚ) = (d.digits / 10 : Nat) * 10 := by
        exact_mod_cast (Nat.div_mul_cancel (Nat.dvd_of_mod_eq_zero hzero.2)).symm
      rw [ih, Decimal.value, Decimal.value, hdigits, zpow_add_one₀ (by norm_num)]
      ring
    · rfl

theorem shortest_near (tie : Tie) (hx : x.isZero = false) : Near x (x.shortest tie).value := by
  have hpos := significand_pos hx
  rw [shortest, if_neg (by rw [hx]; exact Bool.false_ne_true), stripZeros_value]
  exact searchGrids_near hpos (le_ratio hpos) rfl

theorem shortest_value_pos (tie : Tie) (hx : x.isZero = false) : 0 < (x.shortest tie).value :=
  (shortest_near tie hx).pos (significand_pos hx)

theorem shortest_value_eq_zero (tie : Tie) (hx : x.isZero = true) :
    (x.shortest tie).value = 0 := by
  rw [shortest, if_pos hx, Decimal.value, Nat.cast_zero, zero_mul]

/-- The shortest decimals of two sizes differ in value. -/
theorem fields_eq_of_shortest {tie tie' : Tie}
    (h : (x.shortest tie).value = (y.shortest tie').value) :
    x.exponentField = y.exponentField ∧ x.fraction = y.fraction := by
  cases hx : x.isZero with
  | false =>
    cases hy : y.isZero with
    | false => exact (shortest_near tie hx).unique (h ▸ shortest_near tie' hy)
    | true =>
      have := shortest_value_pos tie hx
      rw [h, shortest_value_eq_zero tie' hy] at this
      exact absurd this (lt_irrefl _)
  | true =>
    cases hy : y.isZero with
    | false =>
      have := shortest_value_pos tie' hy
      rw [← h, shortest_value_eq_zero tie hx] at this
      exact absurd this (lt_irrefl _)
    | true =>
      rw [isZero, Bool.and_eq_true_iff, beq_iff_eq, beq_iff_eq] at hx hy
      rw [hx.1, hx.2, hy.1, hy.2]
      exact ⟨rfl, rfl⟩

end Search

end QueryCatalog.Binary64
