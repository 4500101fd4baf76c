import LoxLexer.Number.Shortest
import LoxLexer.Proofs.Rounding
import Mathlib.Data.Nat.Cast.Order.Field

/-!
# Shortest digits

The digits that a number is printed with are found on a decimal grid. A point of the grid is taken only if it rounds to
the number, and the last grid holds the number itself, so what is found always rounds to the number. The grids become
finer and the first one is coarser than the number, so no decimal number with fewer digits rounds to it. Of two points
that do, the search takes the nearer one.
-/

namespace LoxLexer.Binary64

/-- The rational number that digits with an exponent denote. -/
def Shortest.magnitude (s : Shortest) : ℚ := s.digits * 10 ^ s.exponent

variable {rank : ℕ}

/-! ## Points of a grid -/

/-- A power of ten as a fraction, of which the numerator or the denominator is one. -/
theorem ten_zpow (exponent : ℤ) :
    (10 : ℚ) ^ exponent = (10 ^ exponent.toNat : ℕ) / (10 ^ (-exponent).toNat : ℕ) := by
  have hsplit : exponent = (exponent.toNat : ℤ) - ((-exponent).toNat : ℤ) := by omega
  nth_rewrite 1 [hsplit]
  rw [zpow_sub₀ (by norm_num), zpow_natCast, zpow_natCast]
  push_cast
  rfl

/-- The test for a grid point is exact. -/
theorem readsBack_iff {point : ℕ} {exponent : ℤ} :
    readsBack rank point exponent = true ↔ RoundsTo (point * 10 ^ exponent) rank := by
  have hfraction : (point * 10 ^ exponent : ℚ) =
      (point * 10 ^ exponent.toNat : ℕ) / (10 ^ (-exponent).toNat : ℕ) := by
    rw [ten_zpow, Nat.cast_mul, mul_div_assoc]
  have htwice : 2 * point * unitsPerOne * 10 ^ exponent.toNat =
      2 * (point * 10 ^ exponent.toNat * unitsPerOne) := by ring
  rw [hfraction, roundsTo_div_iff (Nat.pow_pos (by decide)), readsBack]
  simp only [Nat.pow_eq, htwice]
  generalize (units (rank - 1) + units rank) * 10 ^ (-exponent).toNat = low
  generalize (units rank + units (rank + 1)) * 10 ^ (-exponent).toNat = high
  generalize 2 * (point * 10 ^ exponent.toNat * unitsPerOne) = twice
  split_ifs with heven
  · simp only [Bool.and_eq_true, decide_eq_true_eq]
    omega
  · simp only [Bool.and_eq_true, decide_eq_true_eq]
    omega

/-- The step on which everything about a grid rests: the magnitude is a fraction of the steps of the grid, and of the
two points beside it those count that read back. -/
theorem exists_gridPoint? (rank : ℕ) (exponent : ℤ) : ∃ numerator denominator : ℕ, 0 < denominator ∧
    magnitude rank = numerator / denominator * 10 ^ exponent ∧
    gridPoint? rank exponent =
      match readsBack rank (numerator / denominator) exponent,
        readsBack rank (numerator / denominator + 1) exponent with
      | true, true => some (roundDiv numerator denominator)
      | true, false => some (numerator / denominator)
      | false, true => some (numerator / denominator + 1)
      | false, false => none := by
  refine ⟨units rank * Nat.pow 10 (-exponent).toNat, unitsPerOne * Nat.pow 10 exponent.toNat, ?_, ?_, rfl⟩
  · exact Nat.mul_pos (Nat.cast_pos.mp unitsPerOne_pos) (Nat.pow_pos (by decide))
  · have hunit := unitsPerOne_pos
    rw [magnitude_eq_units, ten_zpow]
    simp only [Nat.pow_eq]
    generalize unitsPerOne = perOne at *
    push_cast
    field_simp

/-- A fraction lies between the rounded-down quotient and the next number. -/
theorem div_bounds (numerator : ℕ) {denominator : ℕ} (hpos : 0 < denominator) :
    ((numerator / denominator : ℕ) : ℚ) ≤ numerator / denominator ∧
      (numerator : ℚ) / denominator ≤ (numerator / denominator + 1 : ℕ) := by
  refine ⟨Nat.cast_div_le, ?_⟩
  have hupper := Nat.lt_mul_div_succ numerator hpos
  rw [div_le_iff₀ (Nat.cast_pos.mpr hpos), mul_comm]
  exact_mod_cast hupper.le

/-- If a point on one side of the magnitude reads back, so does the first point on that side. -/
theorem readsBack_beside {exponent : ℤ} {numerator denominator point : ℕ} (hpos : 0 < denominator)
    (hmagnitude : magnitude rank = numerator / denominator * 10 ^ exponent)
    (hpoint : RoundsTo (point * 10 ^ exponent) rank) :
    (point ≤ numerator / denominator → readsBack rank (numerator / denominator) exponent = true) ∧
      (numerator / denominator < point → readsBack rank (numerator / denominator + 1) exponent = true) := by
  obtain ⟨hlower, hupper⟩ := div_bounds numerator hpos
  have hgrid : (0 : ℚ) ≤ 10 ^ exponent := by positivity
  have hself := roundsTo_magnitude rank
  rw [hmagnitude] at hself
  rw [readsBack_iff, readsBack_iff]
  constructor
  · intro hle
    exact hpoint.between hself (mul_le_mul_of_nonneg_right (Nat.cast_le.mpr hle) hgrid)
      (mul_le_mul_of_nonneg_right hlower hgrid)
  · intro hlt
    exact hself.between hpoint (mul_le_mul_of_nonneg_right hupper hgrid)
      (mul_le_mul_of_nonneg_right (Nat.cast_le.mpr hlt) hgrid)

/-- A rounded quotient is the rounded-down one or the next number. -/
theorem roundDiv_eq_or (numerator denominator : ℕ) :
    roundDiv numerator denominator = numerator / denominator ∨
      roundDiv numerator denominator = numerator / denominator + 1 := by
  rw [roundDiv]
  split_ifs <;> omega

/-- No natural number is nearer to a fraction than the rounded quotient. -/
theorem roundDiv_nearest (numerator : ℕ) {denominator : ℕ} (hpos : 0 < denominator) (point : ℕ) :
    |(roundDiv numerator denominator : ℚ) - numerator / denominator| ≤ |(point : ℚ) - numerator / denominator| := by
  obtain ⟨hlower, hupper, -, -⟩ := roundDiv_bounds numerator hpos
  generalize roundDiv numerator denominator = rounded at *
  have hdenominator : (0 : ℚ) < denominator := Nat.cast_pos.mpr hpos
  have hlow : (rounded : ℚ) - 1 / 2 ≤ numerator / denominator := by
    rw [le_div_iff₀ hdenominator]
    have : (2 : ℚ) * (rounded * denominator) ≤ 2 * numerator + denominator := by exact_mod_cast hlower
    linarith
  have hhigh : (numerator : ℚ) / denominator ≤ rounded + 1 / 2 := by
    rw [div_le_iff₀ hdenominator]
    have : (2 : ℚ) * numerator ≤ 2 * (rounded * denominator) + denominator := by exact_mod_cast hupper
    linarith
  have hnear : |(rounded : ℚ) - numerator / denominator| ≤ 1 / 2 := abs_le.mpr ⟨by linarith, by linarith⟩
  rcases lt_trichotomy point rounded with hlt | rfl | hlt
  · have hstep : (point : ℚ) + 1 ≤ rounded := by exact_mod_cast hlt
    exact hnear.trans (le_abs.mpr (.inr (by linarith)))
  · exact le_rfl
  · have hstep : (rounded : ℚ) + 1 ≤ point := by exact_mod_cast hlt
    exact hnear.trans (le_abs.mpr (.inl (by linarith)))

/-- A grid point that is taken rounds to the magnitude. -/
theorem roundsTo_of_gridPoint? {exponent : ℤ} {point : ℕ} (h : gridPoint? rank exponent = some point) :
    RoundsTo (point * 10 ^ exponent) rank := by
  obtain ⟨numerator, denominator, -, -, hgrid⟩ := exists_gridPoint? rank exponent
  rw [← readsBack_iff]
  rw [hgrid] at h
  split at h
  · next hbelow habove =>
    have hrounded := roundDiv_eq_or numerator denominator
    rw [Option.some.inj h] at hrounded
    rcases hrounded with rfl | rfl
    · exact hbelow
    · exact habove
  · next hbelow _ =>
    obtain rfl := Option.some.inj h
    exact hbelow
  · next _ habove =>
    obtain rfl := Option.some.inj h
    exact habove
  · exact absurd h (by simp)

/-- No other point of the grid that rounds to the magnitude is nearer to it. -/
theorem gridPoint?_nearest {exponent : ℤ} {point other : ℕ} (h : gridPoint? rank exponent = some point)
    (hother : RoundsTo (other * 10 ^ exponent) rank) :
    |point * 10 ^ exponent - magnitude rank| ≤ |other * 10 ^ exponent - magnitude rank| := by
  obtain ⟨numerator, denominator, hpos, hmagnitude, hgrid⟩ := exists_gridPoint? rank exponent
  obtain ⟨hlower, hupper⟩ := div_bounds numerator hpos
  obtain ⟨hleft, hright⟩ := readsBack_beside hpos hmagnitude hother
  have hsteps : |(point : ℚ) - numerator / denominator| ≤ |(other : ℚ) - numerator / denominator| := by
    rw [hgrid] at h
    split at h
    · rw [← Option.some.inj h]
      exact roundDiv_nearest numerator hpos other
    · next _ habove =>
      have hle : other ≤ numerator / denominator := by
        by_contra hlt
        rw [hright (not_le.mp hlt)] at habove
        exact Bool.noConfusion habove
      have hle' : (other : ℚ) ≤ (numerator / denominator : ℕ) := Nat.cast_le.mpr hle
      rw [← Option.some.inj h, abs_of_nonpos (by linarith), abs_of_nonpos (by linarith)]
      linarith
    · next hbelow _ =>
      have hlt : numerator / denominator < other := by
        by_contra hle
        rw [hleft (not_lt.mp hle)] at hbelow
        exact Bool.noConfusion hbelow
      have hlt' : ((numerator / denominator + 1 : ℕ) : ℚ) ≤ other := Nat.cast_le.mpr hlt
      rw [← Option.some.inj h, abs_of_nonneg (by linarith), abs_of_nonneg (by linarith)]
      linarith
    · exact absurd h (by simp)
  rw [hmagnitude, ← sub_mul, ← sub_mul, abs_mul, abs_mul]
  exact mul_le_mul_of_nonneg_right hsteps (abs_nonneg _)

/-- If no point of a grid is taken, none rounds to the magnitude. -/
theorem not_roundsTo_of_gridPoint? {exponent : ℤ} (h : gridPoint? rank exponent = none) (point : ℕ) :
    ¬ RoundsTo (point * 10 ^ exponent) rank := by
  intro hpoint
  obtain ⟨numerator, denominator, hpos, hmagnitude, hgrid⟩ := exists_gridPoint? rank exponent
  obtain ⟨hleft, hright⟩ := readsBack_beside hpos hmagnitude hpoint
  rw [hgrid] at h
  rcases Nat.lt_or_ge (numerator / denominator) point with hlt | hge
  · cases hbelow : readsBack rank (numerator / denominator) exponent <;> simp [hbelow, hright hlt] at h
  · cases habove : readsBack rank (numerator / denominator + 1) exponent <;> simp [hleft hge, habove] at h

/-! ## The search -/

theorem ten_pow (n : ℕ) : 10 ^ n = 5 ^ n * 2 ^ n := by rw [← Nat.mul_pow]

theorem cast_ten_pow (n : ℕ) : (10 : ℚ) ^ n = 5 ^ n * 2 ^ n := by exact_mod_cast ten_pow n

/-- Every magnitude is a point of the last grid. -/
theorem magnitude_lastGrid (rank : ℕ) :
    (⟨units rank * Nat.pow 10 1074 / unitsPerOne, -1074⟩ : Shortest).magnitude = magnitude rank := by
  have hpoint : ∀ n, units rank * Nat.pow 10 n / 2 ^ n = units rank * 5 ^ n := by
    intro n
    rw [Nat.pow_eq, ten_pow, ← Nat.mul_assoc, Nat.mul_div_cancel _ (Nat.two_pow_pos n)]
  have hgrid : ∀ n : ℕ, (units rank * 5 ^ n : ℕ) * (10 : ℚ) ^ (-n : ℤ) = units rank / 2 ^ n := by
    intro n
    rw [zpow_neg, zpow_natCast, cast_ten_pow]
    push_cast
    field_simp
  rw [Shortest.magnitude, unitsPerOne_eq, hpoint 1074, magnitude_eq_units, cast_unitsPerOne,
    ← hgrid 1074, Nat.cast_ofNat]

/-- The search ends at a point that rounds to the magnitude. -/
theorem roundsTo_searchGrids (rank fineness : ℕ) : RoundsTo (searchGrids rank fineness).magnitude rank := by
  induction fineness with
  | zero =>
    rw [searchGrids, magnitude_lastGrid]
    exact roundsTo_magnitude rank
  | succ fineness ih =>
    rw [searchGrids]
    cases hpoint : gridPoint? rank (fineness + 1 - 1074) with
    | none => exact ih
    | some point => exact roundsTo_of_gridPoint? hpoint

/-- No other point of the grid where the search ends and that rounds to the magnitude is nearer to it. -/
theorem searchGrids_nearest (rank fineness : ℕ) {point : ℕ}
    (hpoint : RoundsTo (point * 10 ^ (searchGrids rank fineness).exponent) rank) :
    |(searchGrids rank fineness).magnitude - magnitude rank| ≤
      |point * 10 ^ (searchGrids rank fineness).exponent - magnitude rank| := by
  induction fineness with
  | zero =>
    rw [searchGrids, magnitude_lastGrid, sub_self, abs_zero]
    exact abs_nonneg _
  | succ fineness ih =>
    rw [searchGrids] at hpoint ⊢
    cases hfound : gridPoint? rank (fineness + 1 - 1074) with
    | none =>
      simp only [hfound] at hpoint ⊢
      exact ih hpoint
    | some found =>
      simp only [hfound] at hpoint ⊢
      exact gridPoint?_nearest hfound hpoint

/-- Zeros at the end of the digits may be moved into the exponent. -/
theorem magnitude_dropZeros (fuel : ℕ) (s : Shortest) : (dropZeros fuel s).magnitude = s.magnitude := by
  induction fuel generalizing s with
  | zero => rfl
  | succ fuel ih =>
    rw [dropZeros]
    split_ifs with hzero
    · have hdigits : s.digits = s.digits / 10 * 10 := by
        simp only [Bool.and_eq_true, decide_eq_true_eq] at hzero
        omega
      rw [ih, Shortest.magnitude, Shortest.magnitude, zpow_add_one₀ (by norm_num)]
      nth_rewrite 2 [hdigits]
      push_cast
      ring
    · rfl

/-- Moving zeros does not make the grid finer. -/
theorem exponent_le_dropZeros (fuel : ℕ) (s : Shortest) : s.exponent ≤ (dropZeros fuel s).exponent := by
  induction fuel generalizing s with
  | zero => exact le_rfl
  | succ fuel ih =>
    rw [dropZeros]
    split_ifs
    · have := ih ⟨s.digits / 10, s.exponent + 1⟩
      dsimp only at this
      omega
    · exact le_rfl

/-- The exponent of the grid that the search starts with. -/
def firstGrid (rank : ℕ) : ℤ := ((units rank).log2 + 1 - 1074 : ℤ) * 30103 / 100000 + 1

/-- Shortest digits are those that the search ends with, up to zeros at the end. -/
theorem exists_searchGrids (rank : ℕ) : ∃ fineness : ℕ, firstGrid rank ≤ fineness - 1074 ∧
    (shortest rank).magnitude = (searchGrids rank fineness).magnitude ∧
    (searchGrids rank fineness).exponent ≤ (shortest rank).exponent := by
  refine ⟨(firstGrid rank + 1074).toNat, by omega, ?_, ?_⟩
  · exact magnitude_dropZeros _ _
  · exact exponent_le_dropZeros _ _

/-- **Shortest digits read back.** The digits that are found for a magnitude round to it. -/
theorem roundsTo_shortest (rank : ℕ) : RoundsTo (shortest rank).magnitude rank := by
  obtain ⟨fineness, -, hmagnitude, -⟩ := exists_searchGrids rank
  rw [hmagnitude]
  exact roundsTo_searchGrids rank fineness

/-- Digits that round to a positive magnitude are not zero. -/
theorem RoundsTo.digits_pos {s : Shortest} (h : RoundsTo s.magnitude rank) (hrank : 0 < rank) :
    0 < s.digits := by
  by_contra hzero
  rw [Shortest.magnitude, Nat.eq_zero_of_not_pos hzero, Nat.cast_zero, zero_mul] at h
  have hrank' : rank = 0 := h.eq_zero_iff.mpr (by positivity)
  omega

/-! ## The place of the first digit -/

/-- The decimal exponent of the first digit. -/
def Shortest.place (s : Shortest) : ℤ := s.exponent + (Nat.toDigits 10 s.digits).length - 1

/-- A positive number lies between the powers of ten that its number of digits allows. -/
theorem length_toDigits_bounds {n : ℕ} (hpos : 0 < n) :
    10 ^ ((Nat.toDigits 10 n).length - 1) ≤ n ∧ n < 10 ^ (Nat.toDigits 10 n).length := by
  have hlength := Nat.length_toDigits_pos (b := 10) (n := n)
  have hupper : n < 10 ^ (Nat.toDigits 10 n).length :=
    (Nat.length_toDigits_le_iff (by decide) hlength).mp le_rfl
  refine ⟨?_, hupper⟩
  by_cases hone : (Nat.toDigits 10 n).length = 1
  · rw [hone]
    exact hpos
  · by_contra hlt
    have := (Nat.length_toDigits_le_iff (by decide) (by omega)).mpr (not_le.mp hlt)
    omega

/-- The place of the first digit is the largest power of ten that is not above the number. -/
theorem Shortest.le_place_iff {s : Shortest} (hpos : 0 < s.digits) {power : ℤ} :
    power ≤ s.place ↔ (10 : ℚ) ^ power ≤ s.magnitude := by
  obtain ⟨hlower, hupper⟩ := length_toDigits_bounds hpos
  have hlength := Nat.length_toDigits_pos (b := 10) (n := s.digits)
  rw [place, magnitude]
  generalize (Nat.toDigits 10 s.digits).length = length at *
  have hunit : (0 : ℚ) < 10 ^ s.exponent := by positivity
  constructor
  · intro hle
    calc (10 : ℚ) ^ power ≤ 10 ^ ((length - 1 : ℕ) + s.exponent) :=
          zpow_le_zpow_right₀ (by norm_num) (by omega)
      _ = (10 ^ (length - 1) : ℕ) * 10 ^ s.exponent := by
        rw [zpow_add₀ (by norm_num), zpow_natCast, Nat.cast_pow, Nat.cast_ofNat]
      _ ≤ s.digits * 10 ^ s.exponent := by
        exact mul_le_mul_of_nonneg_right (Nat.cast_le.mpr hlower) hunit.le
  · intro hle
    by_contra hlt
    have hbelow : s.digits * 10 ^ s.exponent < (10 : ℚ) ^ power := by
      calc s.digits * 10 ^ s.exponent < (10 ^ length : ℕ) * (10 : ℚ) ^ s.exponent := by
            exact mul_lt_mul_of_pos_right (Nat.cast_lt.mpr hupper) hunit
        _ = 10 ^ (length + s.exponent) := by
          rw [zpow_add₀ (by norm_num), zpow_natCast, Nat.cast_pow, Nat.cast_ofNat]
        _ ≤ 10 ^ power := zpow_le_zpow_right₀ (by norm_num) (by omega)
    exact absurd hle (not_le.mpr hbelow)

/-- If a power of ten is printed as itself, the numbers whose digits start at its place or further to the left are those
from the number on that it rounds to. -/
theorem le_place_shortest_iff (hrank : 0 < rank) {power : ℤ} {bound : ℕ} (hbound : RoundsTo (10 ^ power) bound)
    (hself : shortest bound = ⟨1, power⟩) : power ≤ (shortest rank).place ↔ bound ≤ rank := by
  rw [Shortest.le_place_iff ((roundsTo_shortest rank).digits_pos hrank)]
  constructor
  · intro hle
    exact hbound.le_of_le (roundsTo_shortest rank) hle
  · intro hle
    by_contra hlt
    have hge := (roundsTo_shortest rank).le_of_le hbound (not_le.mp hlt).le
    obtain rfl : bound = rank := Nat.le_antisymm hle hge
    rw [hself, Shortest.magnitude, Nat.cast_one, one_mul] at hlt
    exact hlt le_rfl

/-! ## There are no shorter digits -/

/-- No point of a grid that the search passes over rounds to the magnitude. -/
theorem not_roundsTo_of_searchGrids {fineness : ℕ} {exponent : ℤ}
    (hlow : (searchGrids rank fineness).exponent < exponent) (hhigh : exponent ≤ fineness - 1074) (point : ℕ) :
    ¬ RoundsTo (point * 10 ^ exponent) rank := by
  induction fineness with
  | zero =>
    have hlast : (searchGrids rank 0).exponent = -1074 := rfl
    push_cast at hhigh
    omega
  | succ fineness ih =>
    push_cast at hhigh
    rw [searchGrids] at hlow
    cases hpoint : gridPoint? rank (fineness + 1 - 1074) with
    | none =>
      simp only [hpoint] at hlow
      by_cases hgrid : exponent = fineness + 1 - 1074
      · rw [hgrid]
        exact not_roundsTo_of_gridPoint? hpoint point
      · exact ih hlow (by omega)
    | some found =>
      simp only [hpoint] at hlow
      omega

/-- The rational number 0.30103 is as near to the logarithm of two to base ten as the search needs it. -/
theorem two_pow_le_ten_pow {bits : ℕ} (h : bits < 2100) :
    2 ^ bits * 5 ^ 1074 ≤ 10 ^ (((bits : ℤ) - 1074) * 30103 / 100000 + 1 + 1074).toNat := by
  have hall : ((List.range 2100).all fun bits =>
      2 ^ bits * 5 ^ 1074 ≤ 10 ^ (((bits : ℤ) - 1074) * 30103 / 100000 + 1 + 1074).toNat) = true := by
    decide +kernel
  exact of_decide_eq_true (List.all_eq_true.mp hall bits (List.mem_range.mpr h))

/-- A power of two divided by another one is compared with a power of ten by whole numbers. -/
theorem two_pow_div_le {bits n : ℕ} {power : ℤ} (hnonneg : 0 ≤ power + n)
    (h : 2 ^ bits * 5 ^ n ≤ 10 ^ (power + n).toNat) : ((2 ^ bits : ℕ) : ℚ) / 2 ^ n ≤ 10 ^ power := by
  have hcast : (2 : ℚ) ^ bits * 5 ^ n ≤ 10 ^ (power + n).toNat := by exact_mod_cast h
  have hpower : (10 : ℚ) ^ (power + n).toNat = 10 ^ power * (5 ^ n * 2 ^ n) := by
    rw [← zpow_natCast, Int.toNat_of_nonneg hnonneg, zpow_add₀ (by norm_num), zpow_natCast, cast_ten_pow]
  have hfive : (0 : ℚ) < 5 ^ n := by positivity
  rw [hpower] at hcast
  rw [div_le_iff₀ (by positivity), Nat.cast_pow, Nat.cast_ofNat]
  exact le_of_mul_le_mul_right (by linarith) hfive

/-- The first grid is coarser than the magnitude. -/
theorem magnitude_le_firstGrid (hfinite : rank < infiniteRank) : magnitude rank ≤ 10 ^ firstGrid rank := by
  have hunits : units rank < 2 ^ 2099 := by
    calc units rank < units infiniteRank := strictMono_units hfinite
      _ < 2 ^ 2099 := by decide +kernel
  have hbits : (units rank).log2 + 1 < 2100 := by
    by_cases hzero : units rank = 0
    · simp [hzero]
    · have := (Nat.log2_lt hzero).mpr hunits
      omega
  have hfirst : firstGrid rank = (((units rank).log2 + 1 : ℕ) - 1074 : ℤ) * 30103 / 100000 + 1 := by
    rw [firstGrid, Nat.cast_add, Nat.cast_one]
  have hlog : (units rank : ℚ) ≤ (2 ^ ((units rank).log2 + 1) : ℕ) := Nat.cast_le.mpr Nat.lt_log2_self.le
  generalize (units rank).log2 + 1 = bits at hbits hfirst hlog
  have hgrid := two_pow_le_ten_pow hbits
  rw [← hfirst] at hgrid
  rw [magnitude_eq_units, cast_unitsPerOne]
  calc (units rank : ℚ) / 2 ^ 1074 ≤ (2 ^ bits : ℕ) / 2 ^ 1074 :=
        div_le_div_of_nonneg_right hlog (by positivity)
    _ ≤ 10 ^ firstGrid rank := two_pow_div_le (by rw [hfirst]; omega) hgrid

/-- A magnitude behind the smallest one is at most doubled by the next one. -/
theorem magnitude_succ_le (hpos : 0 < rank) : magnitude (rank + 1) ≤ 2 * magnitude rank := by
  obtain ⟨mantissa, doublings, hrank, hhigh, hlow, hdoublings⟩ := exists_mantissa rank
  have hmantissa : 1 ≤ mantissa := by
    rw [perSpacing_eq] at hrank hlow
    omega
  have hspacing : 2 ^ doublings ≤ units rank := by
    rw [hrank, units_run hhigh.le hlow]
    exact Nat.le_mul_of_pos_left _ hmantissa
  have hnext : units (rank + 1) ≤ 2 * units rank := by
    rw [units_succ, hdoublings]
    omega
  have hunit := unitsPerOne_pos
  rw [magnitude_eq_units, magnitude_eq_units, ← mul_div_assoc, div_le_div_iff_of_pos_right hunit]
  exact_mod_cast hnext

/-- A point of a grid that is coarser than the first one is too large for the magnitude. -/
theorem not_roundsTo_of_firstGrid_lt (hpos : 0 < rank) (hfinite : rank < infiniteRank) {s : Shortest}
    (hcoarse : firstGrid rank < s.exponent) : ¬ RoundsTo s.magnitude rank := by
  intro h
  have hpoint : (10 : ℚ) ^ s.exponent ≤ s.magnitude := by
    have hdigits : (1 : ℚ) ≤ s.digits := by exact_mod_cast h.digits_pos hpos
    exact le_mul_of_one_le_left (by positivity) hdigits
  have hsteps : (10 : ℚ) ^ firstGrid rank * 10 ≤ 10 ^ s.exponent := by
    rw [← zpow_add_one₀ (by norm_num)]
    exact zpow_le_zpow_right₀ (by norm_num) (by omega)
  have hcovered := magnitude_le_firstGrid hfinite
  have hnext := magnitude_succ_le hpos
  have hgrid : (0 : ℚ) < 10 ^ firstGrid rank := by positivity
  linarith [h.below]

/-- No decimal number on a coarser grid reads back. -/
theorem exponent_le_shortest (hpos : 0 < rank) (hfinite : rank < infiniteRank) {s : Shortest}
    (h : RoundsTo s.magnitude rank) : s.exponent ≤ (shortest rank).exponent := by
  obtain ⟨fineness, hstart, -, hexponent⟩ := exists_searchGrids rank
  by_contra hcoarser
  by_cases hfirst : s.exponent ≤ firstGrid rank
  · exact not_roundsTo_of_searchGrids (hexponent.trans_lt (not_le.mp hcoarser)) (by omega) s.digits h
  · exact not_roundsTo_of_firstGrid_lt hpos hfinite (by omega) h

/-- **Shortest digits are shortest.** No decimal number with fewer digits rounds to the magnitude. -/
theorem length_digits_shortest_le (hpos : 0 < rank) (hfinite : rank < infiniteRank) {s : Shortest}
    (h : RoundsTo s.magnitude rank) :
    (Nat.toDigits 10 (shortest rank).digits).length ≤ (Nat.toDigits 10 s.digits).length := by
  have hpositive := h.digits_pos hpos
  have hlength := Nat.length_toDigits_pos (b := 10) (n := s.digits)
  have hexponent := exponent_le_shortest hpos hfinite h
  by_contra hshorter
  have hplace : ¬ (shortest rank).place ≤ s.place := by
    rw [Shortest.place, Shortest.place]
    omega
  have hpower : (10 : ℚ) ^ (shortest rank).place ≤ (shortest rank).magnitude :=
    (Shortest.le_place_iff ((roundsTo_shortest rank).digits_pos hpos)).mp le_rfl
  rw [Shortest.le_place_iff hpositive, not_le] at hplace
  -- The power of ten at the place of the first digit reads back too, with one digit on a coarser grid.
  have hrounds := h.between (roundsTo_shortest rank) hplace.le hpower
  have hcoarser : RoundsTo (⟨1, (shortest rank).place⟩ : Shortest).magnitude rank := by
    rwa [Shortest.magnitude, Nat.cast_one, one_mul]
  have hexponent' : (shortest rank).place ≤ (shortest rank).exponent :=
    exponent_le_shortest hpos hfinite hcoarser
  rw [Shortest.place] at hexponent'
  omega

/-- **Shortest digits are nearest.** No decimal number with the same exponent that rounds to the magnitude is nearer to
it. -/
theorem shortest_nearest {s : Shortest} (h : RoundsTo s.magnitude rank)
    (hexponent : s.exponent = (shortest rank).exponent) :
    |(shortest rank).magnitude - magnitude rank| ≤ |s.magnitude - magnitude rank| := by
  obtain ⟨fineness, -, hmagnitude, hle⟩ := exists_searchGrids rank
  -- The number is a point of the grid where the search ended too.
  obtain ⟨shift, hshift⟩ := Int.le.dest (hle.trans_eq hexponent.symm)
  have hpoint : s.magnitude = (s.digits * 10 ^ shift : ℕ) * 10 ^ (searchGrids rank fineness).exponent := by
    rw [Shortest.magnitude, ← hshift, zpow_add₀ (by norm_num), zpow_natCast]
    push_cast
    ring
  rw [hpoint] at h ⊢
  rw [hmagnitude]
  exact searchGrids_nearest rank fineness h

end LoxLexer.Binary64
