import LoxLexer.Number.Binary64
import Mathlib.Algebra.Order.Field.Power
import Mathlib.Data.Rat.Cast.Order
import Mathlib.Order.Monotone.Basic
import Mathlib.Tactic.FieldSimp
import Mathlib.Tactic.Linarith
import Mathlib.Tactic.NormNum
import Mathlib.Tactic.Positivity
import Mathlib.Tactic.Ring

/-!
# Rounding to binary64 numbers

The rank of a magnitude is the number that its exponent bits and its fraction bits form together. A rational
number rounds to a magnitude if it lies between the midpoints to the two neighbours, and a midpoint rounds to the
magnitude with the even fraction. The sequence of magnitudes goes on behind the last finite one as if there were more
exponents, so that overflow is nothing but rounding to a rank that is not finite. This file shows that each rational
number rounds to one rank at most, that larger numbers round to larger ranks, and that `nearestRank` finds
the rank that a fraction rounds to.
-/

namespace LoxLexer.Binary64

/-! ## Magnitudes -/

/-- The rational number that the bits of a rank stand for. The 52 fraction bits count in units of the spacing that the
exponent bits in front of them choose, and if one of the exponent bits is set, a one stands in front of the fraction. -/
def magnitude (rank : ℕ) : ℚ :=
  let exponent : ℕ := rank / 2 ^ 52
  let fraction : ℕ := rank % 2 ^ 52
  if exponent = 0 then fraction * 2 ^ (-1074 : ℤ)
  else (2 ^ 52 + fraction) * 2 ^ (exponent - 1075 : ℤ)

theorem perSpacing_eq : perSpacing = 4503599627370496 := rfl

theorem unitsPerOne_eq : unitsPerOne = 2 ^ 1074 := by decide +kernel

theorem cast_unitsPerOne : (unitsPerOne : ℚ) = 2 ^ 1074 := by
  rw [unitsPerOne_eq, Nat.cast_pow, Nat.cast_ofNat]

theorem unitsPerOne_pos : (0 : ℚ) < unitsPerOne := by
  rw [cast_unitsPerOne]
  positivity

/-- Inside a run of ranks with one spacing, and at the first rank behind it, the units of a rank are its mantissa times
this spacing. -/
theorem units_run {mantissa doublings : ℕ} (hhigh : mantissa ≤ 2 * perSpacing)
    (hlow : doublings = 0 ∨ perSpacing ≤ mantissa) :
    units (mantissa + doublings * perSpacing) = mantissa * 2 ^ doublings := by
  rw [perSpacing_eq] at hhigh hlow
  rw [units, perSpacing_eq]
  by_cases hinside : mantissa < 2 * 4503599627370496
  · have hdoublings :
        (mantissa + doublings * 4503599627370496) / 4503599627370496 - 1 = doublings := by omega
    have hmantissa : mantissa + doublings * 4503599627370496 - doublings * 4503599627370496 = mantissa := by
      omega
    simp only [hdoublings, hmantissa, Nat.pow_eq]
  · obtain rfl : mantissa = 2 * 4503599627370496 := by omega
    have hdoublings : (2 * 4503599627370496 + doublings * 4503599627370496) / 4503599627370496 - 1 =
        doublings + 1 := by omega
    have hmantissa : 2 * 4503599627370496 + doublings * 4503599627370496 -
        (doublings + 1) * 4503599627370496 = 4503599627370496 := by omega
    simp only [hdoublings, hmantissa, Nat.pow_eq, pow_succ]
    ring

/-- Every rank has a mantissa and a spacing. -/
theorem exists_mantissa (rank : ℕ) : ∃ mantissa doublings, rank = mantissa + doublings * perSpacing ∧
    mantissa < 2 * perSpacing ∧ (doublings = 0 ∨ perSpacing ≤ mantissa) ∧
      rank / perSpacing - 1 = doublings := by
  refine ⟨rank - (rank / perSpacing - 1) * perSpacing, rank / perSpacing - 1, ?_⟩
  rw [perSpacing_eq]
  omega

/-- The next magnitude is one spacing away. -/
theorem units_succ (rank : ℕ) : units (rank + 1) = units rank + 2 ^ (rank / perSpacing - 1) := by
  obtain ⟨mantissa, doublings, hrank, hhigh, hlow, hdoublings⟩ := exists_mantissa rank
  have hnext : rank + 1 = mantissa + 1 + doublings * perSpacing := by omega
  rw [hdoublings, hnext, hrank, units_run (by omega) (by omega), units_run (by omega) hlow]
  ring

theorem units_zero : units 0 = 0 := by simp [units]

theorem strictMono_units : StrictMono units := by
  apply strictMono_nat_of_lt_succ
  intro rank
  rw [units_succ]
  have := Nat.two_pow_pos (rank / perSpacing - 1)
  omega

/-- The bits of a rank stand for its units. -/
theorem magnitude_eq_units (rank : ℕ) : magnitude rank = units rank / unitsPerOne := by
  obtain ⟨mantissa, doublings, hrank, hhigh, hlow, -⟩ := exists_mantissa rank
  have hunits : (units rank : ℚ) = mantissa * 2 ^ doublings := by
    rw [hrank, units_run hhigh.le hlow, Nat.cast_mul, Nat.cast_pow, Nat.cast_ofNat]
  rw [perSpacing_eq] at hrank hhigh hlow
  rw [magnitude, hunits, cast_unitsPerOne]
  by_cases hexponent : rank / 2 ^ 52 = 0
  · have hfraction : rank % 2 ^ 52 = mantissa := by omega
    obtain rfl : doublings = 0 := by omega
    rw [if_pos hexponent, hfraction, pow_zero, mul_one, zpow_neg, zpow_ofNat, div_eq_mul_inv]
  · have hfraction : (2 ^ 52 + (rank % 2 ^ 52 : ℕ) : ℚ) = mantissa := by
      have : 2 ^ 52 + rank % 2 ^ 52 = mantissa := by omega
      exact_mod_cast this
    have hspacing : ((rank / 2 ^ 52 : ℕ) - 1075 : ℤ) = doublings - 1074 := by omega
    rw [if_neg hexponent, hfraction, hspacing, zpow_sub₀ two_ne_zero, zpow_natCast, zpow_ofNat,
      mul_div_assoc]

theorem strictMono_magnitude : StrictMono magnitude := by
  intro rank other h
  rw [magnitude_eq_units, magnitude_eq_units]
  exact div_lt_div_of_pos_right (Nat.cast_lt.mpr (strictMono_units h)) unitsPerOne_pos

theorem magnitude_zero : magnitude 0 = 0 := by simp [magnitude]

/-! ## Rounding -/

/-- A rational number rounds to a rank: it lies between the midpoints to the neighbouring magnitudes, and it is one of
these midpoints only if the rank is even. -/
@[mk_iff]
structure RoundsTo (x : ℚ) (rank : ℕ) : Prop where
  /-- The number is not below the midpoint to the magnitude before. Zero has none before it. -/
  above : magnitude (rank - 1) + magnitude rank ≤ 2 * x
  /-- The number is not beyond the midpoint to the next magnitude. -/
  below : 2 * x ≤ magnitude rank + magnitude (rank + 1)
  /-- The midpoint to the magnitude before rounds to an even rank. -/
  even_of_low : magnitude (rank - 1) + magnitude rank = 2 * x → rank % 2 = 0
  /-- The midpoint to the next magnitude rounds to an even rank. -/
  even_of_high : 2 * x = magnitude rank + magnitude (rank + 1) → rank % 2 = 0

variable {x y : ℚ} {rank other : ℕ}

/-- Larger numbers round to larger ranks. -/
theorem RoundsTo.le_of_le (h : RoundsTo x rank) (h' : RoundsTo y other) (hle : x ≤ y) :
    rank ≤ other := by
  by_contra hlt
  have hlow : magnitude other ≤ magnitude (rank - 1) := strictMono_magnitude.monotone (by omega)
  have hhigh : magnitude (other + 1) ≤ magnitude rank := strictMono_magnitude.monotone (by omega)
  have habove := h.above
  have hbelow := h'.below
  -- Both numbers can only be the midpoint between two neighbours, of which one rank is odd.
  have hprevious : magnitude other = magnitude (rank - 1) := by linarith
  have heven := h.even_of_low (by linarith)
  have heven' := h'.even_of_high (by linarith)
  have := strictMono_magnitude.injective hprevious
  omega

/-- A number rounds to one rank only. -/
theorem RoundsTo.unique (h : RoundsTo x rank) (h' : RoundsTo x other) : rank = other :=
  Nat.le_antisymm (h.le_of_le h' le_rfl) (h'.le_of_le h le_rfl)

/-- What lies between two numbers that round to the same rank rounds to it too. -/
theorem RoundsTo.between {z : ℚ} (h : RoundsTo x rank) (h' : RoundsTo y rank) (hxz : x ≤ z) (hzy : z ≤ y) :
    RoundsTo z rank := by
  have habove := h.above
  have hbelow := h'.below
  exact ⟨by linarith, by linarith, fun heq => h.even_of_low (by linarith),
    fun heq => h'.even_of_high (by linarith)⟩

/-- A magnitude rounds to its own rank. -/
theorem roundsTo_magnitude (rank : ℕ) : RoundsTo (magnitude rank) rank := by
  have hlow : magnitude (rank - 1) ≤ magnitude rank := strictMono_magnitude.monotone (by omega)
  have hhigh : magnitude rank < magnitude (rank + 1) := strictMono_magnitude (by omega)
  refine ⟨by linarith, by linarith, fun h => ?_, fun h => by linarith⟩
  have := strictMono_magnitude.injective (show magnitude (rank - 1) = magnitude rank by linarith)
  omega

/-- No magnitude is nearer to a number than the one that it rounds to, and if another one is as near, the number rounds
to an even rank. -/
theorem RoundsTo.nearest (h : RoundsTo x rank) (other : ℕ) :
    |x - magnitude rank| ≤ |x - magnitude other| ∧
      (other ≠ rank → |x - magnitude rank| = |x - magnitude other| → rank % 2 = 0) := by
  have habove := h.above
  have hbelow := h.below
  rcases lt_trichotomy other rank with hlt | rfl | hlt
  · have hlow : magnitude other ≤ magnitude (rank - 1) := strictMono_magnitude.monotone (by omega)
    have hother : magnitude other < magnitude rank := strictMono_magnitude hlt
    rw [abs_of_nonneg (show 0 ≤ x - magnitude other by linarith)]
    refine ⟨abs_le.mpr ⟨by linarith, by linarith⟩, fun _ heq => h.even_of_low ?_⟩
    rcases abs_cases (x - magnitude rank) with ⟨habs, _⟩ | ⟨habs, _⟩ <;> linarith
  · exact ⟨le_rfl, fun hne => absurd rfl hne⟩
  · have hhigh : magnitude (rank + 1) ≤ magnitude other := strictMono_magnitude.monotone (by omega)
    have hother : magnitude rank < magnitude other := strictMono_magnitude hlt
    rw [abs_of_nonpos (show x - magnitude other ≤ 0 by linarith)]
    refine ⟨abs_le.mpr ⟨by linarith, by linarith⟩, fun _ heq => h.even_of_high ?_⟩
    rcases abs_cases (x - magnitude rank) with ⟨habs, _⟩ | ⟨habs, _⟩ <;> linarith

/-! ## The rank that a fraction rounds to -/

/-- Whether a fraction rounds to a rank is decided by the units of the rank and of its neighbours. -/
theorem roundsTo_div_iff {numerator denominator : ℕ} (hpos : 0 < denominator) :
    RoundsTo (numerator / denominator) rank ↔
      (units (rank - 1) + units rank) * denominator ≤ 2 * (numerator * unitsPerOne) ∧
      2 * (numerator * unitsPerOne) ≤ (units rank + units (rank + 1)) * denominator ∧
      ((units (rank - 1) + units rank) * denominator = 2 * (numerator * unitsPerOne) → rank % 2 = 0) ∧
      (2 * (numerator * unitsPerOne) = (units rank + units (rank + 1)) * denominator →
        rank % 2 = 0) := by
  have hdenominator : (0 : ℚ) < denominator := by exact_mod_cast hpos
  have hunit := unitsPerOne_pos
  have hmagnitude := magnitude_eq_units
  -- From here on the number of units in one does not matter, and it is too large to compute with.
  generalize unitsPerOne = perOne at hunit hmagnitude ⊢
  have hsum : ∀ a b, magnitude a + magnitude b = ((units a + units b : ℕ) : ℚ) / perOne := by
    intro a b
    rw [hmagnitude, hmagnitude, Nat.cast_add, add_div]
  have htwice : (2 : ℚ) * (numerator / denominator) =
      ((2 * (numerator * perOne) : ℕ) : ℚ) / denominator / perOne := by
    push_cast
    field_simp
  have hle : ∀ a : ℕ, (a : ℚ) / perOne ≤ ((2 * (numerator * perOne) : ℕ) : ℚ) / denominator / perOne ↔
      a * denominator ≤ 2 * (numerator * perOne) := by
    intro a
    rw [div_le_div_iff_of_pos_right hunit, le_div_iff₀ hdenominator]
    norm_cast
  have hge : ∀ a : ℕ, ((2 * (numerator * perOne) : ℕ) : ℚ) / denominator / perOne ≤ (a : ℚ) / perOne ↔
      2 * (numerator * perOne) ≤ a * denominator := by
    intro a
    rw [div_le_div_iff_of_pos_right hunit, div_le_iff₀ hdenominator]
    norm_cast
  rw [roundsTo_iff, hsum, hsum, htwice]
  simp only [le_antisymm_iff, hle, hge]

/-- A rounded quotient is at most half of the denominator away from the numerator, and it is even if it is as far
away as that. -/
theorem roundDiv_bounds (numerator : ℕ) {denominator : ℕ} (hpos : 0 < denominator) :
    2 * (roundDiv numerator denominator * denominator) ≤ 2 * numerator + denominator ∧
      2 * numerator ≤ 2 * (roundDiv numerator denominator * denominator) + denominator ∧
      (2 * (roundDiv numerator denominator * denominator) = 2 * numerator + denominator →
        roundDiv numerator denominator % 2 = 0) ∧
      (2 * numerator = 2 * (roundDiv numerator denominator * denominator) + denominator →
        roundDiv numerator denominator % 2 = 0) := by
  have hdivision := Nat.div_add_mod' numerator denominator
  have hremainder := Nat.mod_lt numerator hpos
  have hrounded : roundDiv numerator denominator = numerator / denominator ∧
        2 * (numerator % denominator) ≤ denominator ∧
        (2 * (numerator % denominator) = denominator → numerator / denominator % 2 = 0) ∨
      roundDiv numerator denominator = numerator / denominator + 1 ∧
        denominator ≤ 2 * (numerator % denominator) ∧
        (2 * (numerator % denominator) = denominator → (numerator / denominator + 1) % 2 = 0) := by
    rw [roundDiv]
    split_ifs <;> omega
  rcases hrounded with ⟨hrounded, hdistance, hhalf⟩ | ⟨hrounded, hdistance, hhalf⟩
  · rw [hrounded]
    omega
  · rw [hrounded, Nat.add_mul, Nat.one_mul]
    omega

/-- A quotient up to a whole number is not rounded to more than that. -/
theorem roundDiv_le {numerator denominator bound : ℕ} (hpos : 0 < denominator)
    (h : numerator ≤ bound * denominator) : roundDiv numerator denominator ≤ bound := by
  obtain ⟨hlower, -, -, -⟩ := roundDiv_bounds numerator hpos
  by_contra hlarge
  have := Nat.mul_le_mul_right denominator (show bound + 1 ≤ roundDiv numerator denominator by omega)
  rw [Nat.add_mul] at this
  omega

/-- A quotient from a whole number on is not rounded to less than that. -/
theorem le_roundDiv {numerator denominator bound : ℕ} (hpos : 0 < denominator)
    (h : bound * denominator ≤ numerator) : bound ≤ roundDiv numerator denominator := by
  obtain ⟨-, hupper, -, -⟩ := roundDiv_bounds numerator hpos
  by_contra hsmall
  have := Nat.mul_le_mul_right denominator (show roundDiv numerator denominator + 1 ≤ bound by omega)
  rw [Nat.add_mul] at this
  omega

/-- The spacing that is chosen for a fraction is that of the run of ranks into which the fraction falls. -/
theorem doublings_bounds (scaled : ℕ) {denominator : ℕ} (hpos : 0 < denominator) {doublings : ℕ}
    (hdoublings : (scaled / denominator).log2 - 52 = doublings) :
    scaled < 2 * perSpacing * (denominator * 2 ^ doublings) ∧
      (doublings = 0 ∨ perSpacing * (denominator * 2 ^ doublings) ≤ scaled) := by
  have hquotient := Nat.div_mul_le_self scaled denominator
  have hnext := Nat.lt_mul_div_succ scaled hpos
  have hspacing : perSpacing = 2 ^ 52 := rfl
  constructor
  · have hbound : scaled / denominator < 2 * perSpacing * 2 ^ doublings := by
      calc scaled / denominator < 2 ^ ((scaled / denominator).log2 + 1) := Nat.lt_log2_self
        _ ≤ 2 ^ (53 + doublings) := Nat.pow_le_pow_right (by decide) (by omega)
        _ = 2 * perSpacing * 2 ^ doublings := by
          rw [pow_add, hspacing]
          ring
    calc scaled < denominator * (scaled / denominator + 1) := hnext
      _ ≤ denominator * (2 * perSpacing * 2 ^ doublings) := Nat.mul_le_mul_left _ hbound
      _ = 2 * perSpacing * (denominator * 2 ^ doublings) := by ring
  · by_cases hzero : doublings = 0
    · exact .inl hzero
    have hpositive : scaled / denominator ≠ 0 := by
      intro h
      rw [h] at hdoublings
      simp at hdoublings
      omega
    right
    calc perSpacing * (denominator * 2 ^ doublings) = 2 ^ (52 + doublings) * denominator := by
          rw [pow_add, hspacing]
          ring
      _ = 2 ^ (scaled / denominator).log2 * denominator := by
          congr 2
          omega
      _ ≤ scaled / denominator * denominator := Nat.mul_le_mul_right _ (Nat.log2_self_le hpositive)
      _ ≤ scaled := hquotient

/-- Behind a rank of a run, the next magnitude is at least one spacing of the run away. -/
theorem units_add_le_units_succ {mantissa doublings : ℕ} (hlow : doublings = 0 ∨ perSpacing ≤ mantissa) :
    units (mantissa + doublings * perSpacing) + 2 ^ doublings ≤
      units (mantissa + doublings * perSpacing + 1) := by
  rw [units_succ]
  refine Nat.add_le_add_left (Nat.pow_le_pow_right (by decide) ?_) _
  rw [perSpacing_eq] at hlow ⊢
  omega

/-- **Fractions are rounded correctly.** The rank found for a fraction is the one that it rounds to. -/
theorem roundsTo_nearestRank (numerator : ℕ) {denominator : ℕ} (hpos : 0 < denominator) :
    RoundsTo (numerator / denominator) (nearestRank numerator denominator) := by
  rw [roundsTo_div_iff hpos, nearestRank]
  generalize numerator * unitsPerOne = scaled
  generalize hdoublings : (scaled / denominator).log2 - 52 = doublings
  obtain ⟨hscaled, hspacing⟩ := doublings_bounds scaled hpos hdoublings
  have hstep : 0 < denominator * 2 ^ doublings := Nat.mul_pos hpos (Nat.two_pow_pos _)
  obtain ⟨hlower, hupper, hlow, hhigh⟩ := roundDiv_bounds scaled hstep
  -- The mantissa stays in the run that is chosen for the fraction, or it is the first one of the next run.
  have hmantissa_le := roundDiv_le hstep hscaled.le
  have hmantissa_ge := hspacing.imp_right (le_roundDiv hstep)
  rw [Nat.pow_eq]
  generalize roundDiv scaled (denominator * 2 ^ doublings) = mantissa at *
  generalize hrank : mantissa + doublings * perSpacing = rank
  have hparity : rank % 2 = mantissa % 2 := by
    rw [← hrank, perSpacing_eq]
    omega
  have hunits : units rank * denominator = mantissa * (denominator * 2 ^ doublings) := by
    rw [← hrank, units_run hmantissa_le hmantissa_ge]
    ring
  have hnext : units rank * denominator + denominator * 2 ^ doublings ≤ units (rank + 1) * denominator := by
    have := Nat.mul_le_mul_right denominator (units_add_le_units_succ hmantissa_ge)
    rwa [hrank, Nat.add_mul, Nat.mul_comm (2 ^ doublings)] at this
  have hprevious : units (rank - 1) * denominator + denominator * 2 ^ doublings = units rank * denominator ∨
      units (rank - 1) * denominator + units rank * denominator < 2 * scaled ∨ rank = 0 := by
    by_cases hfirst : mantissa = 0 ∨ mantissa = perSpacing ∧ doublings ≠ 0
    · rcases hfirst with rfl | ⟨rfl, hne⟩
      · rw [perSpacing_eq] at hmantissa_ge hrank
        omega
      · -- The first magnitude of a run is nearer to the one before it, but the fraction is not below it.
        right; left
        have hlt : units (rank - 1) < units rank := strictMono_units (by rw [perSpacing_eq] at hrank; omega)
        have := Nat.mul_lt_mul_of_pos_right hlt hpos
        have := hspacing.resolve_left hne
        omega
    · left
      have hbefore : units (rank - 1) = (mantissa - 1) * 2 ^ doublings := by
        have hrank' : rank - 1 = mantissa - 1 + doublings * perSpacing := by omega
        rw [hrank', units_run (by omega) (by omega)]
      have hmantissa : mantissa = mantissa - 1 + 1 := by omega
      rw [hunits, hbefore]
      nth_rewrite 2 [hmantissa]
      ring
  rw [hparity, Nat.add_mul, Nat.add_mul]
  rcases hprevious with hprevious | hprevious | rfl
  · omega
  · omega
  · rw [units_zero] at hunits hnext
    rw [Nat.zero_sub, units_zero]
    omega

/-! ## The ends of the range -/

/-- A number rounds to an even rank or beyond if it is at least the midpoint in front of this rank. -/
theorem RoundsTo.le_iff (h : RoundsTo x rank) {bound : ℕ} (heven : bound % 2 = 0) :
    bound ≤ rank ↔ magnitude (bound - 1) + magnitude bound ≤ 2 * x := by
  have hmonotone := strictMono_magnitude.monotone
  constructor
  · intro hle
    have hlow : magnitude (bound - 1) ≤ magnitude (rank - 1) := hmonotone (by omega)
    have hhigh : magnitude bound ≤ magnitude rank := hmonotone hle
    linarith [h.above]
  · intro hle
    by_contra hlt
    have hlow : magnitude rank ≤ magnitude (bound - 1) := hmonotone (by omega)
    have hhigh : magnitude (rank + 1) ≤ magnitude bound := hmonotone (by omega)
    have hbelow := h.below
    have hodd := h.even_of_high (by linarith)
    have := strictMono_magnitude.injective (show magnitude (rank + 1) = magnitude bound by linarith)
    omega

/-- A number rounds to an even rank or to one before it if it is at most the midpoint behind this rank. -/
theorem RoundsTo.ge_iff (h : RoundsTo x rank) {bound : ℕ} (heven : bound % 2 = 0) :
    rank ≤ bound ↔ 2 * x ≤ magnitude bound + magnitude (bound + 1) := by
  have hmonotone := strictMono_magnitude.monotone
  constructor
  · intro hle
    have hlow : magnitude rank ≤ magnitude bound := hmonotone hle
    have hhigh : magnitude (rank + 1) ≤ magnitude (bound + 1) := hmonotone (by omega)
    linarith [h.below]
  · intro hle
    by_contra hlt
    have hlow : magnitude bound ≤ magnitude (rank - 1) := hmonotone (by omega)
    have hhigh : magnitude (bound + 1) ≤ magnitude rank := hmonotone (by omega)
    have habove := h.above
    have hodd := h.even_of_low (by linarith)
    have := strictMono_magnitude.injective (show magnitude (bound + 1) = magnitude rank by linarith)
    omega

theorem magnitude_infiniteRank : magnitude infiniteRank = 2 ^ 1024 := by
  have hexponent : infiniteRank / 2 ^ 52 = 2047 := rfl
  have hfraction : infiniteRank % 2 ^ 52 = 0 := rfl
  have hspacing : (((2047 : ℕ) : ℤ) - 1075) = 972 := rfl
  rw [magnitude, hexponent, hfraction, if_neg (by decide), hspacing, Nat.cast_zero, add_zero,
    zpow_ofNat, ← pow_add]

/-- The largest finite magnitude. -/
theorem magnitude_infiniteRank_pred : magnitude (infiniteRank - 1) = 2 ^ 1024 - 2 ^ 971 := by
  have hexponent : (infiniteRank - 1) / 2 ^ 52 = 2046 := rfl
  have hfraction : (infiniteRank - 1) % 2 ^ 52 = 2 ^ 52 - 1 := rfl
  have hspacing : (((2046 : ℕ) : ℤ) - 1075) = 971 := rfl
  have hmantissa : (2 ^ 52 + ((2 ^ 52 - 1 : ℕ) : ℚ)) = 2 ^ 53 - 1 := by norm_num
  rw [magnitude, hexponent, hfraction, if_neg (by decide), hspacing, hmantissa, zpow_ofNat, sub_mul,
    one_mul, ← pow_add]

/-- The smallest positive magnitude. -/
theorem magnitude_one : magnitude 1 = 1 / 2 ^ 1074 := by
  rw [magnitude, if_pos (by decide), zpow_neg, zpow_ofNat, one_div]
  exact one_mul _

/-- A number rounds to a rank that is not finite if it is at least the midpoint behind the largest finite magnitude. -/
theorem RoundsTo.infiniteRank_le_iff (h : RoundsTo x rank) :
    infiniteRank ≤ rank ↔ 2 ^ 1024 - 2 ^ 970 ≤ x := by
  have hmidpoint : magnitude (infiniteRank - 1) + magnitude infiniteRank = 2 * (2 ^ 1024 - 2 ^ 970) := by
    rw [magnitude_infiniteRank_pred, magnitude_infiniteRank, pow_succ' 2 970]
    generalize (2 : ℚ) ^ 1024 = top
    generalize (2 : ℚ) ^ 970 = gap
    ring
  rw [h.le_iff rfl, hmidpoint, mul_le_mul_iff_right₀ two_pos]

/-- A number rounds to zero if it is at most half of the smallest positive magnitude. -/
theorem RoundsTo.eq_zero_iff (h : RoundsTo x rank) : rank = 0 ↔ x ≤ 1 / 2 ^ 1075 := by
  have hmidpoint : magnitude 0 + magnitude (0 + 1) = 2 * (1 / 2 ^ 1075) := by
    rw [magnitude_zero, magnitude_one, pow_succ' 2 1074]
    generalize (2 : ℚ) ^ 1074 = unit
    ring
  rw [← Nat.le_zero, h.ge_iff rfl, hmidpoint, mul_le_mul_iff_right₀ two_pos]

end LoxLexer.Binary64
