import LoxLexer.Proofs.PrintedTokens
import LoxLexer.Proofs.Rounding
import Mathlib.Data.Nat.Digits.Defs

/-!
# The numbers that number literals stand for

A numeral denotes a rational number by the places of its digits, and `Decimal` keeps this number as a natural number
and an exponent. Reading a `Decimal` rounds it to binary64. The shortcuts for exponents that are very large or very
small do not change the result, so the literal of every number in a source is the one that its lexeme rounds to.
-/

namespace LoxLexer

/-- The digits of a text as numbers. -/
def digitValues (text : List Char) : List ℕ := text.map fun c => c.toNat - '0'.toNat

/-- The rational number that a numeral denotes. The digits in front of the point count ones, tens, hundreds and so on
from the point to the left, and those behind it count tenths, hundredths and so on to the right. -/
def numeralValue (numeral : List Char) : ℚ :=
  let whole := numeral.takeWhile (· ≠ '.')
  let fraction := (numeral.dropWhile (· ≠ '.')).drop 1
  Nat.ofDigits 10 (digitValues whole).reverse + Nat.ofDigits (1 / 10) (0 :: digitValues fraction)

namespace Decimal

/-- The rational number that a decimal numeral denotes, without its sign. -/
def magnitude (d : Decimal) : ℚ := d.digits * 10 ^ d.exponent

/-! ## Places of digits -/

theorem value_append (left right : List Char) :
    value (left ++ right) = value left * 10 ^ right.length + value right := by
  rw [value, List.foldl_append, Nat.mul_comm (value left)]
  exact Nat.ofDigitChars_eq_ofDigitChars_zero

theorem value_singleton (c : Char) : value [c] = c.toNat - '0'.toNat := by simp [value]

/-- The digits in front of the point, from the point to the left. -/
theorem ofDigits_reverse (whole : List Char) :
    Nat.ofDigits (10 : ℚ) (digitValues whole).reverse = value whole := by
  induction whole using List.reverseRecOn with
  | nil => rfl
  | append_singleton whole c ih =>
    have hlast : digitValues (whole ++ [c]) = digitValues whole ++ [value [c]] := by
      simp [digitValues, value_singleton]
    rw [hlast, List.reverse_append, List.reverse_singleton, List.singleton_append, Nat.ofDigits, ih,
      value_append, List.length_singleton]
    push_cast
    ring

/-- The digits behind the point, from the point to the right. -/
theorem ofDigits_tenth (fraction : List Char) :
    Nat.ofDigits (1 / 10 : ℚ) (0 :: digitValues fraction) = value fraction / 10 ^ fraction.length := by
  induction fraction with
  | nil => simp [digitValues, value, Nat.ofDigits]
  | cons c fraction ih =>
    have hfirst : digitValues (c :: fraction) = value [c] :: digitValues fraction := by
      simp [digitValues, value_singleton]
    have hvalue : value (c :: fraction) = value [c] * 10 ^ fraction.length + value fraction :=
      value_append [c] fraction
    rw [Nat.ofDigits, Nat.cast_zero, zero_add] at ih
    rw [hfirst, Nat.ofDigits, Nat.ofDigits, ih, hvalue, List.length_cons, Nat.cast_zero, zero_add]
    push_cast
    field_simp
    ring

end Decimal

/-- The digits of a numeral, read as one number, count the places of the last one. -/
theorem numeralValue_number {whole fraction : List Char} (hwhole : IsDigits whole) :
    numeralValue (Segment.number whole fraction).text =
      (Decimal.ofParts false whole fraction 0).magnitude := by
  have hpoint : ∀ c ∈ whole, c ≠ '.' := by
    rintro _ hc rfl
    exact absurd (hwhole.2 _ hc) (by decide)
  have hparts : (Segment.number whole fraction).text.takeWhile (· ≠ '.') = whole ∧
      ((Segment.number whole fraction).text.dropWhile (· ≠ '.')).drop 1 = fraction := by
    cases fraction with
    | nil =>
      rw [Segment.text, List.takeWhile_eq_self_iff.mpr (by simpa using hpoint),
        List.dropWhile_eq_nil_iff.mpr (by simpa using hpoint)]
      exact ⟨rfl, rfl⟩
    | cons d fraction =>
      rw [Segment.text, List.takeWhile_append_of_pos (by simpa using hpoint),
        List.dropWhile_append_of_pos (by simpa using hpoint)]
      simp
  rw [numeralValue, hparts.1, hparts.2, Decimal.ofDigits_reverse, Decimal.ofDigits_tenth,
    Decimal.magnitude, Decimal.ofParts, Decimal.value_append, zero_sub, zpow_neg, zpow_natCast]
  push_cast
  field_simp

namespace Decimal

open Binary64

/-! ## Rounding a decimal numeral -/

theorem magnitude_ofNat {d : Decimal} {e : ℕ} (h : d.exponent = .ofNat e) :
    d.magnitude = (d.digits * 10 ^ e : ℕ) / (1 : ℕ) := by
  rw [magnitude, h, Int.ofNat_eq_natCast, zpow_natCast]
  push_cast
  ring

theorem magnitude_negSucc {d : Decimal} {e : ℕ} (h : d.exponent = .negSucc e) :
    d.magnitude = (d.digits : ℚ) / (10 ^ (e + 1) : ℕ) := by
  rw [magnitude, h, zpow_negSucc]
  push_cast
  ring

/-- Every decimal numeral rounds to some rank. -/
theorem exists_roundsTo (d : Decimal) : ∃ rank, RoundsTo d.magnitude rank := by
  cases h : d.exponent with
  | ofNat e => exact ⟨_, magnitude_ofNat h ▸ roundsTo_nearestRank _ Nat.one_pos⟩
  | negSucc e => exact ⟨_, magnitude_negSucc h ▸ roundsTo_nearestRank _ (Nat.pow_pos (by decide))⟩

/-- A positive numeral with an exponent beyond 310 is larger than all finite numbers. -/
theorem overflows {d : Decimal} (hdigits : d.digits ≠ 0) (hexponent : 310 < d.exponent) :
    2 ^ 1024 - 2 ^ 970 ≤ d.magnitude := by
  have hpowers : (2 : ℚ) ^ 1024 ≤ 10 ^ 311 := by
    have : 2 ^ 1024 ≤ 10 ^ 311 := by decide +kernel
    exact_mod_cast this
  calc (2 : ℚ) ^ 1024 - 2 ^ 970 ≤ 2 ^ 1024 := sub_le_self _ (by positivity)
    _ ≤ 10 ^ 311 := hpowers
    _ = 10 ^ (311 : ℤ) := (zpow_ofNat _ _).symm
    _ ≤ 10 ^ d.exponent := zpow_le_zpow_right₀ (by norm_num) (by omega)
    _ ≤ d.digits * 10 ^ d.exponent :=
      le_mul_of_one_le_left (by positivity) (by exact_mod_cast Nat.one_le_iff_ne_zero.mpr hdigits)

/-- A numeral below ten to the -330 is nearer to zero than to the smallest unit. -/
theorem underflows {d : Decimal} (hexponent : d.exponent + d.digits.log2 + 1 < -330) :
    d.magnitude ≤ 1 / 2 ^ 1075 := by
  have hdigits : (d.digits : ℚ) ≤ 10 ^ (d.digits.log2 + 1) := by
    have hbits : d.digits ≤ 10 ^ (d.digits.log2 + 1) :=
      Nat.lt_log2_self.le.trans (Nat.pow_le_pow_left (by decide) _)
    exact_mod_cast hbits
  have hpowers : (2 : ℚ) ^ 1075 ≤ 10 ^ 331 := by
    have : 2 ^ 1075 ≤ 10 ^ 331 := by decide +kernel
    exact_mod_cast this
  calc d.magnitude ≤ 10 ^ (d.digits.log2 + 1) * 10 ^ d.exponent :=
        mul_le_mul_of_nonneg_right hdigits (by positivity)
    _ = 10 ^ ((d.digits.log2 + 1 : ℕ) + d.exponent) := by
      rw [zpow_add₀ (by norm_num), zpow_natCast]
    _ ≤ 10 ^ (-331 : ℤ) := zpow_le_zpow_right₀ (by norm_num) (by push_cast; omega)
    _ = 1 / 10 ^ 331 := by rw [zpow_neg, zpow_ofNat, one_div]
    _ ≤ 1 / 2 ^ 1075 := one_div_le_one_div_of_le (by positivity) hpowers

/-- **Decimal numerals are rounded correctly.** A numeral is read as the number with the rank that it rounds to, and
all ranks that are not finite are read as infinity. -/
theorem toBinary64_eq_ofRank {d : Decimal} {rank : ℕ} (h : RoundsTo d.magnitude rank) :
    d.toBinary64 = ofRank d.negative rank := by
  have hzero : d.magnitude ≤ 1 / 2 ^ 1075 → ofRank d.negative rank = zero d.negative := by
    intro hsmall
    rw [h.eq_zero_iff.mpr hsmall, zero]
  unfold toBinary64
  split_ifs with hdigits hlarge hsmall
  · refine (hzero ?_).symm
    rw [magnitude, hdigits, Nat.cast_zero, zero_mul]
    positivity
  · have hinfinite := h.infiniteRank_le_iff.mpr (overflows hdigits hlarge)
    simp only [infinity, ofRank, Nat.min_eq_right hinfinite, min_self]
  · exact (hzero (underflows hsmall)).symm
  · split
    · next e hexponent =>
      rw [magnitude_ofNat hexponent] at h
      rw [ofFraction, Nat.pow_eq, (roundsTo_nearestRank _ Nat.one_pos).unique h]
    · next e hexponent =>
      rw [magnitude_negSucc hexponent] at h
      rw [ofFraction, Nat.pow_eq, (roundsTo_nearestRank _ (Nat.pow_pos (by decide))).unique h]

end Decimal

/-! ## Number literals of a source -/

namespace Binary64

/-- A rank is that of the binary64 number nearest to a rational number that is not negative, the even one if two are
as near. The largest finite magnitude would be the nearest one to all numbers beyond it, so it is said apart which of
them are infinite. -/
structure IsNearest (x : ℚ) (rank : ℕ) : Prop where
  /-- Infinity starts at the midpoint between the largest finite magnitude and the power of two behind it. -/
  infinite_iff : rank = infiniteRank ↔ 2 ^ 1024 - 2 ^ 970 ≤ x
  /-- Zero reaches up to half of the smallest positive magnitude. -/
  zero_iff : rank = 0 ↔ x ≤ 1 / 2 ^ 1075
  /-- No finite magnitude is nearer than one that is finite itself. -/
  nearest : rank < infiniteRank → ∀ other < infiniteRank, |x - magnitude rank| ≤ |x - magnitude other|
  /-- Of two magnitudes that are as near, it is the one with the even rank. -/
  even_of_tie : rank < infiniteRank → ∀ other < infiniteRank, other ≠ rank →
    |x - magnitude rank| = |x - magnitude other| → rank % 2 = 0

variable {x : ℚ} {rank other : ℕ}

/-- A number is nearest to the rank that it rounds to, all ranks that are not finite being taken as infinity. -/
theorem RoundsTo.isNearest (h : RoundsTo x rank) : IsNearest x (min rank infiniteRank) := by
  by_cases hfinite : rank < infiniteRank
  · rw [Nat.min_eq_left hfinite.le]
    refine ⟨?_, h.eq_zero_iff, fun _ other _ => (h.nearest other).1, fun _ other _ => (h.nearest other).2⟩
    rw [← h.infiniteRank_le_iff]
    omega
  · have hinfinite : infiniteRank ≤ rank := by omega
    have hpositive : 0 < infiniteRank := by decide
    rw [Nat.min_eq_right hinfinite]
    refine ⟨by simpa using h.infiniteRank_le_iff.mp hinfinite, ?_, by omega, by omega⟩
    rw [← h.eq_zero_iff]
    omega

/-- If two numbers are as far away, those between them are nearer. -/
theorem nearer_of_tie {low between high : ℚ} (hlow : low < between) (hhigh : between < high)
    (htie : |x - low| = |x - high|) : |x - between| < |x - low| := by
  have hmidpoint : 2 * x = low + high := by
    rcases abs_eq_abs.mp htie with hsame | hopposite
    · linarith
    · linarith
  rw [abs_of_pos (show 0 < x - low by linarith)]
  exact abs_lt.mpr ⟨by linarith, by linarith⟩

/-- There is one nearest rank only. -/
theorem IsNearest.unique (h : IsNearest x rank) (h' : IsNearest x other) (hrank : rank ≤ infiniteRank)
    (hother : other ≤ infiniteRank) : rank = other := by
  have hinfinite : rank = infiniteRank ↔ other = infiniteRank := h.infinite_iff.trans h'.infinite_iff.symm
  by_cases hfinite : rank = infiniteRank
  · rw [hfinite, hinfinite.mp hfinite]
  by_contra hne
  have hrank' : rank < infiniteRank := by omega
  have hother' : other < infiniteRank := by omega
  have hnear := h.nearest hrank'
  have hnear' := h'.nearest hother'
  have htie : |x - magnitude rank| = |x - magnitude other| :=
    le_antisymm (hnear other hother') (hnear' rank hrank')
  have heven := h.even_of_tie hrank' other hother' (Ne.symm hne) htie
  have heven' := h'.even_of_tie hother' rank hrank' hne htie.symm
  -- The ranks are even, so there is an odd one between them, and its magnitude is nearer.
  rcases Nat.lt_or_gt_of_ne hne with hlt | hlt
  · have hbetween := nearer_of_tie (strictMono_magnitude (Nat.lt_succ_self rank))
      (strictMono_magnitude (show rank + 1 < other by omega)) htie
    exact absurd (hnear (rank + 1) (by omega)) (not_le.mpr hbetween)
  · have hbetween := nearer_of_tie (strictMono_magnitude (Nat.lt_succ_self other))
      (strictMono_magnitude (show other + 1 < rank by omega)) htie.symm
    exact absurd (hnear' (other + 1) (by omega)) (not_le.mpr hbetween)

end Binary64

/-- The digits of a numeral and its literal, for each number that a scan finds. -/
theorem exists_digits_of_number {source : String} {token : Token} (htoken : token ∈ (scan source).tokens)
    (hkind : token.kind = .number) :
    ∃ whole fraction, IsDigits whole ∧ (fraction = [] ∨ IsDigits fraction) ∧
      token.lexeme.toList = (Segment.number whole fraction).text ∧
      token.literal = some (.number (Decimal.ofParts false whole fraction 0).toBinary64) := by
  rcases (Token.wellFormed_scan source).isFound token htoken with hconsistent | ⟨line, rfl⟩
  · cases hconsistent with
    | number hnumeral hvalue =>
      obtain ⟨whole, fraction, hwhole, hfraction, htext⟩ := hnumeral.exists_parts
      refine ⟨whole, fraction, hwhole, hfraction, htext.symm, ?_⟩
      have hread := ofText?_numeral hwhole hfraction
      rw [htext, String.ofList_toList, hvalue] at hread
      rw [Option.some.inj hread]
    | fixed hfixed =>
      obtain rfl : _ = Kind.number := hkind
      exact absurd hfixed (by decide)
    | identifier | string => exact absurd hkind Kind.noConfusion
  · exact absurd hkind Kind.noConfusion

/-- **Number literals are decoded exactly.** The literal of every number in a source has no minus sign, and its rank is
the nearest one to the rational number that the lexeme denotes. -/
theorem literal_of_number {source : String} {token : Token} (htoken : token ∈ (scan source).tokens)
    (hkind : token.kind = .number) :
    ∃ rank, token.literal = some (.number (.signed false rank)) ∧
      Binary64.IsNearest (numeralValue token.lexeme.toList) rank.val := by
  obtain ⟨whole, fraction, hwhole, hfraction, htext, hliteral⟩ := exists_digits_of_number htoken hkind
  obtain ⟨rank, hrounds⟩ := (Decimal.ofParts false whole fraction 0).exists_roundsTo
  rw [Decimal.toBinary64_eq_ofRank hrounds] at hliteral
  rw [htext, numeralValue_number hwhole]
  exact ⟨_, hliteral, hrounds.isNearest⟩

/-- The literal of a number a hundredth above two to the 53 plus one, which lies halfway between two literals. -/
theorem literal_of_number_above_tie :
    ⟨.number, "9007199254740993.01", some (.number (.ofRank false 4845873199050653697)), 1⟩ ∈
        (scan "9007199254740993.01").tokens ∧
      ∃ rank, some (Literal.number (.ofRank false 4845873199050653697)) =
          some (Literal.number (.signed false rank)) ∧
        Binary64.IsNearest (numeralValue "9007199254740993.01".toList) rank.val := by
  have htoken : (⟨.number, "9007199254740993.01",
      some (.number (.ofRank false 4845873199050653697)), 1⟩ : Token) ∈
        (scan "9007199254740993.01").tokens := by decide +kernel
  exact ⟨htoken, literal_of_number htoken rfl⟩

end LoxLexer
