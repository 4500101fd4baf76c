import LoxLexer.Proofs.NumberLiterals
import LoxLexer.Proofs.ShortestDigits

/-!
# Printed numbers

A number is printed with its shortest digits, with or without an exponent part. This file shows that both forms are read
back as the number. Only the form without an exponent part is a numeral of the language. The layout of literals uses it
for the numbers from one ten-thousandth up to ten to the sixteenth.
-/

namespace LoxLexer

/-! ## Digits as text -/

theorem isDigits_toDigits (n : ℕ) : IsDigits (Nat.toDigits 10 n) :=
  ⟨Nat.toDigits_ne_nil, fun _ hc => isDigit_iff.mp (Nat.isDigit_of_mem_toDigits (by decide) (by decide) hc)⟩

theorem Decimal.value_toDigits (n : ℕ) : value (Nat.toDigits 10 n) = n := Nat.ofDigitChars_ten_toDigits

theorem Decimal.value_replicate_zero (n : ℕ) : value (List.replicate n '0') = 0 :=
  Nat.ofDigitChars_replicate_zero.trans (Nat.mul_zero _)

/-- Zeros in front of digits do not change their value. -/
theorem Decimal.value_replicate_append (n : ℕ) (digits : List Char) :
    value (List.replicate n '0' ++ digits) = value digits := by
  rw [value_append, value_replicate_zero, Nat.zero_mul, Nat.zero_add]

/-- Zeros behind digits multiply their value. -/
theorem Decimal.value_append_replicate (digits : List Char) (n : ℕ) :
    value (digits ++ List.replicate n '0') = value digits * 10 ^ n := by
  rw [value_append, value_replicate_zero, List.length_replicate, Nat.add_zero]

/-- Zeros may stand in front of digits or behind them. -/
theorem IsDigits.with_zeros {digits : List Char} (h : IsDigits digits) (n : ℕ) :
    IsDigits (List.replicate n '0' ++ digits) ∧ IsDigits (digits ++ List.replicate n '0') := by
  have hzero : ∀ c ∈ List.replicate n '0', IsDecimal c := by
    intro c hc
    rw [List.eq_of_mem_replicate hc]
    decide
  refine ⟨⟨by simp [h.1], fun c hc => ?_⟩, ⟨by simp [h.1], fun c hc => ?_⟩⟩
  · exact (List.mem_append.mp hc).elim (hzero c) (h.2 c)
  · exact (List.mem_append.mp hc).elim (h.2 c) (hzero c)

/-- Behind the first of some digits there may be more. -/
theorem IsDigits.tail {c : Char} {digits : List Char} (h : IsDigits (c :: digits)) :
    digits = [] ∨ IsDigits digits := by
  by_cases hempty : digits = []
  · exact .inl hempty
  · exact .inr ⟨hempty, fun d hd => h.2 d (List.mem_cons_of_mem c hd)⟩

/-- A numeral with a point denotes its digits, read as one number, at the place of the last one. -/
theorem numeralValue_point {whole fraction : List Char} (hwhole : IsDigits whole) (hfraction : IsDigits fraction) :
    numeralValue (whole ++ '.' :: fraction) =
      Decimal.value (whole ++ fraction) * 10 ^ (-fraction.length : ℤ) := by
  obtain ⟨d, fraction, rfl⟩ := List.exists_cons_of_ne_nil hfraction.1
  have hvalue := @numeralValue_number whole (d :: fraction) hwhole
  rwa [Segment.text, Decimal.magnitude, Decimal.ofParts, zero_sub] at hvalue

namespace Binary64

/-! ## Texts without an exponent part -/

/-- A point between two digits. -/
theorem fixedText_inside {digits : List Char} (hdigits : IsDigits digits) {place : ℕ}
    (hlong : place + 1 < digits.length) :
    IsNumeral (fixedText digits place) ∧
      numeralValue (fixedText digits place) = Decimal.value digits * 10 ^ (place + 1 - digits.length : ℤ) := by
  have hwhole : IsDigits (digits.take (place + 1)) := by
    refine ⟨?_, fun c hc => hdigits.2 c (List.mem_of_mem_take hc)⟩
    rw [← List.length_pos_iff, List.length_take]
    omega
  have hfraction : IsDigits (digits.drop (place + 1)) := by
    refine ⟨?_, fun c hc => hdigits.2 c (List.mem_of_mem_drop hc)⟩
    rw [← List.length_pos_iff, List.length_drop]
    omega
  have htext : fixedText digits place = digits.take (place + 1) ++ '.' :: digits.drop (place + 1) := by
    have hzeros : place + 1 - digits.length = 0 := by omega
    have hnonempty : (digits.drop (place + 1)).isEmpty = false := by simpa using hfraction.1
    rw [← Int.ofNat_eq_natCast, fixedText, hzeros, hnonempty]
    simp
  have hexponent : (-(digits.length - (place + 1) : ℕ) : ℤ) = place + 1 - digits.length := by omega
  rw [htext, numeralValue_point hwhole hfraction, List.take_append_drop, List.length_drop, hexponent]
  exact ⟨.point hwhole hfraction, rfl⟩

/-- Zeros up to the point, and one behind it. -/
theorem fixedText_padded {digits : List Char} (hdigits : IsDigits digits) {place : ℕ}
    (hshort : digits.length ≤ place + 1) :
    IsNumeral (fixedText digits place) ∧
      numeralValue (fixedText digits place) = Decimal.value digits * 10 ^ (place + 1 - digits.length : ℤ) := by
  have hwhole := (hdigits.with_zeros (place + 1 - digits.length)).2
  have hfraction : IsDigits ['0'] := isDigits_cons (by decide) (by simp)
  have htext : fixedText digits place =
      digits ++ List.replicate (place + 1 - digits.length) '0' ++ '.' :: ['0'] := by
    rw [← Int.ofNat_eq_natCast, fixedText, List.drop_eq_nil_of_le hshort, List.take_of_length_le hshort]
    rfl
  have hvalue : Decimal.value (digits ++ List.replicate (place + 1 - digits.length) '0' ++ ['0']) =
      Decimal.value digits * 10 ^ (place + 1 - digits.length) * 10 := by
    rw [Decimal.value_append, Decimal.value_append_replicate]
    rfl
  have hexponent : (place + 1 - digits.length : ℤ) = (place + 1 - digits.length : ℕ) := by omega
  rw [htext, numeralValue_point hwhole hfraction, hvalue, hexponent, zpow_natCast, List.length_singleton]
  refine ⟨.point hwhole hfraction, ?_⟩
  push_cast
  rw [zpow_neg_one, mul_inv_cancel_right₀ (by norm_num)]

/-- Zeros between the point and the digits. -/
theorem fixedText_small {digits : List Char} (hdigits : IsDigits digits) (place : ℕ) :
    IsNumeral (fixedText digits (.negSucc place)) ∧
      numeralValue (fixedText digits (.negSucc place)) =
        Decimal.value digits * 10 ^ (Int.negSucc place + 1 - digits.length) := by
  have hwhole : IsDigits ['0'] := isDigits_cons (by decide) (by simp)
  have hfraction := (hdigits.with_zeros place).1
  have htext : fixedText digits (.negSucc place) = ['0'] ++ '.' :: (List.replicate place '0' ++ digits) := rfl
  have hvalue : Decimal.value (['0'] ++ (List.replicate place '0' ++ digits)) = Decimal.value digits :=
    Decimal.value_replicate_append (place + 1) digits
  have hexponent : (-(place + digits.length : ℕ) : ℤ) = Int.negSucc place + 1 - digits.length := by
    rw [Int.negSucc_eq]
    omega
  rw [htext, numeralValue_point hwhole hfraction, hvalue, List.length_append, List.length_replicate, hexponent]
  exact ⟨.point hwhole hfraction, rfl⟩

/-- A text without an exponent part is a numeral for its digits with the first one at the given place. -/
theorem numeralValue_fixedText {digits : List Char} (hdigits : IsDigits digits) (place : ℤ) :
    IsNumeral (fixedText digits place) ∧
      numeralValue (fixedText digits place) = Decimal.value digits * 10 ^ (place + 1 - digits.length) := by
  cases place with
  | ofNat place =>
    rcases Nat.lt_or_ge (place + 1) digits.length with hlong | hshort
    · exact fixedText_inside hdigits hlong
    · exact fixedText_padded hdigits hshort
  | negSucc place => exact fixedText_small hdigits place

/-! ## Texts with an exponent part -/

/-- A text with an exponent part is a numeral with one digit in front of the point, followed by the exponent part. -/
theorem scientificText_cons (layout : Layout) (first : Char) (fraction : List Char) (place : ℤ) :
    scientificText layout (first :: fraction) place = (Segment.number [first] fraction).text ++
      'e' :: (if place < 0 then '-' else '+') ::
        padZeros layout.exponentDigits (Nat.toDigits 10 place.natAbs) := by
  cases fraction <;> rfl

/-- An exponent part starts with a letter, so it does not belong to the numeral in front of it. -/
theorem head_exponent (rest : List Char) : ∀ d ∈ ('e' :: rest).head?, ¬ IsDecimal d ∧ d ≠ '.' := by
  simp only [List.head?_cons, Option.mem_some_iff, forall_eq']
  decide

/-- An exponent part is read back. -/
theorem readExponent?_padZeros (width : ℕ) (place : ℤ) :
    Decimal.readExponent? ('e' :: (if place < 0 then '-' else '+') ::
      padZeros width (Nat.toDigits 10 place.natAbs)) = some place := by
  have hdigits := ((isDigits_toDigits place.natAbs).with_zeros
    (width - (Nat.toDigits 10 place.natAbs).length)).1
  have hvalue : Decimal.value (padZeros width (Nat.toDigits 10 place.natAbs)) = place.natAbs := by
    rw [padZeros, Decimal.value_replicate_append, Decimal.value_toDigits]
  rw [← padZeros] at hdigits
  generalize padZeros width (Nat.toDigits 10 place.natAbs) = digits at hdigits hvalue ⊢
  have hempty : digits.isEmpty = false := by simpa using hdigits.1
  have hall : digits.all Char.isDigit = true := List.all_eq_true.mpr fun c hc => isDigit_iff.mpr (hdigits.2 c hc)
  by_cases hnegative : place < 0
  · have hplace : -(place.natAbs : ℤ) = place := by omega
    simp only [hnegative, if_true, Decimal.readExponent?, Decimal.takeSign, hempty, hall, hvalue, hplace,
      decide_true, Bool.true_or, Bool.not_false, Bool.and_true]
  · have hplace : (place.natAbs : ℤ) = place := by omega
    simp only [hnegative, if_false, Decimal.readExponent?, Decimal.takeSign, hempty, hall, hvalue, hplace,
      decide_true, Bool.true_or, Bool.not_false, Bool.and_true, if_true, Bool.false_eq_true]

/-- A text with an exponent part consists of digits, a point, the letter for the exponent and a sign. -/
theorem mem_scientificText {layout : Layout} {digits : List Char} (hdigits : IsDigits digits) {place : ℤ} {c : Char}
    (hc : c ∈ scientificText layout digits place) : IsDecimal c ∨ c ∈ ['.', 'e', '+', '-'] := by
  obtain ⟨first, fraction, rfl⟩ := List.exists_cons_of_ne_nil hdigits.1
  have hwhole : IsDigits [first] := isDigits_cons (hdigits.2 first (by simp)) (by simp)
  have hpadded := ((isDigits_toDigits place.natAbs).with_zeros
    (layout.exponentDigits - (Nat.toDigits 10 place.natAbs).length)).1
  rw [scientificText_cons] at hc
  rcases List.mem_append.mp hc with hmantissa | hexponent
  · rcases isDecimal_or_point_of_mem hwhole hdigits.tail hmantissa with hdecimal | rfl
    · exact .inl hdecimal
    · exact .inr (by simp)
  · rcases List.mem_cons.mp hexponent with rfl | hexponent
    · exact .inr (by simp)
    · rcases List.mem_cons.mp hexponent with rfl | hdigit
      · right
        split_ifs <;> simp
      · exact .inl (hpadded.2 c hdigit)

/-! ## Reading back -/

variable {rank : ℕ}

/-- A numeral is read as the number that it rounds to. -/
theorem ofText?_of_isNumeral {text : List Char} (h : IsNumeral text) (hrounds : RoundsTo (numeralValue text) rank) :
    ofText? (String.ofList text) = some (ofRank false rank) := by
  obtain ⟨whole, fraction, hwhole, hfraction, rfl⟩ := h.exists_parts
  rw [numeralValue_number hwhole] at hrounds
  rw [ofText?_numeral hwhole hfraction, Decimal.toBinary64_eq_ofRank hrounds]
  rfl

/-- A text with an exponent part is read as the number that its digits at their place round to. -/
theorem ofText?_scientificText (layout : Layout) {digits : List Char} (hdigits : IsDigits digits) {place : ℤ}
    (hrounds : RoundsTo (Decimal.value digits * 10 ^ (place + 1 - digits.length)) rank) :
    ofText? (String.ofList (scientificText layout digits place)) = some (ofRank false rank) := by
  obtain ⟨first, fraction, rfl⟩ := List.exists_cons_of_ne_nil hdigits.1
  have hfirst : IsDecimal first := hdigits.2 first (by simp)
  have hwhole : IsDigits [first] := isDigits_cons hfirst (by simp)
  have hread : Decimal.ofChars? (scientificText layout (first :: fraction) place) =
      some (Decimal.ofParts false [first] fraction place) := by
    rw [scientificText_cons, ofChars?_number_append hwhole hdigits.tail (head_exponent _), readExponent?_padZeros,
      Option.map_some]
  have hmagnitude : RoundsTo (Decimal.ofParts false [first] fraction place).magnitude rank := by
    have hplace : place - fraction.length = place + 1 - ((first :: fraction).length : ℤ) := by
      rw [List.length_cons]
      omega
    rwa [Decimal.magnitude, Decimal.ofParts, List.singleton_append, hplace]
  have hchars : ∀ c ∈ scientificText layout (first :: fraction) place, IsDecimal c ∨ c ∈ ['.', 'e', '+', '-'] :=
    fun c hc => mem_scientificText hdigits hc
  obtain ⟨rest, hcons⟩ : ∃ rest, scientificText layout (first :: fraction) place = first :: rest := by
    cases fraction <;> exact ⟨_, rfl⟩
  rw [hcons] at hread hchars ⊢
  rw [ofText?_of_isDecimal hfirst (fun c hc => hchars c (List.mem_cons_of_mem first hc)), hread, Option.map_some,
    Decimal.toBinary64_eq_ofRank hmagnitude]
  rfl

/-- The digits of a magnitude, at the place of the first one. -/
theorem value_toDigits_shortest (rank : ℕ) :
    Decimal.value (Nat.toDigits 10 (shortest rank).digits) *
        (10 : ℚ) ^ ((shortest rank).place + 1 - (Nat.toDigits 10 (shortest rank).digits).length) =
      (shortest rank).magnitude := by
  rw [Decimal.value_toDigits, Shortest.magnitude, Shortest.place]
  congr 2
  omega

/-- The two forms in which a magnitude is printed. -/
theorem magnitudeText_eq (layout : Layout) (rank : ℕ) :
    magnitudeText layout rank =
      if layout.fixedFrom ≤ (shortest rank).place ∧ (shortest rank).place < layout.fixedBelow then
        fixedText (Nat.toDigits 10 (shortest rank).digits) (shortest rank).place
      else scientificText layout (Nat.toDigits 10 (shortest rank).digits) (shortest rank).place := rfl

/-- What stands in a printed magnitude. -/
theorem mem_magnitudeText {layout : Layout} {c : Char} (hc : c ∈ magnitudeText layout rank) :
    IsDecimal c ∨ c ∈ ['.', 'e', '+', '-'] := by
  have hdigits := isDigits_toDigits (shortest rank).digits
  rw [magnitudeText_eq] at hc
  split_ifs at hc
  · obtain ⟨whole, fraction, hwhole, hfraction, htext⟩ :=
      (numeralValue_fixedText hdigits (shortest rank).place).1.exists_parts
    rw [← htext] at hc
    rcases isDecimal_or_point_of_mem hwhole hfraction hc with hdecimal | rfl
    · exact .inl hdecimal
    · exact .inr (by simp)
  · exact mem_scientificText hdigits hc

/-- A magnitude that is printed in any layout is read back. -/
theorem ofText?_magnitudeText (layout : Layout) (rank : ℕ) :
    ofText? (String.ofList (magnitudeText layout rank)) = some (ofRank false rank) := by
  have hdigits := isDigits_toDigits (shortest rank).digits
  have hrounds := roundsTo_shortest rank
  rw [← value_toDigits_shortest] at hrounds
  rw [magnitudeText_eq]
  split_ifs
  · obtain ⟨hnumeral, hvalue⟩ := numeralValue_fixedText hdigits (shortest rank).place
    rw [← hvalue] at hrounds
    exact ofText?_of_isNumeral hnumeral hrounds
  · exact ofText?_scientificText layout hdigits hrounds

/-- A positive finite number is printed as its magnitude. -/
theorem text_signed {rank : Fin (infiniteRank + 1)} (hpos : 0 < rank.val) (hfinite : rank.val < infiniteRank) :
    (signed false rank).text = String.ofList (magnitudeText literalLayout rank) := by
  simp only [text, textChars, hpos.ne', hfinite.ne, if_false, Bool.false_eq_true]

theorem ofRank_val (rank : Fin (infiniteRank + 1)) : ofRank false rank = signed false rank := by
  simp only [ofRank, Nat.min_eq_left (Nat.le_of_lt_succ rank.isLt)]

/-- A number without a minus sign is zero, infinity, or positive and finite. -/
theorem signed_cases (rank : Fin (infiniteRank + 1)) :
    signed false rank = zero false ∨ signed false rank = infinity false ∨
      0 < rank.val ∧ rank.val < infiniteRank := by
  have hle := Nat.le_of_lt_succ rank.isLt
  rcases Nat.eq_zero_or_pos rank.val with hzero | hpos
  · left
    rw [zero, ← hzero, ofRank_val]
  · right
    rcases Nat.lt_or_ge rank.val infiniteRank with hfinite | hinfinite
    · exact .inr ⟨hpos, hfinite⟩
    · left
      rw [infinity, ← Nat.le_antisymm hle hinfinite, ofRank_val]

/-- **Printed numbers can be read back.** -/
theorem ofText?_text (rank : Fin (infiniteRank + 1)) :
    ofText? (signed false rank).text = some (signed false rank) := by
  rcases signed_cases rank with hzero | hinfinite | ⟨hpos, hfinite⟩
  · rw [hzero]
    decide +kernel
  · rw [hinfinite]
    decide +kernel
  · rw [text_signed hpos hfinite, ofText?_magnitudeText, ofRank_val]

end Binary64

/-! ## Scanning printed numbers -/

open Binary64

variable {rank : ℕ}

/-- A scan of the text finds one number, which has the given value, and nothing else. -/
def ScansAsNumber (text : String) (value : Binary64) : Prop :=
  ∃ number line, (scan text).tokens = [number, Token.endOfInput line] ∧ (scan text).errors = [] ∧
    number.kind = .number ∧ number.literal = some (.number value)

/-- What a text yields that starts with a numeral. -/
theorem yieldOf_number_append {α : Type} (yield : ℕ → Segment → Option α) (line : ℕ) {whole fraction rest : List Char}
    (hwhole : IsDigits whole) (hfraction : fraction = [] ∨ IsDigits fraction)
    (hrest : ∀ d ∈ rest.head?, ¬ IsDecimal d ∧ d ≠ '.') :
    Segment.yieldOf yield line ((Segment.number whole fraction).text ++ rest) =
      (yield line (.number whole fraction)).toList ++
        Segment.yieldOf yield (line + (Segment.number whole fraction).newlines) rest :=
  yieldOf_append yield line (.number hwhole hfraction (longestPrefix_number hwhole hfraction hrest))

/-- A numeral scans as the number that it rounds to. -/
theorem scansAsNumber_of_isNumeral {text : List Char} (h : IsNumeral text)
    (hrounds : RoundsTo (numeralValue text) rank) :
    ScansAsNumber (String.ofList text) (ofRank false rank) := by
  obtain ⟨whole, fraction, hwhole, hfraction, rfl⟩ := h.exists_parts
  rw [numeralValue_number hwhole] at hrounds
  have hend : ∀ d ∈ ([] : List Char).head?, ¬ IsDecimal d ∧ d ≠ '.' := by simp
  have htokens := yieldOf_number_append Segment.token? 1 hwhole hfraction hend
  have herrors := yieldOf_number_append Segment.error? 1 hwhole hfraction hend
  rw [List.append_nil, yieldOf_nil, List.append_nil] at htokens herrors
  refine ⟨⟨.number, String.ofList (Segment.number whole fraction).text,
      some (.number (Decimal.ofParts false whole fraction 0).toBinary64), 1⟩,
    ((1 + (Segment.number whole fraction).text.count '\n' : ℕ) : ℤ), ?_, ?_, rfl, ?_⟩
  · rw [scan_tokens, String.toList_ofList, htokens]
    rfl
  · rw [scan_errors, String.toList_ofList, herrors]
    rfl
  · rw [Decimal.toBinary64_eq_ofRank hrounds]
    rfl

/-- An exponent part scans as a token of its own. -/
theorem not_scansAsNumber_scientificText (layout : Layout) {digits : List Char} (hdigits : IsDigits digits)
    (place : ℤ) (value : Binary64) :
    ¬ ScansAsNumber (String.ofList (scientificText layout digits place)) value := by
  rintro ⟨number, line, htokens, -⟩
  obtain ⟨first, fraction, rfl⟩ := List.exists_cons_of_ne_nil hdigits.1
  have hwhole : IsDigits [first] := isDigits_cons (hdigits.2 first (by simp)) (by simp)
  rw [scientificText_cons] at htokens
  generalize (if place < 0 then '-' else '+') ::
    padZeros layout.exponentDigits (Nat.toDigits 10 place.natAbs) = rest at htokens
  obtain ⟨chars, hword, -⟩ := cut_of_isLetter (show IsLetter 'e' by decide) rest
  rw [scan_tokens, String.toList_ofList, yieldOf_number_append _ _ hwhole hdigits.tail (head_exponent rest),
    yieldOf_cons, hword] at htokens
  have hlength := congrArg List.length htokens
  simp only [Segment.token?, Option.toList_some, List.length_append, List.length_cons, List.length_nil] at hlength
  omega

namespace Binary64

/-! ## The range without exponent parts -/

/-- The numbers that are printed without an exponent part: zero, and those from the number nearest to one ten-thousandth
up to ten to the sixteenth. -/
def InFixedRange (x : Binary64) : Prop :=
  x = zero false ∨ ∃ rank, x = signed false rank ∧
    magnitude (nearestRank 1 (10 ^ 4)) ≤ magnitude rank ∧ magnitude rank < 10 ^ 16

/-- Ten to the sixteenth is a binary64 number. -/
theorem magnitude_nearestRank_top : magnitude (nearestRank (10 ^ 16) 1) = 10 ^ 16 := by
  have hunits : units (nearestRank (10 ^ 16) 1) = 10 ^ 16 * unitsPerOne := by decide +kernel
  rw [magnitude_eq_units, hunits, Nat.cast_mul, mul_div_cancel_right₀ _ unitsPerOne_pos.ne', Nat.cast_pow,
    Nat.cast_ofNat]

/-- The place of the first digit decides whether a positive number is in the range. -/
theorem inFixedRange_iff {rank : Fin (infiniteRank + 1)} (hpos : 0 < rank.val) :
    (signed false rank).InFixedRange ↔
      literalLayout.fixedFrom ≤ (shortest rank).place ∧ (shortest rank).place < literalLayout.fixedBelow := by
  have hlow : RoundsTo (10 ^ (-4 : ℤ)) (nearestRank 1 (10 ^ 4)) := by
    have hrounds := roundsTo_nearestRank 1 (show 0 < 10 ^ 4 by decide)
    have hpower : ((1 : ℕ) : ℚ) / (10 ^ 4 : ℕ) = 10 ^ (-4 : ℤ) := by norm_num
    rwa [hpower] at hrounds
  have htop : RoundsTo (10 ^ (16 : ℤ)) (nearestRank (10 ^ 16) 1) := by
    have hrounds := roundsTo_magnitude (nearestRank (10 ^ 16) 1)
    rwa [magnitude_nearestRank_top] at hrounds
  have hbottom : literalLayout.fixedFrom ≤ (shortest rank).place ↔ nearestRank 1 (10 ^ 4) ≤ rank :=
    le_place_shortest_iff hpos hlow (by decide +kernel)
  have hbelow : literalLayout.fixedBelow ≤ (shortest rank).place ↔ nearestRank (10 ^ 16) 1 ≤ rank :=
    le_place_shortest_iff hpos htop (by decide +kernel)
  have hzero : signed false rank ≠ zero false := by
    intro h
    have hval : rank.val = 0 := congrArg Fin.val (signed.inj h).2
    omega
  rw [hbottom, ← not_le, hbelow, not_le, ← strictMono_magnitude.le_iff_le, ← strictMono_magnitude.lt_iff_lt,
    magnitude_nearestRank_top]
  constructor
  · rintro (h | ⟨_, h, hbounds⟩)
    · exact absurd h hzero
    · rwa [(signed.inj h).2]
  · intro hbounds
    exact .inr ⟨rank, rfl, hbounds⟩

theorem not_inFixedRange_infinity : ¬ (infinity false).InFixedRange := by
  have htop : magnitude (nearestRank (10 ^ 16) 1) ≤ magnitude infiniteRank :=
    strictMono_magnitude.monotone (by decide +kernel)
  rw [magnitude_nearestRank_top] at htop
  rintro (h | ⟨rank, h, -, hbelow⟩)
  · exact absurd h (by decide)
  · have hrank : rank.val = infiniteRank := (congrArg Fin.val (signed.inj h).2).symm
    rw [hrank] at hbelow
    exact absurd htop (not_le.mpr hbelow)

end Binary64

/-- The text of a number without a minus sign is a number of the language if and only if the number is in the range
without exponent parts. -/
theorem scansAsNumber_text_iff (rank : Fin (infiniteRank + 1)) :
    ScansAsNumber (signed false rank).text (signed false rank) ↔ (signed false rank).InFixedRange := by
  rcases signed_cases rank with hzero | hinfinite | ⟨hpos, hfinite⟩
  · have htokens : (scan (zero false).text).tokens =
        [⟨.number, "0.0", some (.number (zero false)), 1⟩, Token.endOfInput 1] := by decide +kernel
    have herrors : (scan (zero false).text).errors = [] := by decide +kernel
    rw [hzero]
    exact ⟨fun _ => .inl rfl, fun _ => ⟨_, _, htokens, herrors, rfl, rfl⟩⟩
  · have htokens : (scan (infinity false).text).tokens =
        [⟨.identifier, "inf", none, 1⟩, Token.endOfInput 1] := by decide +kernel
    rw [hinfinite]
    refine iff_of_false ?_ not_inFixedRange_infinity
    rintro ⟨number, line, hnumber, -, hkind, -⟩
    rw [htokens] at hnumber
    obtain rfl := (List.cons.inj hnumber).1
    exact absurd hkind (by decide)
  · have hdigits := isDigits_toDigits (shortest rank).digits
    have hrounds := roundsTo_shortest rank
    rw [← value_toDigits_shortest] at hrounds
    rw [inFixedRange_iff hpos, text_signed hpos hfinite, magnitudeText_eq]
    split_ifs with hfixed
    · obtain ⟨hnumeral, hvalue⟩ := numeralValue_fixedText hdigits (shortest rank).place
      rw [← hvalue] at hrounds
      have hscans := scansAsNumber_of_isNumeral hnumeral hrounds
      rw [ofRank_val] at hscans
      exact iff_of_true hscans hfixed
    · exact iff_of_false (not_scansAsNumber_scientificText literalLayout hdigits _ _) hfixed

/-- The numbers on both sides of the lower end of the range. -/
example : (ofRank false 4547007122018943788).text = "9.999999999999999e-05" ∧
    (ofRank false 4547007122018943789).text = "0.0001" := by decide +kernel

/-- **Printed number literals are faithful.** A number of a source is printed with its lexeme and the text of its
literal. This text is read back as the literal, and it scans as a number with the same literal if and only if the
literal is zero or in the range without exponent parts. -/
theorem printed_number_faithful {source : String} {token : Token} (htoken : token ∈ (scan source).tokens)
    (hkind : token.kind = .number) :
    ∃ value, token.literal = some (.number value) ∧
      token.render = "NUMBER " ++ token.lexeme ++ " " ++ value.text ∧
      Binary64.ofText? value.text = some value ∧
      (ScansAsNumber value.text value ↔ value.InFixedRange) := by
  obtain ⟨whole, fraction, -, -, -, hliteral⟩ := exists_digits_of_number htoken hkind
  obtain ⟨rank, hrounds⟩ := (Decimal.ofParts false whole fraction 0).exists_roundsTo
  rw [Decimal.toBinary64_eq_ofRank hrounds] at hliteral
  refine ⟨_, hliteral, ?_, ofText?_text _, scansAsNumber_text_iff _⟩
  rw [Token.render, hkind, hliteral]
  rfl

/-- The largest number below the range without exponent parts. -/
theorem printed_number_faithful_below_range :
    ⟨.number, "0.00009999999999999999", some (.number (.ofRank false 4547007122018943788)), 1⟩ ∈
        (scan "0.00009999999999999999").tokens ∧
      ∃ value, some (Literal.number (.ofRank false 4547007122018943788)) = some (Literal.number value) ∧
        Token.render ⟨.number, "0.00009999999999999999", some (.number (.ofRank false 4547007122018943788)), 1⟩ =
          "NUMBER " ++ "0.00009999999999999999" ++ " " ++ value.text ∧
        Binary64.ofText? value.text = some value ∧
        (ScansAsNumber value.text value ↔ value.InFixedRange) := by
  have htoken : (⟨.number, "0.00009999999999999999",
      some (.number (.ofRank false 4547007122018943788)), 1⟩ : Token) ∈
        (scan "0.00009999999999999999").tokens := by decide +kernel
  exact ⟨htoken, printed_number_faithful htoken rfl⟩

end LoxLexer
