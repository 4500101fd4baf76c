import LoxLexer.Proofs.CutSemantics
import Mathlib.Tactic.IntervalCases

/-!
# The value of a numeral

The value of a number in the source is computed from its digits. `Binary64.ofText?` reads any text as a
number: it allows blanks, signs, exponents, names of numbers and the digits of other scripts. On
the numerals of the language the two agree.
-/

namespace LoxLexer

/-- There are ten digits. -/
theorem IsDecimal.mem_digits {c : Char} (hc : IsDecimal c) :
    c ∈ ['0', '1', '2', '3', '4', '5', '6', '7', '8', '9'] := by
  obtain ⟨hlow, hhigh⟩ := hc
  have hlow' : 48 ≤ c.toNat := hlow
  have hhigh' : c.toNat ≤ 57 := hhigh
  rw [← Char.ofNat_toNat c]
  generalize c.toNat = n at hlow' hhigh'
  interval_cases n <;> decide

/-- The characters that decimal numbers are written with are no blanks and their own ASCII digits. -/
theorem decimal_char {c : Char} (hc : IsDecimal c ∨ c ∈ ['.', 'e', '+', '-']) :
    Text.isBlank c = false ∧ Text.toAsciiDigit c = c := by
  have hall : ∀ d ∈ ['0', '1', '2', '3', '4', '5', '6', '7', '8', '9'] ++ ['.', 'e', '+', '-'],
      Text.isBlank d = false ∧ Text.toAsciiDigit d = d :=
    List.forall_iff_forall_mem.mp (by decide)
  apply hall
  rcases hc with hc | hc
  · exact List.mem_append_left _ hc.mem_digits
  · exact List.mem_append_right _ hc

/-- A digit is no sign and no letter. -/
theorem IsDecimal.ne_sign {c : Char} (hc : IsDecimal c) : c ≠ '-' ∧ c ≠ '+' ∧ c.toLower = c := by
  have hall : ∀ d ∈ ['0', '1', '2', '3', '4', '5', '6', '7', '8', '9'],
      d ≠ '-' ∧ d ≠ '+' ∧ d.toLower = d :=
    List.forall_iff_forall_mem.mp (by decide)
  exact hall c hc.mem_digits

/-- The names of numbers start with a letter. -/
theorem not_isDecimal_of_name {d : Char} {rest : List Char}
    (hname : String.ofList (d :: rest) ∈ ["inf", "infinity", "nan"]) : ¬ IsDecimal d := by
  have hletter : ∀ name ∈ ["inf", "infinity", "nan"], IsLetter (name.toList.headD '.') :=
    List.forall_iff_forall_mem.mp (by decide)
  have hd : IsLetter d := by simpa using hletter _ hname
  exact hd.not_isDecimal

/-- A text without blanks has none at its ends. -/
theorem trimBlanks_of_not_isBlank {text : List Char} (h : ∀ c ∈ text, Text.isBlank c = false) :
    Text.trimBlanks text = text := by
  have hkeep : ∀ {cs : List Char}, (∀ c ∈ cs, Text.isBlank c = false) →
      cs.dropWhile Text.isBlank = cs := by
    intro cs hcs
    cases cs with
    | nil => rfl
    | cons c cs => simp [hcs c]
  rw [Text.trimBlanks, hkeep h, hkeep fun c hc => h c (List.mem_reverse.mp hc), List.reverse_reverse]

/-- A numeral is made up of digits before the point and, if there is a point, digits behind it. -/
theorem IsNumeral.exists_parts {text : List Char} (h : IsNumeral text) :
    ∃ whole fraction, IsDigits whole ∧ (fraction = [] ∨ IsDigits fraction) ∧
      (Segment.number whole fraction).text = text := by
  cases h with
  | whole hdigits => exact ⟨_, [], hdigits, .inl rfl, rfl⟩
  | @point digits fraction hdigits hfraction =>
    obtain ⟨d, fraction, rfl⟩ := List.exists_cons_of_ne_nil hfraction.1
    exact ⟨digits, d :: fraction, hdigits, .inr hfraction, rfl⟩

/-- A numeral is the longest one if neither a digit nor a point follows it. -/
theorem longestPrefix_number {whole fraction rest : List Char} (hwhole : IsDigits whole)
    (hfraction : fraction = [] ∨ IsDigits fraction)
    (hrest : ∀ d ∈ rest.head?, ¬ IsDecimal d ∧ d ≠ '.') :
    LongestPrefix IsNumeral ((Segment.number whole fraction).text ++ rest)
      (Segment.number whole fraction).text := by
  have hdecimal : ∀ d ∈ rest.head?, ¬ IsDecimal d := fun d hd => (hrest d hd).1
  cases fraction with
  | nil =>
    apply longestPrefix_whole hwhole hdecimal
    intro d more hpoint
    exact absurd rfl (hrest '.' (by simp [hpoint])).2
  | cons d fraction =>
    exact longestPrefix_point hwhole (hfraction.resolve_left (by simp)) hdecimal

/-- A text that starts with a digit is read as one without a sign. -/
theorem takeSign_cons {d : Char} (hd : IsDecimal d) (rest : List Char) :
    Decimal.takeSign (d :: rest) = (false, d :: rest) := by
  obtain ⟨hminus, hplus, _⟩ := hd.ne_sign
  unfold Decimal.takeSign
  split <;> simp_all

/-- A numeral in front of an exponent part is read as its digits before and behind the point. -/
theorem ofChars?_number_append {whole fraction tail : List Char} (hwhole : IsDigits whole)
    (hfraction : fraction = [] ∨ IsDigits fraction) (htail : ∀ d ∈ tail.head?, ¬ IsDecimal d ∧ d ≠ '.') :
    Decimal.ofChars? ((Segment.number whole fraction).text ++ tail) =
      (Decimal.readExponent? tail).map (Decimal.ofParts false whole fraction) := by
  obtain ⟨d, digits, rfl⟩ := List.exists_cons_of_ne_nil hwhole.1
  have hd : IsDecimal d := hwhole.2 d (by simp)
  have hsign := takeSign_cons hd
  have htail' : ∀ c ∈ tail.head?, ¬ IsDecimal c := fun c hc => (htail c hc).1
  have hempty : (d :: digits).isEmpty = false := rfl
  cases fraction with
  | nil =>
    have htake := takeWhile_digits hwhole.2 htail'
    have hdrop := Segment.dropWhile_digits hwhole.2 htail'
    rw [List.cons_append] at htake hdrop
    simp only [Decimal.ofChars?, Segment.text, List.cons_append, hsign, htake, hdrop, hempty, Bool.false_and,
      Bool.false_eq_true, if_false]
    split
    · next rest => exact absurd rfl (htail '.' (by simp)).2
    · rfl
  | cons f fraction =>
    have hpoint : ∀ c ∈ ('.' :: f :: fraction ++ tail).head?, ¬ IsDecimal c := by
      simp only [List.cons_append, List.head?_cons, Option.mem_some_iff, forall_eq']
      decide
    have hdigits : IsDigits (f :: fraction) := hfraction.resolve_left (by simp)
    have htake := takeWhile_digits hwhole.2 hpoint
    have hdrop := Segment.dropWhile_digits hwhole.2 hpoint
    have htake' := takeWhile_digits hdigits.2 htail'
    have hdrop' := Segment.dropWhile_digits hdigits.2 htail'
    simp only [List.cons_append] at htake hdrop htake' hdrop'
    simp only [Decimal.ofChars?, Segment.text, List.append_assoc, List.cons_append, hsign, htake, hdrop, htake',
      hdrop', hempty, Bool.false_and, Bool.false_eq_true, if_false]

/-- A numeral is read as its digits before and behind the point. -/
theorem ofChars?_numeral {whole fraction : List Char} (hwhole : IsDigits whole)
    (hfraction : fraction = [] ∨ IsDigits fraction) :
    Decimal.ofChars? (Segment.number whole fraction).text =
      some (Decimal.ofParts false whole fraction 0) := by
  have hend : ∀ d ∈ ([] : List Char).head?, ¬ IsDecimal d ∧ d ≠ '.' := by simp
  have hread := ofChars?_number_append hwhole hfraction hend
  rwa [List.append_nil] at hread

/-- The characters of a numeral are digits and points. -/
theorem isDecimal_or_point_of_mem {whole fraction : List Char} (hwhole : IsDigits whole)
    (hfraction : fraction = [] ∨ IsDigits fraction) {c : Char}
    (hc : c ∈ (Segment.number whole fraction).text) : IsDecimal c ∨ c = '.' := by
  cases fraction with
  | nil => exact .inl (hwhole.2 c hc)
  | cons d fraction =>
    have hdigits : IsDigits (d :: fraction) := hfraction.resolve_left (by simp)
    rcases List.mem_append.mp hc with hc | hc
    · exact .inl (hwhole.2 c hc)
    · rcases List.mem_cons.mp hc with rfl | hc
      · exact .inr rfl
      · exact .inl (hdigits.2 c hc)

/-- A text that starts with a digit is read as a decimal number. -/
theorem ofText?_of_isDecimal {d : Char} {rest : List Char} (hd : IsDecimal d)
    (hrest : ∀ c ∈ rest, IsDecimal c ∨ c ∈ ['.', 'e', '+', '-']) :
    Binary64.ofText? (String.ofList (d :: rest)) =
      (Decimal.ofChars? (d :: rest)).map Decimal.toBinary64 := by
  have hchars : ∀ c ∈ d :: rest, Text.isBlank c = false ∧ Text.toAsciiDigit c = c := by
    intro c hc
    rcases List.mem_cons.mp hc with rfl | hc
    · exact decimal_char (.inl hd)
    · exact decimal_char (hrest c hc)
  have htrim : Text.trimBlanks (d :: rest) = d :: rest :=
    trimBlanks_of_not_isBlank fun c hc => (hchars c hc).1
  have hascii : (d :: rest).map Text.toAsciiDigit = d :: rest :=
    (List.map_congr_left fun c hc => (hchars c hc).2).trans (List.map_id' _)
  have hsign := takeSign_cons hd rest
  have hname : ∀ name ∈ ["inf", "infinity", "nan"],
      (String.ofList ((d :: rest).map Char.toLower) == name) = false := by
    intro name hname
    rw [beq_eq_false_iff_ne]
    rintro rfl
    rw [List.map_cons, hd.ne_sign.2.2] at hname
    exact not_isDecimal_of_name hname hd
  have hinf := hname "inf" (by simp)
  have hinfinity := hname "infinity" (by simp)
  have hnan := hname "nan" (by simp)
  simp only [Binary64.ofText?, String.toList_ofList, htrim, hascii, hsign, hinf, hinfinity,
    hnan, Bool.or_self, Bool.false_eq_true, if_false]

/-- Reading a numeral as a text gives the value that is computed from its digits. -/
theorem ofText?_numeral {whole fraction : List Char} (hwhole : IsDigits whole)
    (hfraction : fraction = [] ∨ IsDigits fraction) :
    Binary64.ofText? (String.ofList (Segment.number whole fraction).text) =
      some (Decimal.ofParts false whole fraction 0).toBinary64 := by
  have hread := ofChars?_numeral hwhole hfraction
  have hchars : ∀ c ∈ (Segment.number whole fraction).text, IsDecimal c ∨ c ∈ ['.', 'e', '+', '-'] := by
    intro c hc
    rcases isDecimal_or_point_of_mem hwhole hfraction hc with hc | rfl
    · exact .inl hc
    · exact .inr (by simp)
  obtain ⟨d, rest, htext, hd⟩ : ∃ d rest, (Segment.number whole fraction).text = d :: rest ∧ IsDecimal d := by
    obtain ⟨d, digits, rfl⟩ := List.exists_cons_of_ne_nil hwhole.1
    cases fraction <;> exact ⟨d, _, rfl, hwhole.2 d (by simp)⟩
  rw [htext] at hread hchars ⊢
  rw [ofText?_of_isDecimal hd (fun c hc => hchars c (List.mem_cons_of_mem d hc)), hread, Option.map_some]

end LoxLexer
