import LoxLexer.Source.Segment
import Mathlib.Data.List.TakeWhile
import Mathlib.Tactic.ByContra

/-!
# Words, numerals and closing marks

The language gives words and numerals by regular expressions, of which a scan takes the longest
match, and lets strings and comments reach to the first occurrence of a closing mark. This file
states these notions without saying how a match is found. It then shows that a match followed by
a character that cannot continue it is the longest one, and that `splitComment` finds first occurrences.
-/

namespace LoxLexer

/-! ## Characters -/

/-- The characters `[A-Za-z_]`. -/
def IsLetter (c : Char) : Prop := ('A' ≤ c ∧ c ≤ 'Z') ∨ ('a' ≤ c ∧ c ≤ 'z') ∨ c = '_'

/-- The characters `[0-9]`. -/
def IsDecimal (c : Char) : Prop := '0' ≤ c ∧ c ≤ '9'

/-- The characters `[A-Za-z0-9_]`. -/
def IsWordPart (c : Char) : Prop := IsLetter c ∨ IsDecimal c

instance : DecidablePred IsLetter := fun _ => inferInstanceAs (Decidable (_ ∨ _))

instance : DecidablePred IsDecimal := fun _ => inferInstanceAs (Decidable (_ ∧ _))

instance : DecidablePred IsWordPart := fun _ => inferInstanceAs (Decidable (_ ∨ _))

/-- The test for the first character of a word accepts the letters. -/
theorem startsWord_iff {c : Char} : Segment.startsWord c = true ↔ IsLetter c := by
  have hupper : c.isUpper = decide ('A' ≤ c ∧ c ≤ 'Z') := rfl
  have hlower : c.isLower = (decide ('a' ≤ c) && decide (c ≤ 'z')) := rfl
  have halpha : c.isAlpha = (c.isUpper || c.isLower) := rfl
  simp only [Segment.startsWord, halpha, hupper, hlower, IsLetter, Bool.or_eq_true, Bool.and_eq_true,
    decide_eq_true_eq, or_assoc]

/-- The core library's test for a digit accepts the ASCII digits and nothing else. -/
theorem isDigit_iff {c : Char} : c.isDigit = true ↔ IsDecimal c := by
  have hdigit : c.isDigit = (decide ('0' ≤ c) && decide (c ≤ '9')) := rfl
  simp only [hdigit, IsDecimal, Bool.and_eq_true, decide_eq_true_eq]

/-- The test for a later character of a word accepts letters and digits. -/
theorem continuesWord_iff {c : Char} : Segment.continuesWord c = true ↔ IsWordPart c := by
  simp only [Segment.continuesWord, Bool.or_eq_true, startsWord_iff, isDigit_iff, IsWordPart]

/-- No character is both a letter and a digit. -/
theorem IsLetter.not_isDecimal {c : Char} (hletter : IsLetter c) : ¬ IsDecimal c := by
  rintro ⟨hlow, hhigh⟩
  simp only [IsLetter, Char.le_def, UInt32.le_iff_toNat_le] at *
  rcases hletter with ⟨h, _⟩ | ⟨h, _⟩ | rfl
  · exact absurd (Nat.le_trans h hhigh) (by decide)
  · exact absurd (Nat.le_trans h hhigh) (by decide)
  · exact absurd hhigh (by decide)

/-! ## Words and numerals -/

/-- The words `[A-Za-z_][A-Za-z0-9_]*`. -/
def IsWord : List Char → Prop
  | [] => False
  | c :: cs => IsLetter c ∧ ∀ d ∈ cs, IsWordPart d

instance : DecidablePred IsWord
  | [] => isFalse id
  | c :: cs => decidable_of_iff (IsLetter c ∧ cs.all (fun d => decide (IsWordPart d)) = true) <| by
      simp only [List.all_eq_true, decide_eq_true_eq, IsWord]

/-- The digit strings `[0-9]+`. -/
def IsDigits (cs : List Char) : Prop := cs ≠ [] ∧ ∀ c ∈ cs, IsDecimal c

/-- A digit in front of digits, of which there may be none. -/
theorem isDigits_cons {c : Char} {cs : List Char} (hc : IsDecimal c) (hcs : ∀ d ∈ cs, IsDecimal d) :
    IsDigits (c :: cs) := by
  constructor
  · simp
  · intro d hd
    rcases List.mem_cons.mp hd with rfl | hd
    · exact hc
    · exact hcs d hd

/-- The numerals `[0-9]+([.][0-9]+)?`. -/
inductive IsNumeral : List Char → Prop
  /-- Digits alone. -/
  | whole {digits : List Char} : IsDigits digits → IsNumeral digits
  /-- Digits on both sides of a point. -/
  | point {digits fraction : List Char} :
      IsDigits digits → IsDigits fraction → IsNumeral (digits ++ '.' :: fraction)

/-- `part` is the longest prefix of a text that belongs to a class. -/
structure LongestPrefix (Class : List Char → Prop) (text part : List Char) : Prop where
  /-- The text starts with the part. -/
  starts : part <+: text
  /-- The part belongs to the class. -/
  member : Class part
  /-- No longer prefix of the text does. -/
  longest : ∀ other, other <+: text → Class other → other.length ≤ part.length

/-- A text has only one longest prefix in a class. -/
theorem LongestPrefix.unique {Class : List Char → Prop} {text part part' : List Char}
    (h : LongestPrefix Class text part) (h' : LongestPrefix Class text part') : part = part' := by
  have hle := h.longest part' h'.starts h'.member
  have hle' := h'.longest part h.starts h.member
  exact (List.prefix_of_prefix_length_le h.starts h'.starts hle').eq_of_length (by omega)

/-- A prefix in a class is the longest one if no prefix that goes on behind it is in the class. -/
theorem longestPrefix_of_not_append {Class : List Char → Prop} {part rest : List Char}
    (hmember : Class part)
    (hstop : ∀ d more, (d :: more) <+: rest → ¬ Class (part ++ d :: more)) :
    LongestPrefix Class (part ++ rest) part := by
  refine ⟨List.prefix_append part rest, hmember, ?_⟩
  intro other hother hclass
  by_contra hlonger
  obtain ⟨beyond, rfl⟩ := List.prefix_of_prefix_length_le (List.prefix_append part rest) hother
    (by omega)
  rw [List.prefix_append_right_inj] at hother
  cases beyond with
  | nil => simp at hlonger
  | cons d more => exact hstop d more hother hclass

/-- A word is the longest one if a character follows that is no part of a word. -/
theorem longestPrefix_isWord {chars rest : List Char} (hword : IsWord chars)
    (hrest : ∀ d ∈ rest.head?, ¬ IsWordPart d) : LongestPrefix IsWord (chars ++ rest) chars := by
  apply longestPrefix_of_not_append hword
  intro d more hmore hlonger
  cases chars with
  | nil => exact hword
  | cons c cs =>
    obtain ⟨tail, rfl⟩ := hmore
    exact hrest d (by simp) (hlonger.2 d (by simp))

/-- Digits are the longest run of digits if no digit follows them. -/
theorem takeWhile_digits {digits rest : List Char} (hdigits : ∀ c ∈ digits, IsDecimal c)
    (hrest : ∀ d ∈ rest.head?, ¬ IsDecimal d) :
    (digits ++ rest).takeWhile Char.isDigit = digits := by
  rw [List.takeWhile_append_of_pos fun c hc => isDigit_iff.mpr (hdigits c hc)]
  cases rest with
  | nil => simp
  | cons d rest =>
    have hd : ¬ d.isDigit = true := fun h => hrest d rfl (isDigit_iff.mp h)
    simp [hd]

/-- The point that a numeral may have after its first digits stands behind all of them. -/
theorem isNumeral_digits_append {digits rest : List Char} (hdigits : ∀ c ∈ digits, IsDecimal c)
    (hrest : ∀ d ∈ rest.head?, ¬ IsDecimal d) (hnumeral : IsNumeral (digits ++ rest)) :
    rest = [] ∨ ∃ fraction, IsDigits fraction ∧ rest = '.' :: fraction := by
  have htake := takeWhile_digits hdigits hrest
  generalize htext : digits ++ rest = text at hnumeral htake
  cases hnumeral with
  | whole h =>
    left
    rw [List.takeWhile_eq_self_iff.mpr fun c hc => isDigit_iff.mpr (h.2 c hc)] at htake
    simpa [htake] using htext
  | @point digits' fraction h hfraction =>
    right
    have hpoint : ¬ IsDecimal '.' := by decide
    rw [takeWhile_digits h.2 (by simpa using hpoint)] at htake
    exact ⟨fraction, hfraction, by simpa [htake] using htext⟩

/-- Digits are the longest numeral if neither a digit follows nor a point with a digit behind it. -/
theorem longestPrefix_whole {digits rest : List Char} (hdigits : IsDigits digits)
    (hrest : ∀ d ∈ rest.head?, ¬ IsDecimal d)
    (hpoint : ∀ d more, rest = '.' :: d :: more → ¬ IsDecimal d) :
    LongestPrefix IsNumeral (digits ++ rest) digits := by
  apply longestPrefix_of_not_append (.whole hdigits)
  intro d more hmore hlonger
  obtain ⟨tail, rfl⟩ := hmore
  rcases isNumeral_digits_append hdigits.2 (by simpa using hrest) hlonger with
    hnil | ⟨fraction, ⟨hne, hfraction⟩, heq⟩
  · simp at hnil
  · cases fraction with
    | nil => exact hne rfl
    | cons f fs =>
      obtain ⟨rfl, rfl⟩ := List.cons.inj heq
      exact hpoint f (fs ++ tail) rfl (hfraction f (by simp))

/-- Digits on both sides of a point are the longest numeral if no digit follows them. -/
theorem longestPrefix_point {digits fraction rest : List Char} (hdigits : IsDigits digits)
    (hfraction : IsDigits fraction) (hrest : ∀ d ∈ rest.head?, ¬ IsDecimal d) :
    LongestPrefix IsNumeral (digits ++ '.' :: fraction ++ rest) (digits ++ '.' :: fraction) := by
  have hpoint : ¬ IsDecimal '.' := by decide
  apply longestPrefix_of_not_append (.point hdigits hfraction)
  intro d more hmore hlonger
  obtain ⟨tail, rfl⟩ := hmore
  rw [List.append_assoc] at hlonger
  rcases isNumeral_digits_append hdigits.2 (by simpa using hpoint) hlonger with
    hnil | ⟨fraction', hfraction', heq⟩
  · simp at hnil
  · obtain rfl : fraction ++ d :: more = fraction' := by simpa using heq
    exact hrest d (by simp) (hfraction'.2 d (by simp))

/-! ## Closing marks -/

/-- `before` is what a text holds in front of the first occurrence of a mark. -/
structure BeforeFirst (mark text before : List Char) : Prop where
  /-- The mark stands behind it. -/
  occurs : before ++ mark <+: text
  /-- The mark stands nowhere earlier. -/
  first : ∀ other, other ++ mark <+: text → before.length ≤ other.length

/-- What a text holds in front of the first occurrence of a mark is one text only. -/
theorem BeforeFirst.unique {mark text before before' : List Char}
    (h : BeforeFirst mark text before) (h' : BeforeFirst mark text before') : before = before' := by
  have hle := h.first before' h'.occurs
  have hle' := h'.first before h.occurs
  have hstarts := (List.prefix_append before mark).trans h.occurs
  have hstarts' := (List.prefix_append before' mark).trans h'.occurs
  exact (List.prefix_of_prefix_length_le hstarts hstarts' hle).eq_of_length (by omega)

/-- A mark of one character occurs first where no such character stands in front of it. -/
theorem beforeFirst_singleton_iff {c : Char} {text before : List Char} :
    BeforeFirst [c] text before ↔ c ∉ before ∧ ∃ after, text = before ++ c :: after := by
  constructor
  · rintro ⟨⟨after, rfl⟩, hfirst⟩
    refine ⟨?_, after, by simp⟩
    intro hmem
    obtain ⟨earlier, later, rfl⟩ := List.append_of_mem hmem
    have hle := hfirst earlier ⟨later ++ [c] ++ after, by simp⟩
    simp only [List.length_append, List.length_cons] at hle
    omega
  · rintro ⟨hmem, after, rfl⟩
    refine ⟨⟨after, by simp⟩, ?_⟩
    intro other hother
    by_contra hshorter
    have hinside : other ++ [c] <+: before := by
      refine List.prefix_of_prefix_length_le hother (List.prefix_append before _) ?_
      simp only [List.length_append, List.length_cons, List.length_nil]
      omega
    exact hmem (hinside.subset (by simp))

/-- The end of a comment stands behind a text for the first time if it does not occur in the text. -/
theorem beforeFirst_commentEnd_iff {body : List Char} :
    BeforeFirst ['*', '/'] (body ++ ['*', '/']) body ↔ ¬ ['*', '/'] <:+: body := by
  constructor
  · rintro ⟨_, hfirst⟩ ⟨earlier, later, rfl⟩
    have hle := hfirst earlier ⟨later ++ ['*', '/'], by simp⟩
    simp only [List.length_append, List.length_cons] at hle
    omega
  · intro hinside
    refine ⟨List.prefix_rfl, ?_⟩
    intro other hother
    have hends : body ++ ['*', '/'] = body ++ ['*'] ++ ['/'] := by simp
    rw [hends, List.prefix_concat_iff] at hother
    rcases hother with hall | hother
    · have hlength := congrArg List.length hall
      simp only [List.length_append, List.length_cons, List.length_nil] at hlength
      omega
    rcases List.prefix_concat_iff.mp hother with hstar | hearlier
    · have hlast := congrArg List.getLast? hstar
      simp at hlast
    · exact absurd ((List.suffix_append other ['*', '/']).isInfix.trans hearlier.isInfix) hinside

end LoxLexer
