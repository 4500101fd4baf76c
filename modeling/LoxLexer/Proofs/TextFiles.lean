import LoxLexer.File.Tree
import LoxLexer.Proofs.LineEndings
import Mathlib.Tactic.IntervalCases

/-!
# Texts in files

Decoding undoes encoding, whatever characters a text has, and it accepts no bytes but the encodings of texts. So
every text can stand in a file, and a program that reads a file finds a text there if and only if the file
holds the bytes of one, which is the text that it finds, but for its carriage returns.
-/

namespace LoxLexer

namespace Text

/-! ## Lead bytes

A lead byte is a mark for the number of bytes with the first bits of the character added to it. -/

/-- The lead byte of a character of two bytes. -/
theorem PartialChar.ofLead?_two (position : Nat) {bits : Nat} (hlow : 2 ≤ bits) (hhigh : bits < 32) :
    PartialChar.ofLead? position (UInt8.ofNat (bits + 192)) =
      some ⟨position, UInt8.ofNat (bits + 192), bits, 1, 0x80, 0xBF⟩ := by
  interval_cases bits <;> rfl

/-- The lead byte of a character of three bytes. The second byte of characters that fit in two bytes and of
surrogates is out of range. -/
theorem PartialChar.ofLead?_three (position : Nat) {bits : Nat} (h : bits < 16) :
    PartialChar.ofLead? position (UInt8.ofNat (bits + 224)) =
      some ⟨position, UInt8.ofNat (bits + 224), bits, 2, if bits = 0 then 0xA0 else 0x80,
        if bits = 13 then 0x9F else 0xBF⟩ := by
  interval_cases bits <;> rfl

/-- The lead byte of a character of four bytes. The second byte of characters that fit in three bytes is out of
range, and so is that of numbers beyond the last character. -/
theorem PartialChar.ofLead?_four (position : Nat) {bits : Nat} (h : bits ≤ 4) :
    PartialChar.ofLead? position (UInt8.ofNat (bits + 240)) =
      some ⟨position, UInt8.ofNat (bits + 240), bits, 3, if bits = 0 then 0x90 else 0x80,
        if bits = 4 then 0x8F else 0xBF⟩ := by
  interval_cases bits <;> rfl

/-! ## Decoding byte by byte -/

section Bytes

variable {position start bits next : Nat} {done : List Char} {rest : List UInt8}
  {lead low high : UInt8}

/-- A byte below all marks is a character by itself. -/
theorem decodeFrom_single {code : Nat} (h : code < 128) :
    decodeFrom position none done (UInt8.ofNat code :: rest) =
      decodeFrom (position + 1) none (Char.ofNat code :: done) rest := by
  have hbyte : (UInt8.ofNat code).toNat = code := Nat.mod_eq_of_lt (by omega)
  have hlt : UInt8.ofNat code < 0x80 := by
    rw [UInt8.lt_iff_toNat_lt, hbyte]
    exact h
  rw [decodeFrom, if_pos hlt, hbyte]

/-- A lead byte starts a character. -/
theorem decodeFrom_lead {part : PartialChar} (h : PartialChar.ofLead? position lead = some part) :
    decodeFrom position none done (lead :: rest) = decodeFrom (position + 1) (some part) done rest := by
  have hlt : ¬ lead < 0x80 := by
    intro hlt
    have hlt' : lead < 0xC2 := UInt8.lt_trans hlt (by decide)
    simp [PartialChar.ofLead?, hlt'] at h
  rw [decodeFrom, if_neg hlt, h]

/-- A byte in range adds six bits to a character, and completes it if no other byte is missing. -/
theorem decodeFrom_next (missing : Nat) (hlow : low.toNat ≤ next + 128) (hhigh : next + 128 ≤ high.toNat) :
    decodeFrom position (some ⟨start, lead, bits, missing, low, high⟩) done
        (UInt8.ofNat (next + 128) :: rest) =
      if missing = 1 then decodeFrom (position + 1) none (Char.ofNat (bits * 64 + next) :: done) rest
      else decodeFrom (position + 1) (some ⟨start, lead, bits * 64 + next, missing - 1, 0x80, 0xBF⟩)
        done rest := by
  have hlt := high.toNat_lt
  have hbyte : (UInt8.ofNat (next + 128)).toNat = next + 128 := Nat.mod_eq_of_lt (by omega)
  have hrange : (low ≤ UInt8.ofNat (next + 128) && UInt8.ofNat (next + 128) ≤ high) = true := by
    simp only [Bool.and_eq_true, decide_eq_true_eq, UInt8.le_iff_toNat_le, hbyte]
    exact ⟨hlow, hhigh⟩
  rw [decodeFrom, if_pos hrange, hbyte, Nat.add_sub_cancel]

/-- A byte behind which others are missing. -/
theorem decodeFrom_more (missing : Nat) (hlow : low.toNat ≤ next + 128)
    (hhigh : next + 128 ≤ high.toNat) :
    decodeFrom position (some ⟨start, lead, bits, missing + 2, low, high⟩) done
        (UInt8.ofNat (next + 128) :: rest) =
      decodeFrom (position + 1) (some ⟨start, lead, bits * 64 + next, missing + 1, 0x80, 0xBF⟩)
        done rest := by
  rw [decodeFrom_next (missing + 2) hlow hhigh, if_neg (by omega)]
  rfl

/-- A byte with six bits is in the range of the bytes that are not restricted. -/
theorem six_bits_le (h : next < 64) : next + 128 ≤ (0xBF : UInt8).toNat :=
  Nat.add_le_add_right (Nat.le_of_lt_succ h) 128

/-- The last byte is not restricted. -/
theorem decodeFrom_last (h : next < 64) :
    decodeFrom position (some ⟨start, lead, bits, 1, 0x80, 0xBF⟩) done
        (UInt8.ofNat (next + 128) :: rest) =
      decodeFrom (position + 1) none (Char.ofNat (bits * 64 + next) :: done) rest :=
  decodeFrom_next 1 (Nat.le_add_left 128 next) (six_bits_le h)

end Bytes

/-- The bytes of a character are decoded to the character. -/
theorem decodeFrom_encoding (position : Nat) (done : List Char) (c : Char) (rest : List UInt8) :
    ∃ behind, decodeFrom position none done (String.utf8EncodeChar c ++ rest) =
      decodeFrom behind none (c :: done) rest := by
  have hvalid : c.toNat < 0xD800 ∨ 0xDFFF < c.toNat ∧ c.toNat < 0x110000 := c.valid
  have hchar : ∀ code, code = c.toNat → Char.ofNat code = c := by
    rintro _ rfl
    exact c.ofNat_toNat
  have hcode : c.val.toNat = c.toNat := rfl
  simp only [String.utf8EncodeChar, hcode]
  generalize c.toNat = code at hvalid hchar
  -- One case for each number of bytes. The bits of the bytes make up the code of the character.
  split_ifs with hone htwo hthree
  · refine ⟨position + 1, ?_⟩
    rw [List.singleton_append, decodeFrom_single (by omega), hchar code rfl]
  · have hlead := PartialChar.ofLead?_two position (show 2 ≤ code / 64 % 32 by omega) (by omega)
    have hbits : code / 64 % 32 * 64 + code % 64 = code := by omega
    refine ⟨position + 1 + 1, ?_⟩
    rw [List.cons_append, decodeFrom_lead hlead, List.singleton_append,
      decodeFrom_last (Nat.mod_lt _ (by decide)), hchar _ hbits]
  · have hlead := PartialChar.ofLead?_three position (show code / 4096 % 16 < 16 by omega)
    have hlow : (if code / 4096 % 16 = 0 then 0xA0 else 0x80 : UInt8).toNat ≤ code / 64 % 64 + 128 := by
      split_ifs <;> simp
      omega
    have hhigh : code / 64 % 64 + 128 ≤ (if code / 4096 % 16 = 13 then 0x9F else 0xBF : UInt8).toNat := by
      split_ifs <;> simp <;> omega
    have hbits : (code / 4096 % 16 * 64 + code / 64 % 64) * 64 + code % 64 = code := by omega
    refine ⟨position + 1 + 1 + 1, ?_⟩
    rw [List.cons_append, decodeFrom_lead hlead, List.cons_append, decodeFrom_more 0 hlow hhigh,
      List.singleton_append, decodeFrom_last (Nat.mod_lt _ (by decide)), hchar _ hbits]
  · have hlead := PartialChar.ofLead?_four position (show code / 262144 % 8 ≤ 4 by omega)
    have hlow : (if code / 262144 % 8 = 0 then 0x90 else 0x80 : UInt8).toNat ≤
        code / 4096 % 64 + 128 := by
      split_ifs <;> simp
      omega
    have hhigh : code / 4096 % 64 + 128 ≤
        (if code / 262144 % 8 = 4 then 0x8F else 0xBF : UInt8).toNat := by
      split_ifs <;> simp <;> omega
    have hbits : ((code / 262144 % 8 * 64 + code / 4096 % 64) * 64 + code / 64 % 64) * 64 +
        code % 64 = code := by
      omega
    have hthird := six_bits_le (Nat.mod_lt (code / 64) (show 0 < 64 by decide))
    refine ⟨position + 1 + 1 + 1 + 1, ?_⟩
    rw [List.cons_append, decodeFrom_lead hlead, List.cons_append, decodeFrom_more 1 hlow hhigh,
      List.cons_append, decodeFrom_more 0 (Nat.le_add_left 128 _) hthird, List.singleton_append,
      decodeFrom_last (Nat.mod_lt _ (by decide)), hchar _ hbits]

/-- The bytes of a text are decoded to the text. -/
theorem decodeFrom_encodings (position : Nat) (done text : List Char) :
    decodeFrom position none done (text.flatMap String.utf8EncodeChar) = .ok (done.reverse ++ text) := by
  induction text generalizing position done with
  | nil => simp [decodeFrom]
  | cons c text ih =>
    obtain ⟨behind, hfirst⟩ := decodeFrom_encoding position done c (text.flatMap String.utf8EncodeChar)
    rw [List.flatMap_cons, hfirst, ih, List.reverse_cons, List.append_assoc, List.singleton_append]

/-- The bytes of a text are those of its characters. -/
theorem toList_toUTF8 (text : String) :
    text.toUTF8.data.toList = text.toList.flatMap String.utf8EncodeChar := by
  rw [String.toUTF8, ← String.utf8Encode_toList, List.utf8Encode, List.toList_data_toByteArray]

/-- **Decoding undoes encoding.** -/
theorem decodeUtf8_toUTF8 (text : String) : decodeUtf8 text.toUTF8.data.toList = .ok text.toList := by
  rw [toList_toUTF8, decodeUtf8, decodeFrom_encodings, List.reverse_nil, List.nil_append]

/-! ## Bytes that are decoded

Conversely, the ranges of the bytes leave only one way to encode a character. -/

/-- The bytes of the character with a given number. -/
theorem utf8EncodeChar_ofNat {code : Nat} (h : code.isValidChar) :
    String.utf8EncodeChar (Char.ofNat code) =
      if code < 128 then [UInt8.ofNat code]
      else if code < 2048 then [UInt8.ofNat (code / 64 + 192), UInt8.ofNat (code % 64 + 128)]
      else if code < 65536 then
        [UInt8.ofNat (code / 4096 + 224), UInt8.ofNat (code / 64 % 64 + 128),
          UInt8.ofNat (code % 64 + 128)]
      else
        [UInt8.ofNat (code / 262144 + 240), UInt8.ofNat (code / 4096 % 64 + 128),
          UInt8.ofNat (code / 64 % 64 + 128), UInt8.ofNat (code % 64 + 128)] := by
  have hcode : (Char.ofNat code).val.toNat = code := by
    rw [Char.ofNat, dif_pos h]
    rfl
  have hbound : code < 0x110000 := by
    rcases h with h | ⟨-, h⟩ <;> omega
  simp only [String.utf8EncodeChar, hcode]
  split_ifs <;> first | omega | rfl | (congr 2; omega)

/-- A lead byte announces one, two or three further bytes. The second byte is restricted where the character would fit
in fewer bytes, be a surrogate or lie beyond the last character. -/
theorem PartialChar.ofLead?_cases {position : Nat} {lead : UInt8} {part : PartialChar}
    (h : PartialChar.ofLead? position lead = some part) :
    ∃ bits, (2 ≤ bits ∧ bits < 32 ∧ lead = UInt8.ofNat (bits + 192) ∧
        part = ⟨position, lead, bits, 1, 0x80, 0xBF⟩) ∨
      (bits < 16 ∧ lead = UInt8.ofNat (bits + 224) ∧
        part = ⟨position, lead, bits, 2, if bits = 0 then 0xA0 else 0x80,
          if bits = 13 then 0x9F else 0xBF⟩) ∨
      (bits ≤ 4 ∧ lead = UInt8.ofNat (bits + 240) ∧
        part = ⟨position, lead, bits, 3, if bits = 0 then 0x90 else 0x80,
          if bits = 4 then 0x8F else 0xBF⟩) := by
  have hbyte : ∀ {bits mark}, lead.toNat = bits + mark → lead = UInt8.ofNat (bits + mark) := by
    rintro bits mark hsum
    rw [← hsum, UInt8.ofNat_toNat]
  by_cases hlow : lead.toNat < 194
  · have hnone : lead < 0xC2 := UInt8.lt_iff_toNat_lt.mpr hlow
    simp [ofLead?, hnone] at h
  by_cases htwo : lead.toNat < 224
  · obtain ⟨bits, hsum⟩ : ∃ bits, lead.toNat = bits + 192 := ⟨lead.toNat - 192, by omega⟩
    have hpart := ofLead?_two position (show 2 ≤ bits by omega) (by omega)
    rw [← hbyte hsum, h, Option.some.injEq] at hpart
    exact ⟨bits, .inl ⟨by omega, by omega, hbyte hsum, hpart⟩⟩
  by_cases hthree : lead.toNat < 240
  · obtain ⟨bits, hsum⟩ : ∃ bits, lead.toNat = bits + 224 := ⟨lead.toNat - 224, by omega⟩
    have hpart := ofLead?_three position (show bits < 16 by omega)
    rw [← hbyte hsum, h, Option.some.injEq] at hpart
    exact ⟨bits, .inr (.inl ⟨by omega, hbyte hsum, hpart⟩)⟩
  by_cases hfour : lead.toNat < 245
  · obtain ⟨bits, hsum⟩ : ∃ bits, lead.toNat = bits + 240 := ⟨lead.toNat - 240, by omega⟩
    have hpart := ofLead?_four position (show bits ≤ 4 by omega)
    rw [← hbyte hsum, h, Option.some.injEq] at hpart
    exact ⟨bits, .inr (.inr ⟨by omega, hbyte hsum, hpart⟩)⟩
  · have habove : ∀ mark : UInt8, mark.toNat < 245 → ¬ lead < mark ∧ lead ≠ mark := by
      intro mark hmark
      rw [UInt8.lt_iff_toNat_lt, Ne, ← UInt8.toNat_inj]
      omega
    simp [ofLead?, habove] at h

section Bytes

variable {position start bits : Nat} {lead low high : UInt8} {done text : List Char} {bytes : List UInt8}

/-- Where a character is incomplete, a byte in range follows. -/
theorem exists_next_of_decodeFrom {missing : Nat} (hlow : 128 ≤ low.toNat)
    (h : decodeFrom position (some ⟨start, lead, bits, missing, low, high⟩) done bytes = .ok text) :
    ∃ next rest, bytes = UInt8.ofNat (next + 128) :: rest ∧ low.toNat ≤ next + 128 ∧
      next + 128 ≤ high.toNat := by
  cases bytes with
  | nil => simp [decodeFrom] at h
  | cons byte rest =>
    rw [decodeFrom] at h
    split at h
    next hrange =>
      simp only [Bool.and_eq_true, decide_eq_true_eq, UInt8.le_iff_toNat_le] at hrange
      have hsum : byte.toNat - 128 + 128 = byte.toNat := by omega
      refine ⟨byte.toNat - 128, rest, ?_, ?_, ?_⟩ <;> rw [hsum]
      · rw [UInt8.ofNat_toNat]
      · exact hrange.1
      · exact hrange.2
    next => simp at h

/-- Where several bytes of a character are missing, the others follow the next one. -/
theorem exists_more_of_decodeFrom (missing : Nat) (hlow : 128 ≤ low.toNat)
    (h : decodeFrom position (some ⟨start, lead, bits, missing + 2, low, high⟩) done bytes = .ok text) :
    ∃ next rest, bytes = UInt8.ofNat (next + 128) :: rest ∧ low.toNat ≤ next + 128 ∧
      next + 128 ≤ high.toNat ∧
      decodeFrom (position + 1) (some ⟨start, lead, bits * 64 + next, missing + 1, 0x80, 0xBF⟩) done
        rest = .ok text := by
  obtain ⟨next, rest, rfl, hmin, hmax⟩ := exists_next_of_decodeFrom hlow h
  rw [decodeFrom_more missing hmin hmax] at h
  exact ⟨next, rest, rfl, hmin, hmax, h⟩

/-- Where one byte of a character is missing, the character is complete behind it. -/
theorem exists_last_of_decodeFrom
    (h : decodeFrom position (some ⟨start, lead, bits, 1, 0x80, 0xBF⟩) done bytes = .ok text) :
    ∃ last rest, bytes = UInt8.ofNat (last + 128) :: rest ∧ last < 64 ∧
      decodeFrom (position + 1) none (Char.ofNat (bits * 64 + last) :: done) rest = .ok text := by
  obtain ⟨last, rest, rfl, -, hmax⟩ := exists_next_of_decodeFrom (by decide) h
  have hlast : last < 64 := Nat.lt_succ_of_le (Nat.le_of_add_le_add_right (b := 128) hmax)
  rw [decodeFrom_last hlast] at h
  exact ⟨last, rest, rfl, hlast, h⟩

/-- The bytes that are decoded to a text start with the bytes of the first character, and the others are decoded to
the other characters. -/
theorem exists_char_of_decodeFrom {byte : UInt8}
    (h : decodeFrom position none done (byte :: bytes) = .ok text) :
    ∃ c behind rest, byte :: bytes = String.utf8EncodeChar c ++ rest ∧
      decodeFrom behind none (c :: done) rest = .ok text := by
  by_cases hsingle : byte < 0x80
  · have hcode : byte.toNat < 128 := UInt8.lt_iff_toNat_lt.mp hsingle
    rw [decodeFrom, if_pos hsingle] at h
    refine ⟨Char.ofNat byte.toNat, position + 1, bytes, ?_, h⟩
    rw [utf8EncodeChar_ofNat (.inl (by omega)), if_pos hcode, UInt8.ofNat_toNat, List.singleton_append]
  cases hlead : PartialChar.ofLead? position byte with
  | none => simp [decodeFrom, hsingle, hlead] at h
  | some part =>
    rw [decodeFrom_lead hlead] at h
    -- One case for each number of bytes. The ranges of the bytes keep their bits apart.
    obtain ⟨bits, ⟨hmin, hmax, rfl, rfl⟩ | ⟨hmax, rfl, rfl⟩ | ⟨hmax, rfl, rfl⟩⟩ :=
      PartialChar.ofLead?_cases hlead
    case inl =>
      obtain ⟨last, rest, rfl, hlast, h⟩ := exists_last_of_decodeFrom h
      have hfirst : (bits * 64 + last) / 64 = bits := by omega
      have hsecond : (bits * 64 + last) % 64 = last := by omega
      refine ⟨_, _, rest, ?_, h⟩
      rw [utf8EncodeChar_ofNat (.inl (by omega)), if_neg (by omega), if_pos (by omega), hfirst, hsecond]
      rfl
    case inr.inl =>
      obtain ⟨next, rest, rfl, hlow, hhigh, h⟩ :=
        exists_more_of_decodeFrom 0 (by split_ifs <;> decide) h
      obtain ⟨last, rest, rfl, hlast, h⟩ := exists_last_of_decodeFrom h
      have hnext : next < 64 ∧ (bits = 0 → 32 ≤ next) ∧ (bits = 13 → next < 32) := by
        split_ifs at hlow hhigh <;> simp at hlow hhigh <;> omega
      have hvalid : ((bits * 64 + next) * 64 + last).isValidChar := by
        unfold Nat.isValidChar
        omega
      have hfirst : ((bits * 64 + next) * 64 + last) / 4096 = bits := by omega
      have hsecond : ((bits * 64 + next) * 64 + last) / 64 % 64 = next := by omega
      have hthird : ((bits * 64 + next) * 64 + last) % 64 = last := by omega
      refine ⟨_, _, rest, ?_, h⟩
      rw [utf8EncodeChar_ofNat hvalid, if_neg (by omega), if_neg (by omega), if_pos (by omega), hfirst,
        hsecond, hthird]
      rfl
    case inr.inr =>
      obtain ⟨next, rest, rfl, hlow, hhigh, h⟩ :=
        exists_more_of_decodeFrom 1 (by split_ifs <;> decide) h
      obtain ⟨third, rest, rfl, -, hthird, h⟩ := exists_more_of_decodeFrom 0 (by decide) h
      obtain ⟨last, rest, rfl, hlast, h⟩ := exists_last_of_decodeFrom h
      have hnext : next < 64 ∧ (bits = 0 → 16 ≤ next) ∧ (bits = 4 → next < 16) := by
        split_ifs at hlow hhigh <;> simp at hlow hhigh <;> omega
      have hthird : third < 64 := Nat.lt_succ_of_le (Nat.le_of_add_le_add_right (b := 128) hthird)
      have hvalid : (((bits * 64 + next) * 64 + third) * 64 + last).isValidChar := by
        unfold Nat.isValidChar
        omega
      have hfirst : (((bits * 64 + next) * 64 + third) * 64 + last) / 262144 = bits := by omega
      have hsecond : (((bits * 64 + next) * 64 + third) * 64 + last) / 4096 % 64 = next := by omega
      have hthird : (((bits * 64 + next) * 64 + third) * 64 + last) / 64 % 64 = third := by omega
      have hlast : (((bits * 64 + next) * 64 + third) * 64 + last) % 64 = last := by omega
      refine ⟨_, _, rest, ?_, h⟩
      rw [utf8EncodeChar_ofNat hvalid, if_neg (by omega), if_neg (by omega), if_neg (by omega), hfirst,
        hsecond, hthird, hlast]
      rfl

end Bytes

/-- Bytes that are decoded to a text are the bytes of its characters. -/
theorem encodings_of_decodeFrom {position : Nat} {bytes : List UInt8} {done text : List Char}
    (h : decodeFrom position none done bytes = .ok text) :
    ∃ decoded, text = done.reverse ++ decoded ∧ bytes = decoded.flatMap String.utf8EncodeChar := by
  induction hlength : bytes.length using Nat.strong_induction_on generalizing position bytes done with
  | _ length ih =>
    subst hlength
    cases bytes with
    | nil =>
      rw [decodeFrom, Except.ok.injEq] at h
      exact ⟨[], by simp [h], rfl⟩
    | cons byte bytes =>
      obtain ⟨c, behind, rest, hbytes, hrest⟩ := exists_char_of_decodeFrom h
      have hshorter : rest.length < (byte :: bytes).length := by
        have hpos := c.utf8Size_pos
        rw [hbytes, List.length_append, String.length_utf8EncodeChar]
        omega
      obtain ⟨decoded, rfl, rfl⟩ := ih _ hshorter hrest rfl
      exact ⟨c :: decoded, by simp, by simpa using hbytes⟩

/-- **Decoding accepts the encodings of texts, and nothing else.** -/
theorem decodeUtf8_eq_ok_iff {bytes : List UInt8} {text : String} :
    decodeUtf8 bytes = .ok text.toList ↔ bytes = text.toUTF8.data.toList := by
  constructor
  · intro h
    obtain ⟨decoded, htext, rfl⟩ := encodings_of_decodeFrom h
    rw [toList_toUTF8, htext, List.reverse_nil, List.nil_append]
  · rintro rfl
    exact decodeUtf8_toUTF8 text

/-- In a text without carriage returns there is no line ending to replace. -/
theorem unifyLineEndings_eq_self {text : List Char} (h : '\r' ∉ text) : unifyLineEndings text = text := by
  have hpaired : ReturnsPaired text := fun _ hsuffix => absurd (hsuffix.mem (by simp)) h
  rw [unifyLineEndings_eq hpaired, dropReturns_eq_self h]

end Text

/-! ## Files -/

/-- There is a file at a path with the bytes of a text. -/
structure FileView.HoldsText (view : FileView) (path : Path) (text : String) : Prop where
  /-- The path can be the path of a file. -/
  path_ok : path.hasNul = false
  /-- The file has the bytes of the text. -/
  bytes : view path = .ok (.file text.toUTF8.data.toList)

/-- A program finds a text at a path if and only if there is a file with the bytes of a text, and it finds this text
with one line feed for each line ending. -/
theorem FileView.read_eq_ok_iff {view : FileView} {path : Path} {text : List Char} :
    view.read path = .ok text ↔
      ∃ written : String, view.HoldsText path written ∧ text = Text.unifyLineEndings written.toList := by
  constructor
  · intro h
    unfold FileView.read at h
    split at h
    next => simp at h
    next hnul =>
      split at h
      next => simp at h
      next => simp at h
      next bytes hfile =>
        split at h
        next => simp at h
        next decoded hdecoded =>
          rw [← String.toList_ofList (l := decoded), Text.decodeUtf8_eq_ok_iff] at hdecoded
          refine ⟨String.ofList decoded, ⟨by simpa using hnul, hdecoded ▸ hfile⟩, ?_⟩
          rw [String.toList_ofList]
          exact (Except.ok.inj h).symm
  · rintro ⟨written, hfile, rfl⟩
    rw [FileView.read, hfile.path_ok, if_neg Bool.false_ne_true, hfile.bytes]
    simp only [Text.decodeUtf8_toUTF8]

/-- Where there is no file with the bytes of a text, a program finds out that it cannot reach a file, or that it cannot
decode the bytes of one. -/
theorem FileView.read_cases_of_not_holdsText {view : FileView} {path : Path} (hpath : path.hasNul = false)
    (h : ∀ text, ¬ view.HoldsText path text) :
    (∃ fault, view.read path = .error (.file fault) ∧
        (fault = .notFound ↔ view path = .error .notFound) ∧ ∀ bytes, view path ≠ .ok (.file bytes)) ∨
      ∃ bytes fault, view path = .ok (.file bytes) ∧ view.read path = .error (.encoding fault) := by
  cases hview : view path with
  | error fault => exact .inl ⟨fault, by simp [FileView.read, hpath, hview], by simp, by simp⟩
  | ok entry =>
    cases entry with
    | directory => exact .inl ⟨.isDirectory, by simp [FileView.read, hpath, hview], by simp, by simp⟩
    | file bytes =>
      cases hdecoded : Text.decodeUtf8 bytes with
      | error fault => exact .inr ⟨bytes, fault, rfl, by simp [FileView.read, hpath, hview, hdecoded]⟩
      | ok decoded =>
        rw [← String.toList_ofList (l := decoded), Text.decodeUtf8_eq_ok_iff] at hdecoded
        exact absurd ⟨hpath, hdecoded ▸ hview⟩ (h (String.ofList decoded))

/-- **Files are read as they were written.** A program that reads a file finds the text of the file, if there are no
carriage returns in it. -/
theorem FileView.HoldsText.read {view : FileView} {path : Path} {text : String}
    (h : view.HoldsText path text) (hreturn : '\r' ∉ text.toList) :
    view.read path = .ok text.toList :=
  FileView.read_eq_ok_iff.mpr ⟨text, h, (Text.unifyLineEndings_eq_self hreturn).symm⟩

end LoxLexer
