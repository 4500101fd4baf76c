/-!
# Base 64

Bytes written with six bits to a character. Characters outside of the alphabet are passed over, and the
text ends where the padding completes a group; a group that is neither complete nor padded is a fault.
-/

namespace LoxLexer.Text

/-- The six bits that a character of the alphabet stands for. -/
def sextet? (c : Char) : Option Nat :=
  if 'A' ≤ c ∧ c ≤ 'Z' then some (c.toNat - 'A'.toNat)
  else if 'a' ≤ c ∧ c ≤ 'z' then some (c.toNat - 'a'.toNat + 26)
  else if c.isDigit then some (c.toNat - '0'.toNat + 52)
  else if c = '+' then some 62
  else if c = '/' then some 63
  else none

/-- A group of at most four characters that is being read. -/
structure Base64Group where
  /-- How many characters of the group have been read. -/
  count : Nat
  /-- The bits that do not fill a byte yet. -/
  bits : Nat
  /-- How many padding characters have been read since the last character of the group. -/
  padding : Nat

/-- Decodes a text, given the group that is open and the bytes before it, the last one first. -/
def decodeBase64From (group : Base64Group) (done : List UInt8) : List Char → Option (List UInt8)
  | [] => if group.count = 0 then some done.reverse else none
  | c :: rest =>
      if c = '=' then
        if group.count < 2 then decodeBase64From group done rest
        else if 4 ≤ group.count + group.padding + 1 then some done.reverse
        else decodeBase64From { group with padding := group.padding + 1 } done rest
      else match sextet? c with
        | none => decodeBase64From group done rest
        | some six =>
            match group.count with
            | 0 => decodeBase64From ⟨1, six, 0⟩ done rest
            | 1 => decodeBase64From ⟨2, six % 16, 0⟩ ((group.bits * 4 + six / 16).toUInt8 :: done) rest
            | 2 => decodeBase64From ⟨3, six % 4, 0⟩ ((group.bits * 16 + six / 4).toUInt8 :: done) rest
            | _ => decodeBase64From ⟨0, 0, 0⟩ ((group.bits * 64 + six).toUInt8 :: done) rest

/-- The bytes that a text stands for. -/
def decodeBase64 (text : List Char) : Option (List UInt8) := decodeBase64From ⟨0, 0, 0⟩ [] text

end LoxLexer.Text
