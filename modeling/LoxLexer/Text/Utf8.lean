import LoxLexer.Text.Quoted

/-!
# Decoding of UTF-8

Bytes are decoded one by one. A lead byte announces how many bytes follow and which range the first
of them must lie in, so that no character has two encodings and no surrogate has one. Decoding stops
at the first byte that cannot continue, and the fault covers the bytes that did fit together.
-/

namespace LoxLexer.Text

/-- Why a byte sequence is not UTF-8. -/
inductive Utf8Cause where
  /-- No character starts with this byte. -/
  | invalidStart
  /-- The byte after the reported ones does not continue them. -/
  | invalidContinuation
  /-- The bytes end inside a character. -/
  | unexpectedEnd
  deriving DecidableEq, Repr

/-- The place and the cause at which decoding stops. -/
structure Utf8Fault where
  /-- The position of the first reported byte. -/
  start : Nat
  /-- The first reported byte. -/
  lead : UInt8
  /-- How many bytes are reported. -/
  count : Nat
  /-- What is wrong with them. -/
  cause : Utf8Cause
  deriving DecidableEq, Repr

/-- The wording of a cause. -/
def Utf8Cause.message : Utf8Cause → String
  | .invalidStart => "invalid start byte"
  | .invalidContinuation => "invalid continuation byte"
  | .unexpectedEnd => "unexpected end of data"

/-- The wording of a fault. -/
def Utf8Fault.message (fault : Utf8Fault) : String :=
  let place :=
    if fault.count = 1 then
      "byte 0x" ++ String.ofList (hexadecimal 2 fault.lead.toNat) ++ " in position " ++
        toString fault.start
    else
      "bytes in position " ++ toString fault.start ++ "-" ++
        toString (fault.start + fault.count - 1)
  "'utf-8' codec can't decode " ++ place ++ ": " ++ fault.cause.message

/-- A character of which some bytes are still missing. -/
structure PartialChar where
  /-- The position of the lead byte. -/
  start : Nat
  /-- The lead byte. -/
  lead : UInt8
  /-- The bits read so far. -/
  bits : Nat
  /-- How many further bytes belong to the character. -/
  missing : Nat
  /-- The least value of the next byte. -/
  low : UInt8
  /-- The greatest value of the next byte. -/
  high : UInt8

/-- What a lead byte announces, if the byte can start a character of more than one byte. -/
def PartialChar.ofLead? (start : Nat) (lead : UInt8) : Option PartialChar :=
  let bits := lead.toNat
  if lead < 0xC2 then none
  else if lead < 0xE0 then some ⟨start, lead, bits - 0xC0, 1, 0x80, 0xBF⟩
  else if lead = 0xE0 then some ⟨start, lead, bits - 0xE0, 2, 0xA0, 0xBF⟩
  else if lead = 0xED then some ⟨start, lead, bits - 0xE0, 2, 0x80, 0x9F⟩
  else if lead < 0xF0 then some ⟨start, lead, bits - 0xE0, 2, 0x80, 0xBF⟩
  else if lead = 0xF0 then some ⟨start, lead, bits - 0xF0, 3, 0x90, 0xBF⟩
  else if lead = 0xF4 then some ⟨start, lead, bits - 0xF0, 3, 0x80, 0x8F⟩
  else if lead < 0xF4 then some ⟨start, lead, bits - 0xF0, 3, 0x80, 0xBF⟩
  else none

/-- Decodes the bytes from a position on, given the character that is still incomplete there and the
characters before it, the last one first. -/
def decodeFrom (position : Nat) (open? : Option PartialChar) (done : List Char) :
    List UInt8 → Except Utf8Fault (List Char)
  | [] =>
      match open? with
      | none => .ok done.reverse
      | some part => .error ⟨part.start, part.lead, position - part.start, .unexpectedEnd⟩
  | byte :: rest =>
      match open? with
      | none =>
          if byte < 0x80 then
            decodeFrom (position + 1) none (Char.ofNat byte.toNat :: done) rest
          else match PartialChar.ofLead? position byte with
            | some part => decodeFrom (position + 1) (some part) done rest
            | none => .error ⟨position, byte, 1, .invalidStart⟩
      | some part =>
          if part.low ≤ byte && byte ≤ part.high then
            let bits := part.bits * 64 + (byte.toNat - 0x80)
            if part.missing = 1 then
              decodeFrom (position + 1) none (Char.ofNat bits :: done) rest
            else
              decodeFrom (position + 1)
                (some ⟨part.start, part.lead, bits, part.missing - 1, 0x80, 0xBF⟩) done rest
          else .error ⟨part.start, part.lead, position - part.start, .invalidContinuation⟩

/-- The text that a byte sequence encodes. -/
def decodeUtf8 (bytes : List UInt8) : Except Utf8Fault (List Char) :=
  decodeFrom 0 none [] bytes

end LoxLexer.Text
