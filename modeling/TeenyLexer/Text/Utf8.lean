import TeenyLexer.Text.Hex

/-! # Strict UTF-8

Decoding refuses over-long forms, surrogates and everything above U+10FFFF. A refusal tells
the cause, where the bad part starts and which bytes belong to it: the lead byte and those
of its continuation bytes that are in order.
-/

namespace TeenyLexer.Text.Utf8

inductive Cause
  | invalidStart
  | invalidContinuation
  | unexpectedEnd
  deriving DecidableEq

def Cause.message : Cause → String
  | .invalidStart => "invalid start byte"
  | .invalidContinuation => "invalid continuation byte"
  | .unexpectedEnd => "unexpected end of data"

/-- The first bad part of a byte sequence. -/
structure Malformed where
  cause : Cause
  start : Nat
  bad : List UInt8
  deriving DecidableEq

def Malformed.message (m : Malformed) : String :=
  let place :=
    match m.bad with
    | [byte] =>
      "byte 0x" ++ String.ofList (hex 2 byte.toNat) ++ " in position " ++ toString m.start
    | bytes =>
      "bytes in position " ++ toString m.start ++ "-" ++ toString (m.start + bytes.length - 1)
  "'utf-8' codec can't decode " ++ place ++ ": " ++ m.cause.message

/-- The bytes allowed at one place of a sequence, both ends included. -/
structure Span where
  first : UInt8
  last : UInt8

/-- The continuation bytes that are not narrowed by their lead byte. -/
def Span.tail : Span := ⟨0x80, 0xBF⟩

/-- What a lead byte contributes to the code point, and the bytes that must follow it. -/
def lead? (b : UInt8) : Option (Nat × List Span) :=
  if b < 0x80 then some (b.toNat, [])
  else if b < 0xC2 then none
  else if b < 0xE0 then some (b.toNat - 0xC0, [.tail])
  else if b = 0xE0 then some (0x0, [⟨0xA0, 0xBF⟩, .tail])
  else if b = 0xED then some (0xD, [⟨0x80, 0x9F⟩, .tail])
  else if b < 0xF0 then some (b.toNat - 0xE0, [.tail, .tail])
  else if b = 0xF0 then some (0x0, [⟨0x90, 0xBF⟩, .tail, .tail])
  else if b < 0xF4 then some (b.toNat - 0xF0, [.tail, .tail, .tail])
  else if b = 0xF4 then some (0x4, [⟨0x80, 0x8F⟩, .tail, .tail])
  else none

/-- A character whose bytes have been read in part. -/
structure Partial where
  /-- The bytes read, the last one first. -/
  read : List UInt8
  value : Nat
  expected : Span
  further : List Span

/-- Decodes bytes that start at an offset, a character being possibly under way. -/
def decodeFrom (offset : Nat) : Option Partial → List UInt8 → Except Malformed (List Char)
  | none, [] => .ok []
  | some p, [] => .error ⟨.unexpectedEnd, offset - p.read.length, p.read.reverse⟩
  | none, b :: bytes =>
    match lead? b with
    | none => .error ⟨.invalidStart, offset, [b]⟩
    | some (value, []) => (Char.ofNat value :: ·) <$> decodeFrom (offset + 1) none bytes
    | some (value, expected :: further) =>
      decodeFrom (offset + 1) (some ⟨[b], value, expected, further⟩) bytes
  | some p, b :: bytes =>
    if p.expected.first ≤ b ∧ b ≤ p.expected.last then
      let value := p.value * 64 + (b.toNat - 0x80)
      match p.further with
      | [] => (Char.ofNat value :: ·) <$> decodeFrom (offset + 1) none bytes
      | expected :: further =>
        decodeFrom (offset + 1) (some ⟨b :: p.read, value, expected, further⟩) bytes
    else .error ⟨.invalidContinuation, offset - p.read.length, p.read.reverse⟩

def decode (bytes : List UInt8) : Except Malformed (List Char) :=
  decodeFrom 0 none bytes

def encode (text : List Char) : List UInt8 :=
  text.flatMap String.utf8EncodeChar

end TeenyLexer.Text.Utf8
