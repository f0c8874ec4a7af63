import Relocation.Text.Hex

/-!
# UTF-8

`Utf8.encode` writes a text as bytes, `Utf8.decode` reads it back. The reader goes through the bytes
one at a time; `Pending` is a character of which some bytes are still to come. It stops at the first
byte that no text can hold at its place and tells which bytes it could not read.
-/

namespace Relocation.Utf8

/-- The bytes of a text. -/
def encode (text : List Char) : List UInt8 :=
  text.flatMap String.utf8EncodeChar

/-! ## Failures -/

/-- What is wrong with some bytes. -/
inductive Reason where
  /-- no character starts with this byte -/
  | invalidStart
  /-- the byte after these does not go on with them -/
  | invalidContinuation
  /-- the text ends inside a character -/
  | unexpectedEnd
  deriving DecidableEq, Repr

/-- A reason in words. -/
def Reason.text : Reason → String
  | invalidStart => "invalid start byte"
  | invalidContinuation => "invalid continuation byte"
  | unexpectedEnd => "unexpected end of data"

/-- Bytes that cannot be read. -/
structure Fault where
  /-- the position of the first one -/
  start : Nat
  /-- the bytes, at least one -/
  bytes : List UInt8
  reason : Reason
  deriving DecidableEq, Repr

/-- The report of a fault. -/
def Fault.message (f : Fault) : String :=
  let place := match f.bytes with
    | [b] => s!"byte 0x{String.ofList (Text.hexDigits 2 b.toNat)} in position {f.start}"
    | bytes => s!"bytes in position {f.start}-{f.start + bytes.length - 1}"
  s!"'utf-8' codec can't decode {place}: {f.reason.text}"

/-! ## Reading -/

/-- A character that has been begun. -/
structure Pending where
  /-- the position of its first byte -/
  start : Nat
  /-- the bytes read so far, the last one first -/
  seen : List UInt8
  /-- the bits read so far -/
  bits : Nat
  /-- how many bytes are to come after the next one -/
  after : Nat
  /-- the least value of the next byte -/
  low : UInt8
  /-- the greatest value of the next byte -/
  high : UInt8

/-- Begin a character of several bytes. The bounds on the second byte keep out longer forms than
needed, surrogates and numbers beyond the last code point. -/
def begin? (start : Nat) (b : UInt8) : Option Pending :=
  if 0xc2 ≤ b ∧ b ≤ 0xdf then some ⟨start, [b], b.toNat - 0xc0, 0, 0x80, 0xbf⟩
  else if b = 0xe0 then some ⟨start, [b], 0, 1, 0xa0, 0xbf⟩
  else if b = 0xed then some ⟨start, [b], 0xd, 1, 0x80, 0x9f⟩
  else if 0xe1 ≤ b ∧ b ≤ 0xef then some ⟨start, [b], b.toNat - 0xe0, 1, 0x80, 0xbf⟩
  else if b = 0xf0 then some ⟨start, [b], 0, 2, 0x90, 0xbf⟩
  else if 0xf1 ≤ b ∧ b ≤ 0xf3 then some ⟨start, [b], b.toNat - 0xf0, 2, 0x80, 0xbf⟩
  else if b = 0xf4 then some ⟨start, [b], 4, 2, 0x80, 0x8f⟩
  else none

/-- The fault of a character that goes no further. -/
def Pending.fault (p : Pending) (reason : Reason) : Fault :=
  ⟨p.start, p.seen.reverse, reason⟩

/-- Read the rest of the bytes, from position `pos` on. `done` is the text so far, the last
character first. -/
def decodeFrom (pos : Nat) (done : List Char) (pending : Option Pending) :
    List UInt8 → Except Fault (List Char)
  | [] =>
    match pending with
    | none => .ok done.reverse
    | some p => .error (p.fault .unexpectedEnd)
  | b :: rest =>
    match pending with
    | none =>
      if b < 0x80 then decodeFrom (pos + 1) (Char.ofNat b.toNat :: done) none rest
      else
        match begin? pos b with
        | some p => decodeFrom (pos + 1) done (some p) rest
        | none => .error ⟨pos, [b], .invalidStart⟩
    | some p =>
      if p.low ≤ b ∧ b ≤ p.high then
        let bits := p.bits * 64 + (b.toNat - 0x80)
        match p.after with
        | 0 => decodeFrom (pos + 1) (Char.ofNat bits :: done) none rest
        | after + 1 =>
          decodeFrom (pos + 1) done (some ⟨p.start, b :: p.seen, bits, after, 0x80, 0xbf⟩) rest
      else .error (p.fault .invalidContinuation)

/-- The text that some bytes spell. -/
def decode (bytes : List UInt8) : Except Fault (List Char) :=
  decodeFrom 0 [] none bytes

end Relocation.Utf8
