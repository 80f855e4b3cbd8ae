/-!
# Decoding bytes

Bytes are decoded as UTF-8 one character at a time. A sequence that is no character yields a gap,
and decoding goes on with the first byte that cannot belong to it.
-/

namespace TelemetryCharts.Text

/-- A character that has begun: its bits so far, how many bytes are missing, and the bounds of the
next one. -/
structure Begun where
  bits : Nat
  missing : Nat
  low : UInt8
  high : UInt8

/-- What a first byte says: a whole character, one that has begun, or nothing. -/
inductive First
  | whole (c : Char)
  | begun (b : Begun)
  | invalid

/-- Reads the first byte of a character. The bounds of the second byte exclude encodings that are
too long, surrogates, and what lies beyond the last code point. -/
def First.of (b : UInt8) : First :=
  let n := b.toNat
  if n < 0x80 then whole (Char.ofNat n)
  else if n < 0xc2 then invalid
  else if n < 0xe0 then begun ⟨n - 0xc0, 1, 0x80, 0xbf⟩
  else if n < 0xf0 then
    begun ⟨n - 0xe0, 2, if n = 0xe0 then 0xa0 else 0x80, if n = 0xed then 0x9f else 0xbf⟩
  else if n < 0xf5 then
    begun ⟨n - 0xf0, 3, if n = 0xf0 then 0x90 else 0x80, if n = 0xf4 then 0x8f else 0xbf⟩
  else invalid

/-- What a first byte yields, and the character that has begun with it. -/
def begin (b : UInt8) : List (Option Char) × Option Begun :=
  match First.of b with
  | .whole c => ([some c], none)
  | .begun first => ([], some first)
  | .invalid => ([none], none)

/-- What one more byte yields, and the character that has begun. A byte that cannot belong to the
character before it leaves a gap and is read as a first byte. -/
def advance (begun : Option Begun) (b : UInt8) : List (Option Char) × Option Begun :=
  match begun with
  | none => begin b
  | some first =>
    if first.low ≤ b ∧ b ≤ first.high then
      let bits := 64 * first.bits + (b.toNat - 0x80)
      if first.missing = 1 then ([some (Char.ofNat bits)], none)
      else ([], some ⟨bits, first.missing - 1, 0x80, 0xbf⟩)
    else (none :: (begin b).1, (begin b).2)

/-- The characters of bytes, with `none` for each gap. `begun` is a character whose first bytes
have been read. -/
def decodeFrom (begun : Option Begun) : List UInt8 → List (Option Char)
  | [] => if begun.isSome then [none] else []
  | b :: bs => (advance begun b).1 ++ decodeFrom (advance begun b).2 bs

/-- The characters of bytes, with `none` for each gap. -/
def decode (bytes : List UInt8) : List (Option Char) :=
  decodeFrom none bytes

/-- The text of decoded bytes, if there is no gap in them. -/
def gapless? (cs : List (Option Char)) : Option (List Char) :=
  cs.mapM id

/-- The text of decoded bytes, with the replacement character in place of gaps. -/
def fillGaps (cs : List (Option Char)) : List Char :=
  cs.map fun c => c.getD '\ufffd'

/-- The text of bytes that are UTF-8 throughout. -/
def ofBytes? (bytes : ByteArray) : Option (List Char) :=
  gapless? (decode bytes.toList)

end TelemetryCharts.Text
