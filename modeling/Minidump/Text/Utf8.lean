/-!
# UTF-8 text with repairs

Narrow comments are UTF-8 by convention only, so reading them never fails: each
longest piece that could have been the start of a character, but is not followed
by the rest of it, and each byte that starts no character, becomes one
replacement character.

- `Pending` — a character whose first bytes have been seen;
- `Decoder` — the text so far and the character under way, advanced one byte at a
  time by `Decoder.push`;
- `decodeRepaired` — the text of a list of bytes.
-/

namespace Minidump

namespace Utf8

/-- The character that stands for bytes that are no text. -/
def replacement : Char := '\uFFFD'

/-- A character under way: the bits so far, how many bytes are missing, and the
range that the next byte has to be in. -/
structure Pending where
  bits : Nat
  missing : Nat
  low : Nat
  high : Nat

/-- What a first byte announces. The ranges of the second byte leave out overlong
forms, surrogates and numbers beyond the last character. -/
def Pending.start? (b : Nat) : Option Pending :=
  if 0xc2 ≤ b ∧ b ≤ 0xdf then some ⟨b - 0xc0, 1, 0x80, 0xbf⟩
  else if b = 0xe0 then some ⟨0, 2, 0xa0, 0xbf⟩
  else if b = 0xed then some ⟨0xd, 2, 0x80, 0x9f⟩
  else if 0xe1 ≤ b ∧ b ≤ 0xef then some ⟨b - 0xe0, 2, 0x80, 0xbf⟩
  else if b = 0xf0 then some ⟨0, 3, 0x90, 0xbf⟩
  else if 0xf1 ≤ b ∧ b ≤ 0xf3 then some ⟨b - 0xf0, 3, 0x80, 0xbf⟩
  else if b = 0xf4 then some ⟨4, 3, 0x80, 0x8f⟩
  else none

/-- The characters read so far, last one first, and the one under way. -/
structure Decoder where
  reversed : List Char
  pending : Option Pending

namespace Decoder

/-- Nothing has been read. -/
def empty : Decoder :=
  ⟨[], none⟩

/-- Takes a byte as the first one of a character. -/
def start (reversed : List Char) (b : Nat) : Decoder :=
  if b < 0x80 then ⟨Char.ofNat b :: reversed, none⟩
  else match Pending.start? b with
    | some p => ⟨reversed, some p⟩
    | none => ⟨replacement :: reversed, none⟩

/-- Takes the next byte. A byte that cannot continue the character under way ends
it as a replacement character and is taken as a first byte. -/
def push (d : Decoder) (byte : UInt8) : Decoder :=
  let b := byte.toNat
  match d.pending with
  | none => start d.reversed b
  | some p =>
    if p.low ≤ b ∧ b ≤ p.high then
      let bits := p.bits * 64 + (b - 0x80)
      if p.missing ≤ 1 then ⟨Char.ofNat bits :: d.reversed, none⟩
      else ⟨d.reversed, some ⟨bits, p.missing - 1, 0x80, 0xbf⟩⟩
    else start (replacement :: d.reversed) b

/-- The characters read, where a character under way was cut off. -/
def finish (d : Decoder) : List Char :=
  match d.pending with
  | none => d.reversed.reverse
  | some _ => (replacement :: d.reversed).reverse

end Decoder

/-- The text of a list of bytes; what is no UTF-8 is repaired. -/
def decodeRepaired (bs : List UInt8) : String :=
  String.ofList (bs.foldl Decoder.push Decoder.empty).finish

end Utf8

end Minidump
