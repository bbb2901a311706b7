/-!
# UTF-16 code units

Wide text is stored as 16-bit units, low byte first. A character beyond the first
65536 takes two units, a high and a low surrogate; a surrogate without its partner
is no text.

- `units` — the units that a list of bytes holds; a last odd byte is no unit;
- `decodeUnits?` — the characters of a list of units;
- `encodeUnits`, `encodeBytes` — the units and the bytes of a text.
-/

namespace Minidump

namespace Utf16

/-- The unit with the given low and high byte. -/
def unit (low high : UInt8) : UInt16 :=
  UInt16.ofNat (low.toNat + 256 * high.toNat)

/-- Collects the units of a list of bytes, last one first. -/
def unitsOnto (reversed : List UInt16) : List UInt8 → List UInt16
  | low :: high :: rest => unitsOnto (unit low high :: reversed) rest
  | _ => reversed.reverse

/-- The 16-bit units of a list of bytes. A last odd byte is dropped. -/
def units (bs : List UInt8) : List UInt16 :=
  unitsOnto [] bs

/-- The first unit of a pair. -/
def isHighSurrogate (u : UInt16) : Bool :=
  0xd800 ≤ u && u ≤ 0xdbff

/-- The second unit of a pair. -/
def isLowSurrogate (u : UInt16) : Bool :=
  0xdc00 ≤ u && u ≤ 0xdfff

/-- The character that a surrogate pair stands for. -/
def pairChar (high low : UInt16) : Char :=
  Char.ofNat (0x10000 + (high.toNat - 0xd800) * 0x400 + (low.toNat - 0xdc00))

/-- Collects the characters of a list of units, last one first. -/
def decodeUnitsOnto (reversed : List Char) : List UInt16 → Option (List Char)
  | [] => some reversed.reverse
  | u :: rest =>
    if isHighSurrogate u then
      match rest with
      | low :: rest =>
        if isLowSurrogate low then decodeUnitsOnto (pairChar u low :: reversed) rest else none
      | [] => none
    else if isLowSurrogate u then none
    else decodeUnitsOnto (Char.ofNat u.toNat :: reversed) rest

/-- The characters of a list of units, unless it holds a surrogate without its
partner. -/
def decodeUnits? (us : List UInt16) : Option (List Char) :=
  decodeUnitsOnto [] us

/-- The one or two units of a character. -/
def encodeChar (c : Char) : List UInt16 :=
  if c.toNat < 0x10000 then [UInt16.ofNat c.toNat]
  else
    let n := c.toNat - 0x10000
    [UInt16.ofNat (0xd800 + n / 0x400), UInt16.ofNat (0xdc00 + n % 0x400)]

/-- The units of a text. -/
def encodeUnits (text : List Char) : List UInt16 :=
  text.flatMap encodeChar

/-- The two bytes of a unit, low byte first. -/
def unitBytes (u : UInt16) : List UInt8 :=
  [UInt8.ofNat u.toNat, UInt8.ofNat (u.toNat / 256)]

/-- The bytes of a text. -/
def encodeBytes (text : List Char) : List UInt8 :=
  (encodeUnits text).flatMap unitBytes

/-! ## One unit, one character at a time -/

theorem unitsOnto_eq : ∀ (reversed : List UInt16) (bs : List UInt8),
    unitsOnto reversed bs = reversed.reverse ++ units bs
  | reversed, low :: high :: rest => by
    have h : units (low :: high :: rest) = unitsOnto [unit low high] rest := rfl
    rw [h, unitsOnto, unitsOnto_eq (_ :: reversed) rest, unitsOnto_eq [_] rest]
    simp
  | _, [] => by simp [unitsOnto, units]
  | _, [_] => by simp [unitsOnto, units]

@[simp] theorem units_nil : units [] = [] := rfl

@[simp] theorem units_singleton (b : UInt8) : units [b] = [] := rfl

@[simp] theorem units_cons_cons (low high : UInt8) (rest : List UInt8) :
    units (low :: high :: rest) = unit low high :: units rest := by
  have h : units (low :: high :: rest) = unitsOnto [unit low high] rest := rfl
  rw [h, unitsOnto_eq]
  rfl

theorem decodeUnitsOnto_eq : ∀ (reversed : List Char) (us : List UInt16),
    decodeUnitsOnto reversed us = (decodeUnits? us).map (reversed.reverse ++ ·)
  | reversed, [] => by simp [decodeUnitsOnto, decodeUnits?]
  | reversed, [u] => by
    simp only [decodeUnitsOnto, decodeUnits?]
    split
    · rfl
    · split <;> simp
  | reversed, u :: low :: rest => by
    have hpair := decodeUnitsOnto_eq (pairChar u low :: reversed) rest
    have hpair' := decodeUnitsOnto_eq [pairChar u low] rest
    have hchar := decodeUnitsOnto_eq (Char.ofNat u.toNat :: reversed) (low :: rest)
    have hchar' := decodeUnitsOnto_eq [Char.ofNat u.toNat] (low :: rest)
    rw [decodeUnitsOnto.eq_def, decodeUnits?, decodeUnitsOnto.eq_def [] (u :: low :: rest)]
    simp only [hpair, hpair', hchar, hchar']
    split
    · split
      · cases decodeUnits? rest <;> simp
      · rfl
    · split
      · rfl
      · cases decodeUnits? (low :: rest) <;> simp

@[simp] theorem decodeUnits?_nil : decodeUnits? [] = some [] := rfl

/-- A unit that is no surrogate is a character of its own. -/
theorem decodeUnits?_cons_char {u : UInt16} (rest : List UInt16)
    (high : isHighSurrogate u = false) (low : isLowSurrogate u = false) :
    decodeUnits? (u :: rest) = (decodeUnits? rest).map (Char.ofNat u.toNat :: ·) := by
  rw [decodeUnits?, decodeUnitsOnto.eq_def]
  simp [high, low, decodeUnitsOnto_eq [_]]

/-- A high and a low surrogate are one character. -/
theorem decodeUnits?_cons_pair {u v : UInt16} (rest : List UInt16)
    (high : isHighSurrogate u = true) (low : isLowSurrogate v = true) :
    decodeUnits? (u :: v :: rest) = (decodeUnits? rest).map (pairChar u v :: ·) := by
  rw [decodeUnits?, decodeUnitsOnto.eq_def]
  simp [high, low, decodeUnitsOnto_eq [_]]

end Utf16

end Minidump
