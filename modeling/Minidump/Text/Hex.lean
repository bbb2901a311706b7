/-!
# Hexadecimal text

Addresses, offsets and register values are shown in lower-case hexadecimal.

- `hex` — the shortest form, `0` for zero;
- `hexTagged` — the shortest form behind `0x`;
- `hexPadded` — filled with zeros on the left up to a width; a longer form is left as it
  is;
- `hexByte` — the two digits of a byte.
-/

namespace Minidump

namespace Text

/-- The hexadecimal digits of a number, most significant first. -/
def hexDigits (n : Nat) : List Char :=
  Nat.toDigits 16 n

/-- The shortest hexadecimal form of a number. -/
def hex (n : Nat) : String :=
  String.ofList (hexDigits n)

/-- The shortest hexadecimal form of a number, marked as hexadecimal. -/
def hexTagged (n : Nat) : String :=
  "0x" ++ hex n

/-- At least `width` hexadecimal digits. -/
def hexPadded (width n : Nat) : String :=
  String.ofList ((hexDigits n).leftpad width '0')

/-- The two digits of a byte, high half first. -/
def hexByte (b : UInt8) : List Char :=
  [Nat.digitChar (b.toNat / 16), Nat.digitChar (b.toNat % 16)]

end Text

end Minidump
