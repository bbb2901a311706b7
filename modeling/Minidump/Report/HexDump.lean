import Minidump.Text.Hex

/-!
# Hexadecimal dumps of memory

Memory is shown in rows of sixteen bytes: the address, two digits for each byte, and a
gutter with the bytes as characters. A last row that is not full is padded with blanks.

- `HexDump.rowText` — a row;
- `HexDump.text` — all rows, each with a line break at its end.
-/

namespace Minidump

namespace HexDump

open Text

/-- The number of bytes in a full row. -/
def rowLength : Nat := 16

/-- The character of a byte in the gutter: itself if it is visible, else a dot. -/
def gutterChar (b : UInt8) : Char :=
  if 0x21 ≤ b ∧ b ≤ 0x7e then Char.ofNat b.toNat else '.'

/-- The digit columns of a row. -/
def digitColumns (row : List UInt8) : List Char :=
  (row.flatMap hexByte).rightpad (2 * rowLength) ' '

/-- The gutter of a row. -/
def gutter (row : List UInt8) : List Char :=
  (row.map gutterChar).rightpad rowLength ' '

/-- The row of bytes at an address. -/
def rowText (address : Nat) (row : List UInt8) : String :=
  hexPadded 16 address ++ ": " ++ String.ofList (digitColumns row) ++ " |"
    ++ String.ofList (gutter row) ++ "|\n"

/-- Collects the rows of data at an address, last one first. -/
def rowsOnto (reversed : List String) (address : Nat) (data : List UInt8) : List String :=
  if data.isEmpty then reversed.reverse
  else
    rowsOnto (rowText address (data.take rowLength) :: reversed) (address + rowLength)
      (data.drop rowLength)
termination_by data.length
decreasing_by
  rename_i h
  have : data ≠ [] := by simpa using h
  have := List.length_pos_iff.2 this
  simp only [List.length_drop, rowLength]
  omega

/-- The rows of data at an address. -/
def rows (address : Nat) (data : List UInt8) : List String :=
  rowsOnto [] address data

/-- Data at an address. -/
def text (address : Nat) (data : List UInt8) : String :=
  String.join (rows address data)

end HexDump

end Minidump
