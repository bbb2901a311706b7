import Minidump.Report.HexDump

/-!
# The rows of a hexadecimal dump

Rows are collected one after the other, each from what is left of the data and with the address
that the ones before it have counted up. Seen from the whole data, a row is given by its index:
the bytes from sixteen times the index on, at the address of the first of them.

- `HexDump.rowCount`, `HexDump.rowBytes` — how many rows there are, and the bytes of each;
- `HexDump.mul_lt_length` — every row has a first byte;
- `HexDump.rows_eq` — the rows by their indices.
-/

namespace Minidump

namespace HexDump

/-- The number of rows that data takes, the last of which need not be full. -/
def rowCount (data : List UInt8) : Nat :=
  (data.length + (rowLength - 1)) / rowLength

/-- The bytes of a row: sixteen of them, or what is left. -/
def rowBytes (data : List UInt8) (index : Nat) : List UInt8 :=
  (data.drop (rowLength * index)).take rowLength

variable {data : List UInt8}

/-- Every row has a first byte. -/
theorem mul_lt_length {index : Nat} (h : index < rowCount data) :
    rowLength * index < data.length := by
  unfold rowCount rowLength at h
  unfold rowLength
  omega

theorem rowCount_nil : rowCount [] = 0 :=
  rfl

/-- The first row takes sixteen bytes, or all that there are. -/
theorem rowCount_of_ne_nil (h : data ≠ []) :
    rowCount data = rowCount (data.drop rowLength) + 1 := by
  have hpos : 0 < data.length := List.length_pos_iff.mpr h
  unfold rowCount rowLength
  rw [List.length_drop]
  omega

theorem rowBytes_zero : rowBytes data 0 = data.take rowLength := by
  unfold rowBytes
  rw [Nat.mul_zero, List.drop_zero]

/-- What is a later row of the data is one row earlier in what the first row leaves. -/
theorem rowBytes_succ (index : Nat) :
    rowBytes data (index + 1) = rowBytes (data.drop rowLength) index := by
  unfold rowBytes
  rw [List.drop_drop, Nat.mul_succ, Nat.add_comm]

/-- The rows that have been collected come first, and those of the rest follow. -/
theorem rowsOnto_eq (reversed : List String) (address : Nat) (data : List UInt8) :
    rowsOnto reversed address data = reversed.reverse ++
      (List.range (rowCount data)).map fun index =>
        rowText (address + rowLength * index) (rowBytes data index) := by
  induction reversed, address, data using rowsOnto.induct with
  | case1 reversed address data hempty =>
    obtain rfl := List.isEmpty_iff.mp hempty
    rw [rowsOnto, if_pos hempty, rowCount_nil, List.range_zero, List.map_nil, List.append_nil]
  | case2 reversed address data hempty ih =>
    have hdata : data ≠ [] := mt List.isEmpty_iff.mpr hempty
    have hnext : ∀ index, address + rowLength + rowLength * index
        = address + rowLength * (index + 1) := fun index => by rw [Nat.mul_succ]; omega
    rw [rowsOnto, if_neg hempty, ih, List.reverse_cons, List.append_assoc,
      rowCount_of_ne_nil hdata, List.range_succ_eq_map, List.map_cons, List.map_map]
    -- the row that this step adds is the first one, and the rest are the next ones
    simp only [List.singleton_append, Nat.mul_zero, Nat.add_zero, rowBytes_zero, hnext,
      Function.comp_def, Nat.succ_eq_add_one, rowBytes_succ]

/-- The rows by their indices: each shows the bytes from sixteen times its index on, at the
address of the first of them. -/
theorem rows_eq (address : Nat) (data : List UInt8) :
    rows address data = (List.range (rowCount data)).map fun index =>
      rowText (address + rowLength * index) (rowBytes data index) :=
  rowsOnto_eq [] address data

end HexDump

end Minidump
