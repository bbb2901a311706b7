import Minidump.Proofs.AddressArithmetic
import Minidump.Proofs.HexNumbers

/-!
# Dumps of memory are read back

Memory that is read at an address is shown in rows of one width, each with the address of its
first byte. The address takes the first sixteen characters of a row, the digits of a byte stand at
a fixed place for each column, and so does its character in the gutter; a last row that is not full
has blanks at these places. Nothing is lost on the way: the digits are read back as the bytes, the
places of the digits as their addresses, and these are the addresses from the first one on, up to
the length that was asked for or the end of the region.

- `HexDump.byteAt?`, `HexDump.bytesOfRows`, `HexDump.ShownAt` — reading rows;
- `HexDump.ShowsRow`, `HexDump.Shows` — what a row shows, and what rows show of data;
- `HexDump.shows_rowContents`, `HexDump.Shows.shownAt_iff` — the rows of data, and the addresses
  that they show;
- `CommandLine.ShowsExtent`, `CommandLine.ShowsMemory` — the line in front of them, and all that is
  shown;
- `CommandLine.memoryDump_read_back` — reads of memory, and what is shown of them.
-/

namespace Minidump

namespace HexDump

open Text

/-! ## Reading rows -/

/-- The number of characters of a row: sixteen digits of an address, two for each byte, a
character for each byte, and what separates them. -/
def rowWidth : Nat := 69

/-- Where the first of the two digits of a column stands in a row. -/
def digitPlace (column : Nat) : Nat := 18 + 2 * column

/-- Where the character of a column stands in a row. -/
def gutterPlace (column : Nat) : Nat := 52 + column

/-- The byte that the two digits of a column stand for, high half first. -/
def byteAt? (row : String) (column : Nat) : Option UInt8 :=
  match row.toList[digitPlace column]?.bind (digitValue? 16),
    row.toList[digitPlace column + 1]?.bind (digitValue? 16) with
  | some high, some low => some (UInt8.ofNat (16 * high + low))
  | _, _ => none

/-- The bytes of a row in the order of their columns, some of which may be blank. -/
def bytesOfRow (row : String) : List UInt8 :=
  (List.range rowLength).filterMap (byteAt? row)

/-- The bytes of rows in the order in which they are shown. -/
def bytesOfRows (rows : List String) : List UInt8 :=
  rows.flatMap bytesOfRow

/-- The first characters of a row. -/
def addressColumn (row : String) : String :=
  String.ofList (row.toList.take 16)

/-- Some row shows a byte at an address: the address that the row starts with, and as many more
as there are columns in front of the byte. -/
def ShownAt (rows : List String) (address : Nat) (byte : UInt8) : Prop :=
  ∃ row ∈ rows, ∃ first column, IsAddress (addressColumn row) first ∧ column < rowLength ∧
    byteAt? row column = some byte ∧ address = first + column

/-! ## What rows show -/

/-- A row shows bytes at an address. It is as wide as every other one and starts with the address.
For each byte there are its two digits, and in the gutter the byte itself if it is visible, else a
dot; where there is no byte, there are blanks. -/
structure ShowsRow (address : Nat) (bs : List UInt8) (row : String) : Prop where
  length_eq : row.length = rowWidth
  unbroken : '\n' ∉ row.toList
  starts : IsAddress (addressColumn row) address
  digits : ∀ (column : Nat) (b : UInt8), bs[column]? = some b →
    row.toList[digitPlace column]? = some (Nat.digitChar (b.toNat / 16)) ∧
      row.toList[digitPlace column + 1]? = some (Nat.digitChar (b.toNat % 16))
  visible : ∀ (column : Nat) (b : UInt8), bs[column]? = some b → 0x21 ≤ b → b ≤ 0x7e →
    row.toList[gutterPlace column]? = some (Char.ofNat b.toNat)
  dot : ∀ (column : Nat) (b : UInt8), bs[column]? = some b → ¬ (0x21 ≤ b ∧ b ≤ 0x7e) →
    row.toList[gutterPlace column]? = some '.'
  blank : ∀ column < rowLength, bs.length ≤ column →
    row.toList[digitPlace column]? = some ' ' ∧ row.toList[digitPlace column + 1]? = some ' ' ∧
      row.toList[gutterPlace column]? = some ' '

/-- Rows show data at an address: there is one for every sixteen bytes, begun or full, each shows
its bytes at the address of the first of them, and together they are read back as the data. -/
structure Shows (address : Nat) (data : List UInt8) (rows : List String) : Prop where
  length_eq : rows.length = (data.length + 15) / 16
  row : ∀ index row, rows[index]? = some row →
    ShowsRow (address + 16 * index) ((data.drop (16 * index)).take 16) row
  bytes_eq : bytesOfRows rows = data

variable {address : Nat} {bs data : List UInt8} {row : String} {contents : List String}

theorem filterMap_range_getElem? (bs : List UInt8) (count : Nat) :
    (List.range count).filterMap (fun column => bs[column]?) = bs.take count := by
  induction count with
  | zero => rw [List.range_zero, List.take_zero, List.filterMap_nil]
  | succ count ih =>
    rw [List.range_succ, List.filterMap_append, ih, List.take_add_one]
    rfl

namespace ShowsRow

/-- The digits of a column are read back as the byte, and blanks as no byte. -/
theorem byteAt?_eq (h : ShowsRow address bs row) {column : Nat} (hcolumn : column < rowLength) :
    byteAt? row column = bs[column]? := by
  unfold byteAt?
  cases hbyte : bs[column]? with
  | none =>
    obtain ⟨hhigh, -⟩ := h.blank column hcolumn (List.getElem?_eq_none_iff.mp hbyte)
    rw [hhigh]
    rfl
  | some b =>
    obtain ⟨hhigh, hlow⟩ := h.digits column b hbyte
    have hb : b.toNat < 256 := b.toNat_lt
    rw [hhigh, hlow, Option.bind_some, Option.bind_some, digitValue?_digitChar (by omega),
      digitValue?_digitChar (Nat.mod_lt _ (by decide))]
    show some (UInt8.ofNat (16 * (b.toNat / 16) + b.toNat % 16)) = some b
    rw [Nat.div_add_mod, UInt8.ofNat_toNat]

theorem bytesOfRow_eq (h : ShowsRow address bs row) (hlength : bs.length ≤ rowLength) :
    bytesOfRow row = bs := by
  have hcolumns : ∀ column ∈ List.range rowLength, byteAt? row column = bs[column]? :=
    fun column hcolumn => h.byteAt?_eq (List.mem_range.mp hcolumn)
  unfold bytesOfRow
  rw [List.filterMap_congr hcolumns, filterMap_range_getElem?, List.take_of_length_le hlength]

end ShowsRow

/-! ## The characters of a row -/

/-- A row without its line break. -/
def rowContent (address : Nat) (bs : List UInt8) : String :=
  hexPadded 16 address ++ ": " ++ String.ofList (digitColumns bs) ++ " |"
    ++ String.ofList (gutter bs) ++ "|"

theorem rowText_eq (address : Nat) (bs : List UInt8) :
    rowText address bs = line (rowContent address bs) := by
  unfold rowText rowContent line
  rw [show "|\n" = "|" ++ "\n" from rfl, ← String.append_assoc]

theorem toList_rowContent (address : Nat) (bs : List UInt8) : (rowContent address bs).toList
    = (hexPadded 16 address).toList ++ ([':', ' '] ++ (digitColumns bs ++ ([' ', '|']
        ++ (gutter bs ++ ['|'])))) := by
  simp [rowContent]

theorem getElem?_append_add {α : Type} {front : List α} {n : Nat} (h : front.length = n)
    (rest : List α) (k : Nat) : (front ++ rest)[n + k]? = rest[k]? := by
  rw [List.getElem?_append_right (by omega), h, Nat.add_sub_cancel_left]

theorem getElem?_rightpad_of_le {α : Type} {l : List α} {n k : Nat} (a : α) (hl : l.length ≤ k)
    (hk : k < n) : (l.rightpad n a)[k]? = some a := by
  unfold List.rightpad
  rw [List.getElem?_append_right hl, List.getElem?_replicate_of_lt (by omega)]

theorem getElem?_rightpad_of_eq_some {α : Type} {l : List α} {n k : Nat} {a c : α}
    (h : l[k]? = some c) : (l.rightpad n a)[k]? = some c := by
  unfold List.rightpad
  rw [List.getElem?_append_left (List.getElem?_eq_some_iff.mp h).1, h]

theorem mem_or_eq_of_mem_rightpad {α : Type} {l : List α} {n : Nat} {a c : α}
    (h : c ∈ l.rightpad n a) : c ∈ l ∨ c = a := by
  unfold List.rightpad at h
  obtain hmem | hpadding := List.mem_append.mp h
  · exact .inl hmem
  · exact .inr (List.eq_of_mem_replicate hpadding)

theorem length_flatMap_hexByte (bs : List UInt8) : (bs.flatMap hexByte).length = 2 * bs.length := by
  induction bs with
  | nil => rfl
  | cons b bs ih =>
    rw [List.flatMap_cons, List.length_append, ih, List.length_cons]
    show 2 + 2 * bs.length = 2 * (bs.length + 1)
    omega

/-- The digits of a byte stand behind two digits for each byte before it. -/
theorem getElem?_flatMap_hexByte {column : Nat} {b : UInt8} (h : bs[column]? = some b) :
    (bs.flatMap hexByte)[2 * column]? = some (Nat.digitChar (b.toNat / 16)) ∧
      (bs.flatMap hexByte)[2 * column + 1]? = some (Nat.digitChar (b.toNat % 16)) := by
  induction bs generalizing column with
  | nil => cases h
  | cons first bs ih =>
    rw [List.flatMap_cons]
    cases column with
    | zero =>
      cases h
      exact ⟨rfl, rfl⟩
    | succ column =>
      have hplace : 2 * (column + 1) = 2 + 2 * column := by omega
      have hfirst : (hexByte first).length = 2 := rfl
      rw [hplace, Nat.add_assoc, getElem?_append_add hfirst, getElem?_append_add hfirst]
      exact ih h

theorem length_digitColumns (h : bs.length ≤ rowLength) : (digitColumns bs).length = 32 := by
  unfold rowLength at h
  unfold digitColumns rowLength
  rw [List.length_rightpad, length_flatMap_hexByte]
  omega

theorem length_gutter (h : bs.length ≤ rowLength) : (gutter bs).length = 16 := by
  unfold rowLength at h
  unfold gutter rowLength
  rw [List.length_rightpad, List.length_map]
  omega

theorem mem_digitColumns {c : Char} (h : c ∈ digitColumns bs) :
    c = ' ' ∨ ∃ d < 16, c = Nat.digitChar d := by
  obtain hdigit | hblank := mem_or_eq_of_mem_rightpad h
  · obtain ⟨b, -, hb⟩ := List.mem_flatMap.mp hdigit
    have hlt : b.toNat < 256 := b.toNat_lt
    obtain rfl | rfl : c = Nat.digitChar (b.toNat / 16) ∨ c = Nat.digitChar (b.toNat % 16) := by
      simpa [hexByte] using hb
    · exact .inr ⟨b.toNat / 16, by omega, rfl⟩
    · exact .inr ⟨b.toNat % 16, by omega, rfl⟩
  · exact .inl hblank

theorem mem_gutter {c : Char} (h : c ∈ gutter bs) : c = ' ' ∨ ∃ b, c = gutterChar b := by
  obtain hchar | hblank := mem_or_eq_of_mem_rightpad h
  · obtain ⟨b, -, rfl⟩ := List.mem_map.mp hchar
    exact .inr ⟨b, rfl⟩
  · exact .inl hblank

theorem gutterChar_of_visible {b : UInt8} (hfirst : 0x21 ≤ b) (hlast : b ≤ 0x7e) :
    gutterChar b = Char.ofNat b.toNat :=
  if_pos ⟨hfirst, hlast⟩

theorem gutterChar_ne_newline (b : UInt8) : gutterChar b ≠ '\n' := by
  have hall : ∀ n < 256, gutterChar (UInt8.ofNat n) ≠ '\n' := by decide +kernel
  have hb := hall b.toNat b.toNat_lt
  rwa [UInt8.ofNat_toNat] at hb

section RowContent

variable (haddress : address < addressLimit) (hlength : bs.length ≤ rowLength)

include haddress

theorem length_addressDigits : (hexPadded 16 address).toList.length = 16 :=
  String.length_toList.trans (isAddress_hexPadded haddress).length_eq

theorem addressColumn_rowContent (bs : List UInt8) :
    addressColumn (rowContent address bs) = hexPadded 16 address := by
  unfold addressColumn
  rw [toList_rowContent, List.take_left' (length_addressDigits haddress), String.ofList_toList]

include hlength

theorem length_rowContent : (rowContent address bs).length = rowWidth := by
  rw [← String.length_toList, toList_rowContent]
  simp only [List.length_append, length_addressDigits haddress, length_digitColumns hlength,
    length_gutter hlength]
  rfl

/-- The digits stand behind the address and a separator. -/
theorem getElem?_digitPlace {column : Nat} (hcolumn : column < 16) :
    (rowContent address bs).toList[digitPlace column]? = (digitColumns bs)[2 * column]? ∧
      (rowContent address bs).toList[digitPlace column + 1]?
        = (digitColumns bs)[2 * column + 1]? := by
  have hfront : ((hexPadded 16 address).toList ++ [':', ' ']).length = 18 := by
    rw [List.length_append, length_addressDigits haddress]
    rfl
  have hplace : ∀ k < 32, (rowContent address bs).toList[18 + k]? = (digitColumns bs)[k]? := by
    intro k hk
    rw [toList_rowContent, ← List.append_assoc, getElem?_append_add hfront,
      List.getElem?_append_left (length_digitColumns hlength ▸ hk)]
  exact ⟨hplace (2 * column) (by omega), hplace (2 * column + 1) (by omega)⟩

/-- The gutter stands behind the digits and a separator. -/
theorem getElem?_gutterPlace {column : Nat} (hcolumn : column < 16) :
    (rowContent address bs).toList[gutterPlace column]? = (gutter bs)[column]? := by
  have hfront : ((hexPadded 16 address).toList ++ [':', ' '] ++ digitColumns bs
      ++ [' ', '|']).length = 52 := by
    simp only [List.length_append, length_addressDigits haddress, length_digitColumns hlength]
    rfl
  unfold gutterPlace
  rw [toList_rowContent, ← List.append_assoc, ← List.append_assoc, ← List.append_assoc,
    getElem?_append_add hfront, List.getElem?_append_left (length_gutter hlength ▸ hcolumn)]

theorem getElem?_gutterPlace_of_eq_some {column : Nat} {b : UInt8}
    (hbyte : bs[column]? = some b) :
    (rowContent address bs).toList[gutterPlace column]? = some (gutterChar b) := by
  have hcolumn : column < 16 := (List.getElem?_eq_some_iff.mp hbyte).1.trans_le hlength
  rw [getElem?_gutterPlace haddress hlength hcolumn]
  apply getElem?_rightpad_of_eq_some
  rw [List.getElem?_map, hbyte]
  rfl

end RowContent

theorem newline_not_mem_rowContent (address : Nat) (bs : List UInt8) :
    '\n' ∉ (rowContent address bs).toList := by
  have hdigit : ∀ d < 16, Nat.digitChar d ≠ '\n' := by decide
  intro hmem
  rw [toList_rowContent] at hmem
  simp only [List.mem_append] at hmem
  obtain haddress | hmem | hcolumns | hmem | hgutter | hmem := hmem
  · obtain ⟨d, hd, heq⟩ := exists_of_mem_hexPadded haddress
    exact hdigit d hd heq.symm
  · exact absurd hmem (by decide)
  · obtain hblank | ⟨d, hd, heq⟩ := mem_digitColumns hcolumns
    · exact absurd hblank (by decide)
    · exact hdigit d hd heq.symm
  · exact absurd hmem (by decide)
  · obtain hblank | ⟨b, heq⟩ := mem_gutter hgutter
    · exact absurd hblank (by decide)
    · exact gutterChar_ne_newline b heq.symm
  · exact absurd hmem (by decide)

theorem showsRow_rowContent (haddress : address < addressLimit) (hlength : bs.length ≤ rowLength) :
    ShowsRow address bs (rowContent address bs) where
  length_eq := length_rowContent haddress hlength
  unbroken := newline_not_mem_rowContent address bs
  starts := by
    rw [addressColumn_rowContent haddress]
    exact isAddress_hexPadded haddress
  digits := by
    intro column b hbyte
    have hcolumn : column < 16 := (List.getElem?_eq_some_iff.mp hbyte).1.trans_le hlength
    obtain ⟨hhigh, hlow⟩ := getElem?_flatMap_hexByte hbyte
    obtain ⟨hfirst, hsecond⟩ := getElem?_digitPlace haddress hlength hcolumn
    exact ⟨hfirst.trans (getElem?_rightpad_of_eq_some hhigh),
      hsecond.trans (getElem?_rightpad_of_eq_some hlow)⟩
  visible := by
    intro column b hbyte hfirst hlast
    rw [getElem?_gutterPlace_of_eq_some haddress hlength hbyte,
      gutterChar_of_visible hfirst hlast]
  dot := by
    intro column b hbyte hhidden
    rw [getElem?_gutterPlace_of_eq_some haddress hlength hbyte]
    exact congrArg some (if_neg hhidden)
  blank := by
    intro column hcolumn hbeyond
    have hcolumn : column < 16 := hcolumn
    have hdigits : (bs.flatMap hexByte).length ≤ 2 * column := by
      rw [length_flatMap_hexByte]
      omega
    have hblank : ∀ k, 2 * column ≤ k → k < 32 → (digitColumns bs)[k]? = some ' ' :=
      fun k hk hlt => getElem?_rightpad_of_le ' ' (hdigits.trans hk) hlt
    obtain ⟨hfirst, hsecond⟩ := getElem?_digitPlace haddress hlength hcolumn
    refine ⟨hfirst.trans (hblank _ (by omega) (by omega)),
      hsecond.trans (hblank _ (by omega) (by omega)), ?_⟩
    rw [getElem?_gutterPlace haddress hlength hcolumn]
    exact getElem?_rightpad_of_le ' ' (by rwa [List.length_map]) hcolumn

/-! ## The rows of data -/

theorem flatMap_rowBytes (data : List UInt8) (count : Nat) :
    (List.range count).flatMap (rowBytes data) = data.take (rowLength * count) := by
  induction count with
  | zero => rfl
  | succ count ih =>
    rw [List.range_succ, List.flatMap_append, ih, Nat.mul_succ, List.take_add,
      List.flatMap_singleton]
    rfl

theorem length_rowBytes_le (data : List UInt8) (index : Nat) :
    (rowBytes data index).length ≤ rowLength :=
  List.length_take_le ..

/-- The rows of data without their line breaks. -/
def rowContents (address : Nat) (data : List UInt8) : List String :=
  (List.range (rowCount data)).map fun index =>
    rowContent (address + rowLength * index) (rowBytes data index)

theorem rows_eq_map_line (address : Nat) (data : List UInt8) :
    rows address data = (rowContents address data).map line := by
  unfold rowContents
  rw [rows_eq, List.map_map]
  exact List.map_congr_left fun index _ => rowText_eq _ _

/-- The rows of data show it. -/
theorem shows_rowContents (h : address + data.length < addressLimit) :
    Shows address data (rowContents address data) := by
  have hshown : ∀ index < rowCount data, ShowsRow (address + rowLength * index)
      (rowBytes data index) (rowContent (address + rowLength * index) (rowBytes data index)) :=
    fun index hindex =>
      showsRow_rowContent ((staysInRange h).row_lt index hindex) (length_rowBytes_le ..)
  refine ⟨?length_eq, ?row, ?bytes_eq⟩
  case length_eq => exact (List.length_map _).trans List.length_range
  case row =>
    intro index row hrow
    obtain ⟨found, hfound, rfl⟩ := Option.map_eq_some_iff.mp (List.getElem?_map ▸ hrow)
    obtain ⟨hindex, rfl⟩ := List.getElem?_eq_some_iff.mp hfound
    rw [List.length_range] at hindex
    rw [List.getElem_range]
    exact hshown index hindex
  case bytes_eq =>
    have hread : ∀ index ∈ List.range (rowCount data),
        bytesOfRow (rowContent (address + rowLength * index) (rowBytes data index))
          = rowBytes data index := fun index hindex =>
      (hshown index (List.mem_range.mp hindex)).bytesOfRow_eq (length_rowBytes_le ..)
    have hcount : data.length ≤ rowLength * rowCount data := by
      unfold rowCount rowLength
      omega
    unfold bytesOfRows rowContents
    rw [List.flatMap_map, List.flatMap_congr hread, flatMap_rowBytes,
      List.take_of_length_le hcount]

namespace Shows

/-- The byte in a column of a row is read back from there. -/
theorem byteAt?_eq (h : Shows address data contents) {index column : Nat}
    (hrow : contents[index]? = some row) (hcolumn : column < 16) :
    byteAt? row column = data[16 * index + column]? := by
  rw [(h.row index row hrow).byteAt?_eq hcolumn, List.getElem?_take_of_lt hcolumn,
    List.getElem?_drop]

/-- What rows show at an address is the byte that lies as far into the data as the address is
behind the first one. -/
theorem shownAt_iff (h : Shows address data contents) {a : Nat} {b : UInt8} :
    ShownAt contents a b ↔ ∃ k, data[k]? = some b ∧ a = address + k := by
  constructor
  · rintro ⟨row, hrow, first, column, hfirst, hcolumn, hbyte, rfl⟩
    obtain ⟨index, hindex⟩ := List.mem_iff_getElem?.mp hrow
    have heq : first = address + 16 * index :=
      Except.ok.inj (hfirst.value.symm.trans (h.row index row hindex).starts.value)
    rw [h.byteAt?_eq hindex hcolumn] at hbyte
    exact ⟨16 * index + column, hbyte, by omega⟩
  · rintro ⟨k, hbyte, rfl⟩
    have hk : k < data.length := (List.getElem?_eq_some_iff.mp hbyte).1
    have hindex : k / 16 < contents.length := by
      rw [h.length_eq]
      omega
    have hrow : contents[k / 16]? = some contents[k / 16] := List.getElem?_eq_getElem hindex
    have hcolumn : k % 16 < 16 := Nat.mod_lt _ (by decide)
    refine ⟨contents[k / 16], List.getElem_mem hindex, address + 16 * (k / 16), k % 16,
      (h.row _ _ hrow).starts, hcolumn, ?_, by omega⟩
    rw [h.byteAt?_eq hrow hcolumn, Nat.div_add_mod]
    exact hbyte

end Shows

/-- The last row need not be full. -/
example : rows 0x1000 [0x41, 0x00]
    = ["0000000000001000: 4100                             |A.              |\n"] := by
  rw [rows_eq]
  decide

end HexDump

/-! ## Reads of memory -/

namespace Dump

variable {image : Image} {dump : Dump}

/-- A read of memory answers with as many bytes as lie in front of the end of the region, but with
no more than were asked for. -/
theorem exists_region_length_of_mappedBytes (hdump : image.dump = .ok dump) {address length : Nat}
    {data : List UInt8} (h : dump.mappedBytes image address length = .ok data) :
    ∃ space region, dump.addressSpace = some space ∧ space.region? address = some region ∧
      address + data.length = min (address + length) region.range.stop := by
  obtain ⟨space, region, hspace, hregion, -⟩ := exists_region_of_mappedBytes hdump h
  obtain ⟨described, hbuilt⟩ := exists_builtFrom_of_dump hdump hspace
  refine ⟨space, region, hspace, hregion, ?_⟩
  obtain ⟨-, -, hstop⟩ := hbuilt.region?_eq_some_iff.mp hregion
  rw [mappedBytes_of_some hspace, ProcessMemory.bytesUpTo_of_region? hregion] at h
  rw [Image.length_of_readBytes h]
  show address + min length (region.range.stop - address) = _
  omega

end Dump

namespace CommandLine

open Text

/-- The line in front of the rows has the first address and the one behind the last. -/
def ShowsExtent (first last : Nat) (extent : String) : Prop :=
  ∃ front back, IsAddress front first ∧ IsAddress back last ∧ extent = front ++ " -> " ++ back

/-- Memory is shown by a title, the extent and the rows of the data, without a failure, and every
report that asks for this memory and does not fail ends with them. -/
structure ShowsMemory (dump : Dump) (image : Image) (address length : Nat) (data : List UInt8)
    (extent : String) (rows : List String) : Prop where
  shows_extent : ShowsExtent address (address + data.length) extent
  shows_rows : HexDump.Shows address data rows
  output : memoryDump dump image address length
    = { output := lines ("Memory:" :: extent :: rows) }
  reported : ∀ arguments : Arguments, arguments.dump = some address →
    arguments.wantedLength = length → (Report.ofDump arguments image dump).failure = none →
      ∃ front, (Report.ofDump arguments image dump).output
        = front ++ lines ("Memory:" :: extent :: rows)

variable {image : Image} {dump : Dump}

/-- A report that has not failed shows what its last part shows, behind everything else. -/
theorem Report.exists_output_sequence {parts : List Report} {last : Report}
    (h : (sequence (parts ++ [last])).failure = none) :
    ∃ front, (sequence (parts ++ [last])).output = front ++ last.output := by
  have hlast : sequence (parts ++ [last]) = (sequence parts).andThen last := List.foldl_concat ..
  rw [hlast] at h ⊢
  unfold andThen at h ⊢
  cases hfailure : (sequence parts).failure with
  | some failure =>
    rw [hfailure] at h
    cases hfailure.symm.trans h
  | none => exact ⟨(sequence parts).output, rfl⟩

theorem Report.exists_output_ofDump {arguments : Arguments} {address : Nat}
    (haddress : arguments.dump = some address) (h : (ofDump arguments image dump).failure = none) :
    ∃ front, (ofDump arguments image dump).output
      = front ++ (memoryDump dump image address arguments.wantedLength).output := by
  have hparts : ofDump arguments image dump = sequence ([
      part (arguments.wants .summary) dump.summary,
      part (arguments.wants .modules) (moduleList dump),
      part (arguments.wants .memoryMap) (memoryMap dump),
      (arguments.wantedThreads?).elim { output := "" } (threadList dump),
      part (arguments.wants .process) (processText dump),
      part (arguments.wants .environment) (variableList dump)]
        ++ [memoryDump dump image address arguments.wantedLength]) := by
    unfold ofDump
    rw [haddress]
    rfl
  rw [hparts] at h ⊢
  exact exists_output_sequence h

theorem memoryDump_eq {address length : Nat} {data : List UInt8}
    (h : dump.readVirtual image address length = .ok data) :
    memoryDump dump image address length = { output := lines ("Memory:" ::
      (hexPadded 16 address ++ " -> " ++ hexPadded 16 (address + data.length)) ::
        HexDump.rowContents address data) } := by
  unfold memoryDump lines
  rw [h]
  show ({ output := line "Memory:" ++ line (hexPadded 16 address ++ " -> "
    ++ hexPadded 16 (address + data.length)) ++ String.join (HexDump.rows address data) }
      : Report) = _
  rw [HexDump.rows_eq_map_line, List.map_cons, List.map_cons, String.join_cons, String.join_cons,
    ← String.append_assoc]

/-- What is read below the last address is shown. -/
theorem exists_showsMemory {address length : Nat} {data : List UInt8}
    (hread : dump.readVirtual image address length = .ok data)
    (hlast : address + data.length < addressLimit) :
    ∃ extent rows, ShowsMemory dump image address length data extent rows := by
  have hfirst : address < addressLimit := by omega
  refine ⟨_, HexDump.rowContents address data, ⟨_, _, isAddress_hexPadded hfirst,
    isAddress_hexPadded hlast, rfl⟩, HexDump.shows_rowContents hlast, memoryDump_eq hread, ?_⟩
  rintro arguments haddress rfl hfailure
  obtain ⟨front, houtput⟩ := Report.exists_output_ofDump haddress hfailure
  rw [memoryDump_eq hread] at houtput
  exact ⟨front, houtput⟩

/-- **Nothing is lost when memory is shown.** Of every read of a parsed dump that gives data, the
program shows the first address and the one behind the last, and the rows of the data. The rows are
read back as the data, each byte that they show is the one that memory holds at its address, and
their addresses are those from the first one on, up to the length that was asked for or the end of
the region. -/
theorem memoryDump_read_back {start position address length : Nat} {data : List UInt8}
    (hdump : (Scan.dump image).runFrom start = .ok dump)
    (hread : (dump.scanVirtual image address length).runFrom position = .ok data) :
    ∃ extent rows, ShowsMemory dump image address length data extent rows ∧
      ∃ space region, dump.addressSpace = some space ∧ space.region? address = some region ∧
        (∀ a b, HexDump.ShownAt rows a b → ProcessMemory.HasByte { space, image } region a b) ∧
        ∀ a, (∃ b, HexDump.ShownAt rows a b) ↔
          address ≤ a ∧ a < min (address + length) region.range.stop := by
  have hdump : image.dump = .ok dump := (Scan.gives_dump image start).symm.trans hdump
  have hanswers : ∀ origin, (dump.scanVirtual image address length).runFrom origin
      = dump.mappedBytes image address length :=
    Scan.runFrom_eq_of_gives (Dump.scanVirtual_gives hdump address length)
  have hdata : dump.mappedBytes image address length = .ok data :=
    (hanswers position).symm.trans hread
  obtain ⟨extent, rows, hshows⟩ := exists_showsMemory ((hanswers 0).trans hdata)
    (Dump.add_length_lt_of_mappedBytes hdump hdata)
  obtain ⟨space, region, hspace, hregion, hend⟩ :=
    Dump.exists_region_length_of_mappedBytes hdump hdata
  refine ⟨extent, rows, hshows, space, region, hspace, hregion, ?held, ?covered⟩
  case held =>
    intro a b hshown
    obtain ⟨k, hbyte, rfl⟩ := hshows.shows_rows.shownAt_iff.mp hshown
    obtain ⟨other, found, hother, hfound, hheld⟩ := Dump.exists_region_of_mappedBytes hdump hdata
    cases hspace.symm.trans hother
    cases hregion.symm.trans hfound
    exact hheld k b hbyte
  case covered =>
    intro a
    rw [← hend]
    constructor
    · rintro ⟨b, hshown⟩
      obtain ⟨k, hbyte, rfl⟩ := hshows.shows_rows.shownAt_iff.mp hshown
      have hk : k < data.length := (List.getElem?_eq_some_iff.mp hbyte).1
      omega
    · rintro ⟨hle, hlt⟩
      have hk : a - address < data.length := by omega
      exact ⟨data[a - address], hshows.shows_rows.shownAt_iff.mpr
        ⟨a - address, List.getElem?_eq_getElem hk, by omega⟩⟩

/-- More is asked for than the region has: a row is full and the last one has one byte, and the
bytes around those that are visible are shown as dots. -/
theorem memoryDump_read_back_clamped :
    let data : List UInt8 := [0x20, 0x21, 0x7e, 0x7f] ++ List.replicate 12 0 ++ [0xff];
    let bs : List UInt8 :=
      [0x4d, 0x44, 0x4d, 0x50, 0, 0, 0, 0, 1, 0, 0, 0, 32, 0, 0, 0] ++ List.replicate 16 0
        ++ [5, 0, 0, 0, 20, 0, 0, 0, 44, 0, 0, 0] ++ [1, 0, 0, 0]
        ++ [0, 0x10, 0, 0, 0, 0, 0, 0, 18, 0, 0, 0, 64, 0, 0, 0] ++ [0x41] ++ data;
    let image : Image := ⟨⟨bs.toArray⟩⟩;
    ∃ dump, (Scan.dump image).runFrom 3 = .ok dump ∧
      (dump.scanVirtual image 0x1001 100).runFrom 5 = .ok data ∧
      ∃ extent rows, ShowsMemory dump image 0x1001 100 data extent rows ∧
        ∀ a, (∃ b, HexDump.ShownAt rows a b) ↔ 0x1001 ≤ a ∧ a < 0x1012 := by
  intro data bs image
  have hspace : Dump.addressSpace <$> (Scan.dump image).runFrom 3
      = .ok (some { bitness := .bits32, regions := [⟨⟨0x1000, 0x1012⟩, 64⟩] }) := by
    decide +kernel
  cases hdump : (Scan.dump image).runFrom 3 with
  | error cause =>
    rw [hdump] at hspace
    cases hspace
  | ok dump =>
    rw [hdump] at hspace
    have hspace : dump.addressSpace = some _ := Except.ok.inj hspace
    have hread : (dump.scanVirtual image 0x1001 100).runFrom 5 = .ok data := by
      rw [Scan.runFrom_eq_of_gives
        (Dump.scanVirtual_gives ((Scan.gives_dump image 3).symm.trans hdump) _ _),
        Dump.mappedBytes_of_some hspace]
      decide +kernel
    obtain ⟨extent, rows, hshows, space, region, hfound, hregion, -, hcovered⟩ :=
      memoryDump_read_back hdump hread
    cases hspace.symm.trans hfound
    cases hregion
    exact ⟨dump, rfl, hread, extent, rows, hshows, hcovered⟩

end CommandLine

end Minidump
