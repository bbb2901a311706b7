import Minidump.LittleEndian

/-!
# Fixed layouts

Every record of a dump has a fixed size and stores its fields one after the
other, without padding, numbers in little-endian order. A layout says which
field comes where, once, and both directions follow from it.

- `Codec ρ α` — reads an `α` from bytes and writes a `ρ` to bytes; the two types
  differ only while a record is being described field by field;
- `Layout α` — a codec that reads what it writes;
- `Layout.record`, `Codec.field` — the description of a record: its constructor,
  then each field with its projection and its own layout;
- `Layout.vector` — a fixed number of equal entries, back to back.

Reading is total: it looks at the first `size` bytes, and bytes that are missing
count as zero. Callers hand over exactly `size` bytes.
-/

namespace Minidump

/-- A fixed-size description of bytes that read as an `α` and are written from a `ρ`. -/
structure Codec (ρ α : Type) where
  /-- How many bytes are described. -/
  size : Nat
  /-- Reads the first `size` bytes. -/
  decode : List UInt8 → α
  /-- Writes `size` bytes. -/
  encode : ρ → List UInt8

/-- A layout reads the type that it writes. -/
abbrev Layout (α : Type) := Codec α α

/-- Appends a field to the description of a record whose constructor still waits for it. -/
def Codec.field {ρ α γ : Type} (fields : Codec ρ (γ → α)) (get : ρ → γ) (layout : Layout γ) :
    Codec ρ α where
  size := fields.size + layout.size
  decode bs := fields.decode bs (layout.decode (bs.drop fields.size))
  encode r := fields.encode r ++ layout.encode (get r)

namespace Layout

/-- The description of a record before its first field: only its constructor is known. -/
def record {ρ α : Type} (mk : α) : Codec ρ α where
  size := 0
  decode _ := mk
  encode _ := []

/-- An unsigned number of `width` bytes, least significant byte first. -/
def word {α : Type} (width : Nat) (ofNat : Nat → α) (toNat : α → Nat) : Layout α where
  size := width
  decode bs := ofNat (LittleEndian.value (bs.take width))
  encode a := LittleEndian.bytes width (toNat a)

/-- One byte. -/
def u8 : Layout UInt8 := word 1 UInt8.ofNat UInt8.toNat

/-- A 16-bit number. -/
def u16 : Layout UInt16 := word 2 UInt16.ofNat UInt16.toNat

/-- A 32-bit number. -/
def u32 : Layout UInt32 := word 4 UInt32.ofNat UInt32.toNat

/-- A 64-bit number. -/
def u64 : Layout UInt64 := word 8 UInt64.ofNat UInt64.toNat

/-- A 128-bit register. -/
def u128 : Layout (BitVec 128) := word 16 (BitVec.ofNat 128) BitVec.toNat

/-- Equal entries, back to back. -/
def vector {α : Type} (n : Nat) (entry : Layout α) : Layout (Vector α n) where
  size := n * entry.size
  decode bs := Vector.ofFn fun i => entry.decode (bs.drop (i * entry.size))
  encode v := v.toList.flatMap entry.encode

end Layout

end Minidump
