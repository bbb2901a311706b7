import Minidump.Stream.Memory

/-!
# The address space of the process

The memory lists say which addresses the dump has bytes for, and where they are in the
file. An address space keeps them as regions in address order, no two of which share an
address.

- `Region` — an address range and the offset of its first byte;
- `AddressSpace` — the regions, and the width of a pointer;
- `AddressSpace.insert` — adds a region, unless it overlaps one that is there;
- `AddressSpace.ofMemoryList`, `AddressSpace.ofMemory64List`, `AddressSpace.ofLists` —
  the address space of the memory lists;
- `AddressSpace.region?`, `AddressSpace.locate?` — the region of an address, and the
  place of its byte in the file.
-/

namespace Minidump

/-- The width of the addresses of a process. -/
inductive Bitness where
  | bits32
  | bits64
deriving DecidableEq

/-- The number of bytes in a pointer. -/
def Bitness.pointerSize : Bitness → Nat
  | bits32 => 4
  | bits64 => 8

/-- An address range whose bytes are in the file from `offset` on. -/
structure Region where
  range : AddressRange
  offset : Nat
deriving DecidableEq

/-- The region of `size` bytes at `start`, unless its end needs more than 64 bits. -/
def Region.ofSize (start size offset : Nat) : Result Region :=
  match AddressRange.ofSize? start size with
  | some range => .ok { range, offset }
  | none => .error (.regionOverflow start size)

/-- The region of a range of the memory list. -/
def Region.ofDescriptor (d : MemoryDescriptor) : Result Region :=
  Region.ofSize d.start.toNat d.location.size.toNat d.location.offset.toNat

/-- The region of a range of the 64-bit memory list whose bytes start at `offset`. -/
def Region.ofDescriptor64 (offset : Nat) (d : MemoryDescriptor64) : Result Region :=
  Region.ofSize d.start.toNat d.size.toNat offset

/-- Where the byte at an address is in the file, and how many bytes of its region there
are from it on. -/
structure FilePlace where
  offset : Nat
  available : Nat
deriving DecidableEq

/-- Regions in address order. -/
structure AddressSpace where
  bitness : Bitness
  regions : List Region
deriving DecidableEq

namespace AddressSpace

/-- The regions that start at or before an address. -/
def upTo (space : AddressSpace) (address : Nat) : List Region :=
  space.regions.takeWhile (·.range.start ≤ address)

/-- The regions that start after an address. -/
def after (space : AddressSpace) (address : Nat) : List Region :=
  space.regions.dropWhile (·.range.start ≤ address)

/-- The region that a new range overlaps: the closest one that starts no later than the
range if it reaches into it, else the closest one that starts later if the range reaches
into that. -/
def overlapping? (space : AddressSpace) (range : AddressRange) : Option Region :=
  ((space.upTo range.start).getLast?.filter fun r => range.start < r.range.stop) <|>
    ((space.after range.start).head?.filter fun r => r.range.start < range.stop)

/-- Adds a region. A region without addresses changes nothing. -/
def insert (space : AddressSpace) (region : Region) : Result AddressSpace :=
  if region.range.IsEmpty then .ok space
  else match space.overlapping? region.range with
    | some other => .error (.regionOverlap region.range other.range)
    | none => .ok { space with
        regions := space.upTo region.range.start ++ region :: space.after region.range.start }

/-- Adds the ranges of a memory list. -/
def insertList (space : AddressSpace) : List MemoryDescriptor → Result AddressSpace
  | [] => .ok space
  | d :: ranges => do
    let region ← Region.ofDescriptor d
    let space ← space.insert region
    space.insertList ranges

/-- Adds the ranges of a 64-bit memory list, the first of which has its bytes at
`offset`. -/
def insertList64 (space : AddressSpace) (offset : Nat) :
    List MemoryDescriptor64 → Result AddressSpace
  | [] => .ok space
  | d :: ranges => do
    let region ← Region.ofDescriptor64 offset d
    let space ← space.insert region
    match checkedAdd? offset d.size.toNat with
    | some offset => space.insertList64 offset ranges
    | none => .error (.overflow .memory64Offset)

/-- The highest address of a 32-bit process. -/
def last32BitAddress : Nat := 0xffffffff

/-- A memory list belongs to a 64-bit process if one of its ranges starts too high for a
32-bit one. -/
def bitnessOf (ranges : List MemoryDescriptor) : Bitness :=
  if ranges.any fun d => last32BitAddress < d.start.toNat then .bits64 else .bits32

/-- The address space of a memory list. -/
def ofMemoryList (list : MemoryList) : Result AddressSpace :=
  insertList { bitness := bitnessOf list.ranges, regions := [] } list.ranges

/-- The address space of a 64-bit memory list. -/
def ofMemory64List (list : Memory64List) : Result AddressSpace :=
  insertList64 { bitness := .bits64, regions := [] } list.baseOffset.toNat list.ranges

/-- The address space of the memory lists of a dump. The 64-bit list counts alone if it
is there. -/
def ofLists (memory : Option MemoryList) (memory64 : Option Memory64List) :
    Result AddressSpace :=
  match memory64, memory with
  | some list, _ => ofMemory64List list
  | none, some list => ofMemoryList list
  | none, none => .error .noMemoryList

/-- The region that contains an address. No other than the last one that starts at or
before the address can contain it. -/
def region? (space : AddressSpace) (address : Nat) : Option Region :=
  (space.upTo address).getLast?.filter fun r => r.range.Contains address

/-- The place of the byte at an address. -/
def locate? (space : AddressSpace) (address : Nat) : Option FilePlace :=
  (space.region? address).map fun r =>
    { offset := r.offset + (address - r.range.start)
      available := r.range.stop - address }

end AddressSpace

end Minidump
