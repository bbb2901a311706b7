import Minidump.StreamKind
import Minidump.Address.Range
import Minidump.Record.Directory
import Minidump.Text.Hex

/-!
# What can go wrong

- `Error` — one constructor per cause, with the numbers that its text shows;
- `EntryTable`, `Quantity` — which list has entries that are too small, and which
  sum or product needs more than 64 bits;
- `Error.message` — the text of a cause;
- `StreamKind.ofCode` — the kind with a given code, or the cause why there is none.
-/

namespace Minidump

/-- The lists that declare the size of their entries. -/
inductive EntryTable where
  | threadInfo
  | memoryInfo
  | unloadedModule
  | handle
deriving DecidableEq

/-- The computed numbers that have to stay below 2⁶⁴. -/
inductive Quantity where
  | streamSize
  | moduleRange
  | unloadedModuleRange
  | memory64Offset
  | regionOffset
  | environmentSize
  | fieldAddress
deriving DecidableEq

/-- The name of a computed number in messages. -/
def Quantity.name : Quantity → String
  | streamSize => "stream size"
  | moduleRange => "module range"
  | unloadedModuleRange => "unloaded module range"
  | memory64Offset => "memory64 list rva"
  | regionOffset => "region rva"
  | environmentSize => "environment block size"
  | fieldAddress => "field address"

/-- The causes of failure. -/
inductive Error where
  /-- The file does not start with the signature of a dump. -/
  | badSignature (found : UInt32)
  /-- No kind of stream has this code. -/
  | unknownStream (code : UInt32)
  /-- Streams of this kind are not decoded. -/
  | unsupportedStream (kind : StreamKind)
  /-- A memory range reaches beyond the last address. -/
  | regionOverflow (start size : Nat)
  /-- A memory range shares addresses with an earlier one. -/
  | regionOverlap (range other : AddressRange)
  /-- There is no list to build an address space from. -/
  | noMemoryList
  /-- No memory of the dump contains this address. -/
  | unmapped (address : Nat)
  /-- The file ends too early. -/
  | truncated (offset wanted : Nat)
  /-- The memory around an address ends too early. -/
  | shortRead (address wanted available : Nat)
  /-- A list of bytes cannot be 16-bit units. -/
  | oddLength (length : Nat)
  /-- A list does not fit into its stream. -/
  | streamTooShort (location : Location) (needed : Nat)
  /-- A list declares entries that are too small. -/
  | smallEntries (table : EntryTable) (size : Nat)
  /-- The thread info list declares a header that is too small. -/
  | smallThreadInfoHeader (size : Nat)
  /-- A register context is stored with too few bytes. -/
  | smallContext (size wanted : Nat)
  /-- A computed number needs more than 64 bits. -/
  | overflow (quantity : Quantity)
  /-- Wide text holds a surrogate without its partner. -/
  | loneSurrogate
  /-- There is no file with the given name. -/
  | fileNotFound
deriving DecidableEq

/-- The result of an operation that can fail. -/
abbrev Result (α : Type) := Except Error α

open Text

/-- A range as shown in messages. -/
def AddressRange.text (range : AddressRange) : String :=
  hexTagged range.start ++ "-" ++ hexTagged range.stop

/-- The text of entries that are too small. -/
def EntryTable.smallText (size : Nat) : EntryTable → String
  | threadInfo => s!"thread info entries are too small ({size})"
  | memoryInfo => s!"MemoryInfo's size (48) doesn't match the dump ({size})"
  | unloadedModule => s!"unloaded module entries are too small ({size})"
  | handle => s!"handle descriptors are too small ({size})"

namespace Error

/-- What the operating system says about a file that does not exist. -/
def fileNotFoundText : String := "No such file or directory (os error 2)"

/-- The text of a cause. -/
def message : Error → String
  | badSignature found =>
    "invalid minidump header: Header signature " ++ hex found.toNat ++ " is unexpected"
  | unknownStream code => "stream type " ++ hexTagged code.toNat ++ " is unknown"
  | unsupportedStream kind => "stream " ++ kind.name ++ " is recognized but not decoded"
  | regionOverflow start size =>
    "invalid address space: region " ++ hexTagged start ++ " of " ++ hexTagged size
      ++ " bytes overflows"
  | regionOverlap range other =>
    "invalid address space: region " ++ range.text ++ " overlaps with " ++ other.text
  | noMemoryList =>
    "invalid address space: the dump has neither a memory list nor a memory64 list"
  | unmapped address =>
    "virtual address " ++ hexTagged address ++ " is not backed by any memory region"
  | truncated offset wanted =>
    "the dump ends before " ++ hexTagged wanted ++ " bytes could be read at offset "
      ++ hexTagged offset
  | shortRead address wanted available =>
    "only " ++ hexTagged available ++ " bytes out of " ++ hexTagged wanted ++ " are mapped at "
      ++ hexTagged address
  | oddLength length => s!"invalid data: UTF16 buffer of {length} bytes isn't % 2"
  | streamTooShort location needed =>
    "invalid data: stream at " ++ hexTagged location.offset.toNat ++ " needs "
      ++ hexTagged needed ++ " bytes but is only " ++ hexTagged location.size.toNat
      ++ " bytes long"
  | smallEntries table size => "invalid data: " ++ table.smallText size
  | smallThreadInfoHeader size =>
    s!"invalid data: thread info list header is too small ({size})"
  | smallContext size wanted =>
    "invalid data: the context is " ++ hexTagged size ++ " bytes but " ++ hexTagged wanted
      ++ " are needed"
  | overflow quantity => "overflow: " ++ quantity.name
  | loneSurrogate => "utf16: invalid utf-16: lone surrogate found"
  | fileNotFound => "io: " ++ fileNotFoundText

end Error

/-- The kind with a given code. -/
def StreamKind.ofCode (code : UInt32) : Result StreamKind :=
  match StreamKind.ofCode? code with
  | some kind => .ok kind
  | none => .error (.unknownStream code)

end Minidump
