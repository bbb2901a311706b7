import Minidump.Stream.Entries
import Minidump.Stream.Text
import Minidump.Record.Module

/-!
# Modules

- `Module` — a file mapped into the process, with the range it occupies;
- `UnloadedModule` — one that was no longer there when the dump was written;
- `Scan.modules`, `Scan.unloadedModules` — the two module lists, in file order;
- `Image.modules`, `Image.unloadedModules` — the same on a file of which nothing has been
  read.
-/

namespace Minidump

/-- A file mapped into the process. -/
structure Module where
  range : AddressRange
  checksum : UInt32
  timestamp : UInt32
  path : String
  version : FileVersion
  cvRecord : List UInt8
  miscRecord : List UInt8
deriving DecidableEq

/-- The part of the path after its last separator. Paths follow the conventions of the
dumped machine, whatever the machine that reads the dump. -/
def Module.fileName (m : Module) : String :=
  String.ofList (m.path.toList.reverse.takeWhile fun c => c ≠ '\\' ∧ c ≠ '/').reverse

/-- A module that was no longer loaded when the dump was written. -/
structure UnloadedModule where
  range : AddressRange
  checksum : UInt32
  timestamp : UInt32
  name : String
deriving DecidableEq

/-- The range of a module whose end is below 2⁶⁴. -/
def moduleRange (quantity : Quantity) (base : UInt64) (size : UInt32) : Result AddressRange :=
  match AddressRange.ofSize? base.toNat size.toNat with
  | some range => .ok range
  | none => .error (.overflow quantity)

namespace Scan

/-- The module of a list entry, with the debug records and the name it refers to. -/
def moduleOfEntry (image : Image) (entry : ModuleEntry) : Scan Module := do
  let range ← moduleRange .moduleRange entry.base entry.imageSize
  let cvRecord ← block image entry.cvRecord
  let miscRecord ← block image entry.miscRecord
  let path ← textAt image entry.nameOffset.toNat
  pure {
    range
    checksum := entry.checksum
    timestamp := entry.timestamp
    path
    version := entry.version
    cvRecord
    miscRecord
  }

/-- The module list. All entries are read before anything that they refer to. -/
def modules (image : Image) (location : Location) : Scan (List Module) := do
  let entries ← countedList image ModuleEntry.layout location
  entries.mapM (moduleOfEntry image)

/-- The unloaded module whose entry is at an offset. -/
def unloadedModuleAt (image : Image) (offset : Nat) : Scan UnloadedModule := do
  let entry ← recordAt image UnloadedModuleEntry.layout offset
  let range ← moduleRange .unloadedModuleRange entry.base entry.imageSize
  let name ← textAt image entry.nameOffset.toNat
  pure { range, checksum := entry.checksum, timestamp := entry.timestamp, name }

/-- The unloaded module list. Entries may be longer than what is decoded of them. -/
def unloadedModules (image : Image) (location : Location) : Scan (List UnloadedModule) := do
  let offset := location.offset.toNat
  let table ← recordAt image TableHeader.layout offset
  let headerSize := table.headerSize.toNat
  let entrySize := table.entrySize.toNat
  if entrySize < UnloadedModuleEntry.layout.size then
    throw (.smallEntries .unloadedModule entrySize)
  location.checkFits headerSize table.count.toNat entrySize
  entries (unloadedModuleAt image) entrySize table.count.toNat (offset + headerSize)

end Scan

namespace Image

/-- The module list at a location. -/
def modules (image : Image) (location : Location) : Result (List Module) :=
  (Scan.modules image location).runFrom 0

/-- The unloaded module list at a location. -/
def unloadedModules (image : Image) (location : Location) : Result (List UnloadedModule) :=
  (Scan.unloadedModules image location).runFrom 0

end Image

end Minidump
