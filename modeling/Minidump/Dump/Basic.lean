import Minidump.Dump.Diagnostic
import Minidump.Process.Environment

/-!
# A parsed dump

- `Dump` — header, directory, contents, address space, process environment and
  diagnostics;
- `Dump.moduleAt?`, `Dump.thread?`, `Dump.regionAt?` — look-ups by address and
  identity;
- `Dump.memory?` — the memory of the process, whose bytes are in the file;
- `Dump.scanVirtual`, `Dump.scanVirtualEach`, `Dump.readVirtual` — one read of it,
  several, and one on a file of which nothing has been read.
-/

namespace Minidump

/-- A parsed dump. -/
structure Dump extends Contents where
  header : Header
  directories : List Directory
  addressSpace : Option AddressSpace
  environment : Option ProcessEnvironment
  diagnostics : List Diagnostic
deriving DecidableEq

namespace Dump

/-- The architecture, if it is one whose contexts are decoded. -/
def architecture? (dump : Dump) : Option Architecture :=
  dump.toContents.architecture?

/-- The thread that raised the exception, if the dump was written for one. -/
def foregroundThread? (dump : Dump) : Option UInt32 :=
  dump.exception.map (·.threadId)

/-- The first module whose range contains an address. -/
def moduleAt? (dump : Dump) (address : Nat) : Option Module :=
  dump.modules.find? fun m => m.range.Contains address

/-- The first thread with a given identity. -/
def thread? (dump : Dump) (id : UInt32) : Option Thread :=
  dump.threads.find? (·.id == id)

/-- The region that contains an address. -/
def regionAt? (dump : Dump) (address : Nat) : Option Region :=
  dump.addressSpace.bind (·.region? address)

/-- The memory of the process, if the dump has an address space. -/
def memory? (dump : Dump) (image : Image) : Option ProcessMemory :=
  dump.addressSpace.map fun space => { space, image }

/-- Reads up to `length` bytes of memory at an address, fewer if its region ends before.
Without an address space no address is mapped. -/
def scanVirtual (dump : Dump) (image : Image) (address length : Nat) : Scan (List UInt8) :=
  match dump.memory? image with
  | some memory => memory.readAt address length
  | none => throw (.unmapped address)

/-- Reads memory at one address after the other, through one position in the file. A read
that fails does not keep the next one from being answered. -/
def scanVirtualEach (dump : Dump) (image : Image) (requests : List (Nat × Nat)) :
    Scan (List (Result (List UInt8))) :=
  requests.mapM fun (address, length) => (dump.scanVirtual image address length).attempt

/-- Reads memory at an address, on a file of which nothing has been read. -/
def readVirtual (dump : Dump) (image : Image) (address length : Nat) : Result (List UInt8) :=
  (dump.scanVirtual image address length).runFrom 0

end Dump

end Minidump
