import Minidump.Virtual.Cursor
import Minidump.Process.Offsets
import Minidump.Process.EnvironmentBlock

/-!
# What a process knows about itself

From the TEB of a thread a chain of pointers leads to the image path, the command line
and the environment of the process. The walk along it ends at the first step that fails,
so a `ProcessEnvironment` is complete.

- `ProcessEnvironment` — what the walk finds;
- `ProcessMemory.readCountedString` — a string with its length in bytes and a pointer to
  its characters;
- `ProcessMemory.readEnvironmentBlock` — the block from an address up to the end of its
  region;
- `ProcessMemory.walk` — the whole walk.
-/

namespace Minidump

/-- What a process knows about itself. -/
structure ProcessEnvironment where
  pebAddress : Nat
  beingDebugged : Bool
  imageBaseAddress : Nat
  imagePath : String
  commandLine : String
  windowTitle : String
  dllPath : String
  currentDirectory : String
  standardInput : Nat
  standardOutput : Nat
  standardError : Nat
  environmentVariables : List EnvironmentVariable
deriving DecidableEq

/-- The address of a field, unless it needs more than 64 bits. -/
def fieldAddress (base offset : Nat) : Result Nat :=
  match checkedAdd? base offset with
  | some address => .ok address
  | none => .error (.overflow .fieldAddress)

namespace ProcessMemory

/-- Reads the pointer in the field at an offset from `base`. -/
def readPointerField (memory : ProcessMemory) (base offset : Nat) : Access Nat := do
  let address ← fieldAddress base offset
  memory.readPointerAt address

/-- Reads the counted string at an address. The pointer of an empty string is not looked
at. -/
def readCountedString (memory : ProcessMemory) (offsets : FieldOffsets) (address : Nat) :
    Access String := do
  memory.seek address
  let length ← memory.readUInt16
  if length = 0 then
    pure ""
  else
    let buffer ← memory.readPointerField address offsets.stringBuffer
    memory.seek buffer
    let bs ← memory.readExact length.toNat
    Utf16.decode bs

/-- Reads the counted string in the field at an offset from `base`. -/
def readStringField (memory : ProcessMemory) (offsets : FieldOffsets) (base offset : Nat) :
    Access String := do
  let address ← fieldAddress base offset
  memory.readCountedString offsets address

/-- Reads the environment block at an address, which ends with its region at the
latest. -/
def readEnvironmentBlock (memory : ProcessMemory) (address : Nat) :
    Access (List EnvironmentVariable) := do
  memory.seek address
  let cursor ← get
  if addressLimit ≤ cursor.remaining then
    throw (.overflow .environmentSize)
  else
    let block ← memory.read cursor.remaining
    EnvironmentBlock.decode block

/-- Walks from the TEB of a thread to everything that the process knows about itself. -/
def walk (memory : ProcessMemory) (teb : Nat) : Access ProcessEnvironment := do
  let offsets := FieldOffsets.of memory.space.bitness
  let pebAddress ← memory.readPointerField teb offsets.peb
  memory.seek (← fieldAddress pebAddress offsets.beingDebugged)
  let beingDebugged ← memory.readByte
  let imageBaseAddress ← memory.readPointerField pebAddress offsets.imageBaseAddress
  let parameters ← memory.readPointerField pebAddress offsets.processParameters
  let imagePath ← memory.readStringField offsets parameters offsets.imagePath
  let commandLine ← memory.readStringField offsets parameters offsets.commandLine
  let windowTitle ← memory.readStringField offsets parameters offsets.windowTitle
  let dllPath ← memory.readStringField offsets parameters offsets.dllPath
  let currentDirectory ← memory.readStringField offsets parameters offsets.currentDirectory
  let standardInput ← memory.readPointerField parameters offsets.standardInput
  let standardOutput ← memory.readPointerField parameters offsets.standardOutput
  let standardError ← memory.readPointerField parameters offsets.standardError
  let environment ← memory.readPointerField parameters offsets.environment
  let environmentVariables ← memory.readEnvironmentBlock environment
  pure {
    pebAddress
    beingDebugged := beingDebugged != 0
    imageBaseAddress
    imagePath
    commandLine
    windowTitle
    dllPath
    currentDirectory
    standardInput
    standardOutput
    standardError
    environmentVariables
  }

/-- What the process knows about itself, found from the TEB of a thread with a cursor of
its own. -/
def environmentFrom (memory : ProcessMemory) (teb : Nat) : Scan ProcessEnvironment :=
  (memory.walk teb).toScan

end ProcessMemory

end Minidump
