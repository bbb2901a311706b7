import Minidump.Stream.Text
import Minidump.Record.System
import Minidump.Record.Exception

/-!
# System, process and exception information

- `SystemInfo` — machine and operating system, with the name of the service pack;
- `MiscInfo` — process identity, process times and processor clock rates, each only if
  its flag is set;
- `Scan.systemInfo`, `Scan.miscInfo`, `Scan.exceptionStream` — the streams they come
  from;
- `Image.systemInfo`, `Image.miscInfo`, `Image.exceptionStream` — the same on a file of
  which nothing has been read.
-/

namespace Minidump

/-- Machine and operating system. -/
structure SystemInfo where
  record : SystemRecord
  servicePack : String
deriving DecidableEq

/-- The name of the processor architecture. -/
def SystemInfo.architectureName (info : SystemInfo) : String :=
  match info.record.architecture.toNat with
  | 0 => "x86"
  | 5 => "ARM"
  | 6 => "IA64"
  | 9 => "x64"
  | 10 => "x86 on Win64"
  | 12 => "ARM64"
  | _ => "UNKNOWN"

/-- When the process started and how long it ran. -/
structure ProcessTimes where
  createTime : UInt32
  userTime : UInt32
  kernelTime : UInt32
deriving DecidableEq

/-- The clock rates and idle states of the processor. -/
structure ProcessorPower where
  maxMhz : UInt32
  currentMhz : UInt32
  mhzLimit : UInt32
  maxIdleState : UInt32
  currentIdleState : UInt32
deriving DecidableEq

/-- Process identity, process times and processor clock rates. -/
structure MiscInfo where
  processId : Option UInt32
  processTimes : Option ProcessTimes
  processorPower : Option ProcessorPower
deriving DecidableEq

namespace MiscInfo

/-- The flag that announces the process identity. -/
def processIdFlag : UInt32 := 1

/-- The flag that announces the process times. -/
def processTimesFlag : UInt32 := 2

/-- The flag that announces the clock rates. -/
def processorPowerFlag : UInt32 := 4

end MiscInfo

/-- A record has a flag if the bit of the flag is set. -/
def MiscRecord.has (record : MiscRecord) (flag : UInt32) : Bool :=
  record.flags &&& flag != 0

namespace Scan

/-- The system information. A dump without a service pack has an empty name for it. -/
def systemInfo (image : Image) (location : Location) : Scan SystemInfo := do
  let record ← recordAt image SystemRecord.layout location.offset.toNat
  let servicePack ← optionalTextAt image record.servicePackOffset
  pure { record, servicePack := servicePack.getD "" }

/-- The exception. -/
def exceptionStream (image : Image) (location : Location) : Scan ExceptionStream :=
  recordAt image ExceptionStream.layout location.offset.toNat

/-- The clock rates. They are there if both the record and its stream are long enough for
the longer form of the record. -/
def processorPower (image : Image) (location : Location) (record : MiscRecord) :
    Scan (Option ProcessorPower) := do
  let size := ExtendedMiscRecord.layout.size
  if size ≤ record.size.toNat ∧ size ≤ location.size.toNat
      ∧ record.has MiscInfo.processorPowerFlag then
    let extended ← recordAt image ExtendedMiscRecord.layout location.offset.toNat
    pure (some {
      maxMhz := extended.maxMhz
      currentMhz := extended.currentMhz
      mhzLimit := extended.mhzLimit
      maxIdleState := extended.maxIdleState
      currentIdleState := extended.currentIdleState
    })
  else
    pure none

/-- The miscellaneous information. -/
def miscInfo (image : Image) (location : Location) : Scan MiscInfo := do
  let record ← recordAt image MiscRecord.layout location.offset.toNat
  let processorPower ← processorPower image location record
  pure {
    processId := if record.has MiscInfo.processIdFlag then some record.processId else none
    processTimes :=
      if record.has MiscInfo.processTimesFlag then
        some {
          createTime := record.createTime
          userTime := record.userTime
          kernelTime := record.kernelTime
        }
      else none
    processorPower
  }

end Scan

namespace Image

/-- The system information at a location. -/
def systemInfo (image : Image) (location : Location) : Result SystemInfo :=
  (Scan.systemInfo image location).runFrom 0

/-- The exception at a location. -/
def exceptionStream (image : Image) (location : Location) : Result ExceptionStream :=
  (Scan.exceptionStream image location).runFrom 0

/-- The miscellaneous information at a location. -/
def miscInfo (image : Image) (location : Location) : Result MiscInfo :=
  (Scan.miscInfo image location).runFrom 0

end Image

end Minidump
