import Minidump.Layout

/-!
# System and process records

- `SystemRecord` — the machine and operating system that wrote the dump;
- `MiscRecord`, `ExtendedMiscRecord` — process identity and times, and in the
  longer form the clock rates of the processor.
-/

namespace Minidump

/-- The system information stream as stored. -/
structure SystemRecord where
  architecture : UInt16
  processorLevel : UInt16
  processorRevision : UInt16
  processorCount : UInt8
  productType : UInt8
  majorVersion : UInt32
  minorVersion : UInt32
  buildNumber : UInt32
  platformId : UInt32
  servicePackOffset : UInt32
  suiteMask : UInt16
  reserved : UInt16
deriving DecidableEq

/-- The layout of the system record: 32 bytes. -/
def SystemRecord.layout : Layout SystemRecord :=
  Layout.record SystemRecord.mk
    |>.field (·.architecture) .u16
    |>.field (·.processorLevel) .u16
    |>.field (·.processorRevision) .u16
    |>.field (·.processorCount) .u8
    |>.field (·.productType) .u8
    |>.field (·.majorVersion) .u32
    |>.field (·.minorVersion) .u32
    |>.field (·.buildNumber) .u32
    |>.field (·.platformId) .u32
    |>.field (·.servicePackOffset) .u32
    |>.field (·.suiteMask) .u16
    |>.field (·.reserved) .u16

/-- The miscellaneous information stream in its shorter form. -/
structure MiscRecord where
  size : UInt32
  flags : UInt32
  processId : UInt32
  createTime : UInt32
  userTime : UInt32
  kernelTime : UInt32
deriving DecidableEq

/-- The layout of the shorter form: 24 bytes. -/
def MiscRecord.layout : Layout MiscRecord :=
  Layout.record MiscRecord.mk
    |>.field (·.size) .u32
    |>.field (·.flags) .u32
    |>.field (·.processId) .u32
    |>.field (·.createTime) .u32
    |>.field (·.userTime) .u32
    |>.field (·.kernelTime) .u32

/-- The miscellaneous information stream in its longer form. -/
structure ExtendedMiscRecord where
  base : MiscRecord
  maxMhz : UInt32
  currentMhz : UInt32
  mhzLimit : UInt32
  maxIdleState : UInt32
  currentIdleState : UInt32
deriving DecidableEq

/-- The layout of the longer form: 44 bytes. -/
def ExtendedMiscRecord.layout : Layout ExtendedMiscRecord :=
  Layout.record ExtendedMiscRecord.mk
    |>.field (·.base) MiscRecord.layout
    |>.field (·.maxMhz) .u32
    |>.field (·.currentMhz) .u32
    |>.field (·.mhzLimit) .u32
    |>.field (·.maxIdleState) .u32
    |>.field (·.currentIdleState) .u32

end Minidump
