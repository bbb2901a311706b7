import Minidump.Layout

/-!
# Register context of 64-bit threads

- `SegmentsX64`, `DebugRegistersX64`, `GeneralRegistersX64` — groups of plain
  registers;
- `FloatSaveX64` — the 512-byte save area of the floating-point and vector units;
- `BranchRecordX64` — control of debugging and the last branch taken;
- `ContextX64` — all registers of a thread, group after group as in the file.
-/

namespace Minidump

/-- The segment registers. -/
structure SegmentsX64 where
  cs : UInt16
  ds : UInt16
  es : UInt16
  fs : UInt16
  gs : UInt16
  ss : UInt16
deriving DecidableEq

/-- The layout of the segment registers: 12 bytes. -/
def SegmentsX64.layout : Layout SegmentsX64 :=
  Layout.record SegmentsX64.mk
    |>.field (·.cs) .u16
    |>.field (·.ds) .u16
    |>.field (·.es) .u16
    |>.field (·.fs) .u16
    |>.field (·.gs) .u16
    |>.field (·.ss) .u16

/-- The debug registers. -/
structure DebugRegistersX64 where
  dr0 : UInt64
  dr1 : UInt64
  dr2 : UInt64
  dr3 : UInt64
  dr6 : UInt64
  dr7 : UInt64
deriving DecidableEq

/-- The layout of the debug registers: 48 bytes. -/
def DebugRegistersX64.layout : Layout DebugRegistersX64 :=
  Layout.record DebugRegistersX64.mk
    |>.field (·.dr0) .u64
    |>.field (·.dr1) .u64
    |>.field (·.dr2) .u64
    |>.field (·.dr3) .u64
    |>.field (·.dr6) .u64
    |>.field (·.dr7) .u64

/-- The integer registers and the instruction pointer. -/
structure GeneralRegistersX64 where
  rax : UInt64
  rcx : UInt64
  rdx : UInt64
  rbx : UInt64
  rsp : UInt64
  rbp : UInt64
  rsi : UInt64
  rdi : UInt64
  r8 : UInt64
  r9 : UInt64
  r10 : UInt64
  r11 : UInt64
  r12 : UInt64
  r13 : UInt64
  r14 : UInt64
  r15 : UInt64
  rip : UInt64
deriving DecidableEq

/-- The layout of the integer registers: 136 bytes. -/
def GeneralRegistersX64.layout : Layout GeneralRegistersX64 :=
  Layout.record GeneralRegistersX64.mk
    |>.field (·.rax) .u64
    |>.field (·.rcx) .u64
    |>.field (·.rdx) .u64
    |>.field (·.rbx) .u64
    |>.field (·.rsp) .u64
    |>.field (·.rbp) .u64
    |>.field (·.rsi) .u64
    |>.field (·.rdi) .u64
    |>.field (·.r8) .u64
    |>.field (·.r9) .u64
    |>.field (·.r10) .u64
    |>.field (·.r11) .u64
    |>.field (·.r12) .u64
    |>.field (·.r13) .u64
    |>.field (·.r14) .u64
    |>.field (·.r15) .u64
    |>.field (·.rip) .u64

/-- The save area of the floating-point and vector units. -/
structure FloatSaveX64 where
  controlWord : UInt16
  statusWord : UInt16
  tagWord : UInt8
  reserved1 : UInt8
  errorOpcode : UInt16
  errorOffset : UInt32
  errorSelector : UInt16
  reserved2 : UInt16
  dataOffset : UInt32
  dataSelector : UInt16
  reserved3 : UInt16
  mxcsr : UInt32
  mxcsrMask : UInt32
  floatRegisters : Vector (BitVec 128) 8
  xmm : Vector (BitVec 128) 16
  padding : Vector UInt8 96
deriving DecidableEq

/-- The layout of the save area: 512 bytes. -/
def FloatSaveX64.layout : Layout FloatSaveX64 :=
  Layout.record FloatSaveX64.mk
    |>.field (·.controlWord) .u16
    |>.field (·.statusWord) .u16
    |>.field (·.tagWord) .u8
    |>.field (·.reserved1) .u8
    |>.field (·.errorOpcode) .u16
    |>.field (·.errorOffset) .u32
    |>.field (·.errorSelector) .u16
    |>.field (·.reserved2) .u16
    |>.field (·.dataOffset) .u32
    |>.field (·.dataSelector) .u16
    |>.field (·.reserved3) .u16
    |>.field (·.mxcsr) .u32
    |>.field (·.mxcsrMask) .u32
    |>.field (·.floatRegisters) (.vector 8 .u128)
    |>.field (·.xmm) (.vector 16 .u128)
    |>.field (·.padding) (.vector 96 .u8)

/-- Control of debugging and the last branches taken. -/
structure BranchRecordX64 where
  debugControl : UInt64
  lastBranchTo : UInt64
  lastBranchFrom : UInt64
  lastExceptionTo : UInt64
  lastExceptionFrom : UInt64
deriving DecidableEq

/-- The layout of the branch record: 40 bytes. -/
def BranchRecordX64.layout : Layout BranchRecordX64 :=
  Layout.record BranchRecordX64.mk
    |>.field (·.debugControl) .u64
    |>.field (·.lastBranchTo) .u64
    |>.field (·.lastBranchFrom) .u64
    |>.field (·.lastExceptionTo) .u64
    |>.field (·.lastExceptionFrom) .u64

/-- The registers of a 64-bit thread. -/
structure ContextX64 where
  homes : Vector UInt64 6
  flags : UInt32
  mxcsr : UInt32
  segments : SegmentsX64
  eflags : UInt32
  debug : DebugRegistersX64
  general : GeneralRegistersX64
  float : FloatSaveX64
  vectorRegisters : Vector (BitVec 128) 26
  vectorControl : UInt64
  branches : BranchRecordX64
deriving DecidableEq

/-- The layout of a 64-bit context: 1232 bytes. -/
def ContextX64.layout : Layout ContextX64 :=
  Layout.record ContextX64.mk
    |>.field (·.homes) (.vector 6 .u64)
    |>.field (·.flags) .u32
    |>.field (·.mxcsr) .u32
    |>.field (·.segments) SegmentsX64.layout
    |>.field (·.eflags) .u32
    |>.field (·.debug) DebugRegistersX64.layout
    |>.field (·.general) GeneralRegistersX64.layout
    |>.field (·.float) FloatSaveX64.layout
    |>.field (·.vectorRegisters) (.vector 26 .u128)
    |>.field (·.vectorControl) .u64
    |>.field (·.branches) BranchRecordX64.layout

end Minidump
