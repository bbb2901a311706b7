import Minidump.Layout

/-!
# Register context of 32-bit threads

- `FloatSaveX86` — the state of the floating-point unit;
- `ContextX86` — all registers of a thread, in groups that follow one another in
  the file.
-/

namespace Minidump

/-- The state of the floating-point unit. -/
structure FloatSaveX86 where
  controlWord : UInt32
  statusWord : UInt32
  tagWord : UInt32
  errorOffset : UInt32
  errorSelector : UInt32
  dataOffset : UInt32
  dataSelector : UInt32
  registerArea : Vector UInt8 80
  cr0NpxState : UInt32
deriving DecidableEq

/-- The layout of the floating-point state: 112 bytes. -/
def FloatSaveX86.layout : Layout FloatSaveX86 :=
  Layout.record FloatSaveX86.mk
    |>.field (·.controlWord) .u32
    |>.field (·.statusWord) .u32
    |>.field (·.tagWord) .u32
    |>.field (·.errorOffset) .u32
    |>.field (·.errorSelector) .u32
    |>.field (·.dataOffset) .u32
    |>.field (·.dataSelector) .u32
    |>.field (·.registerArea) (.vector 80 .u8)
    |>.field (·.cr0NpxState) .u32

/-- The debug registers. -/
structure DebugRegistersX86 where
  dr0 : UInt32
  dr1 : UInt32
  dr2 : UInt32
  dr3 : UInt32
  dr6 : UInt32
  dr7 : UInt32
deriving DecidableEq

/-- The layout of the debug registers: 24 bytes. -/
def DebugRegistersX86.layout : Layout DebugRegistersX86 :=
  Layout.record DebugRegistersX86.mk
    |>.field (·.dr0) .u32
    |>.field (·.dr1) .u32
    |>.field (·.dr2) .u32
    |>.field (·.dr3) .u32
    |>.field (·.dr6) .u32
    |>.field (·.dr7) .u32

/-- The integer and data segment registers. -/
structure GeneralRegistersX86 where
  gs : UInt32
  fs : UInt32
  es : UInt32
  ds : UInt32
  edi : UInt32
  esi : UInt32
  ebx : UInt32
  edx : UInt32
  ecx : UInt32
  eax : UInt32
deriving DecidableEq

/-- The layout of the integer and data segment registers: 40 bytes. -/
def GeneralRegistersX86.layout : Layout GeneralRegistersX86 :=
  Layout.record GeneralRegistersX86.mk
    |>.field (·.gs) .u32
    |>.field (·.fs) .u32
    |>.field (·.es) .u32
    |>.field (·.ds) .u32
    |>.field (·.edi) .u32
    |>.field (·.esi) .u32
    |>.field (·.ebx) .u32
    |>.field (·.edx) .u32
    |>.field (·.ecx) .u32
    |>.field (·.eax) .u32

/-- The registers that control execution. -/
structure ControlRegistersX86 where
  ebp : UInt32
  eip : UInt32
  cs : UInt32
  eflags : UInt32
  esp : UInt32
  ss : UInt32
deriving DecidableEq

/-- The layout of the control registers: 24 bytes. -/
def ControlRegistersX86.layout : Layout ControlRegistersX86 :=
  Layout.record ControlRegistersX86.mk
    |>.field (·.ebp) .u32
    |>.field (·.eip) .u32
    |>.field (·.cs) .u32
    |>.field (·.eflags) .u32
    |>.field (·.esp) .u32
    |>.field (·.ss) .u32

/-- The registers of a 32-bit thread. -/
structure ContextX86 where
  flags : UInt32
  debug : DebugRegistersX86
  float : FloatSaveX86
  general : GeneralRegistersX86
  control : ControlRegistersX86
  extended : Vector UInt8 512
deriving DecidableEq

/-- The layout of a 32-bit context: 716 bytes. -/
def ContextX86.layout : Layout ContextX86 :=
  Layout.record ContextX86.mk
    |>.field (·.flags) .u32
    |>.field (·.debug) DebugRegistersX86.layout
    |>.field (·.float) FloatSaveX86.layout
    |>.field (·.general) GeneralRegistersX86.layout
    |>.field (·.control) ControlRegistersX86.layout
    |>.field (·.extended) (.vector 512 .u8)

end Minidump
