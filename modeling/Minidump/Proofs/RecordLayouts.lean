import Minidump.Proofs.Layouts
import Minidump.Record.ContextX64
import Minidump.Record.ContextX86
import Minidump.Record.Exception
import Minidump.Record.Handle
import Minidump.Record.Lists
import Minidump.Record.Module
import Minidump.Record.System
import Minidump.Record.Thread

/-!
# The words of every record

For each record the numbers that it consists of, in the order in which they lie in the file,
with records and arrays inside it written out; and that its layout stores these. What has to
be proved about the records is all in `Codec.Begins.stores`; here its conditions are computed.
-/

namespace Minidump

/-! ## The directory -/

def Location.words (r : Location) : List Word :=
  [.u32 r.size, .u32 r.offset]

instance Location.stores : Location.layout.Stores Location.words := by
  unfold Location.layout
  exact Codec.Begins.stores fun r => by simp [Location.words]

def Header.words (r : Header) : List Word :=
  [.u32 r.signature, .u16 r.version, .u16 r.implementationVersion, .u32 r.streamCount,
    .u32 r.directoryOffset, .u32 r.checksum, .u32 r.timestamp, .u64 r.flags]

instance Header.stores : Header.layout.Stores Header.words := by
  unfold Header.layout
  exact Codec.Begins.stores fun r => by simp [Header.words]

def DirectoryEntry.words (r : DirectoryEntry) : List Word :=
  [.u32 r.code] ++ r.location.words

instance DirectoryEntry.stores : DirectoryEntry.layout.Stores DirectoryEntry.words := by
  unfold DirectoryEntry.layout
  exact Codec.Begins.stores fun r => by simp [DirectoryEntry.words]

/-! ## List headers -/

def CountHeader.words (r : CountHeader) : List Word :=
  [.u32 r.count]

instance CountHeader.stores : CountHeader.layout.Stores CountHeader.words := by
  unfold CountHeader.layout
  exact Codec.Begins.stores fun r => by simp [CountHeader.words]

def TableHeader.words (r : TableHeader) : List Word :=
  [.u32 r.headerSize, .u32 r.entrySize, .u32 r.count]

instance TableHeader.stores : TableHeader.layout.Stores TableHeader.words := by
  unfold TableHeader.layout
  exact Codec.Begins.stores fun r => by simp [TableHeader.words]

/-! ## Memory -/

def MemoryDescriptor.words (r : MemoryDescriptor) : List Word :=
  [.u64 r.start] ++ r.location.words

instance MemoryDescriptor.stores : MemoryDescriptor.layout.Stores MemoryDescriptor.words := by
  unfold MemoryDescriptor.layout
  exact Codec.Begins.stores fun r => by simp [MemoryDescriptor.words]

def Memory64Header.words (r : Memory64Header) : List Word :=
  [.u64 r.count, .u64 r.baseOffset]

instance Memory64Header.stores : Memory64Header.layout.Stores Memory64Header.words := by
  unfold Memory64Header.layout
  exact Codec.Begins.stores fun r => by simp [Memory64Header.words]

def MemoryDescriptor64.words (r : MemoryDescriptor64) : List Word :=
  [.u64 r.start, .u64 r.size]

instance MemoryDescriptor64.stores : MemoryDescriptor64.layout.Stores MemoryDescriptor64.words := by
  unfold MemoryDescriptor64.layout
  exact Codec.Begins.stores fun r => by simp [MemoryDescriptor64.words]

def MemoryInfoHeader.words (r : MemoryInfoHeader) : List Word :=
  [.u32 r.headerSize, .u32 r.entrySize, .u64 r.count]

instance MemoryInfoHeader.stores : MemoryInfoHeader.layout.Stores MemoryInfoHeader.words := by
  unfold MemoryInfoHeader.layout
  exact Codec.Begins.stores fun r => by simp [MemoryInfoHeader.words]

def MemoryInfo.words (r : MemoryInfo) : List Word :=
  [.u64 r.baseAddress, .u64 r.allocationBase, .u32 r.allocationProtect, .u32 r.alignment1,
    .u64 r.regionSize, .u32 r.state, .u32 r.protect, .u32 r.kind, .u32 r.alignment2]

instance MemoryInfo.stores : MemoryInfo.layout.Stores MemoryInfo.words := by
  unfold MemoryInfo.layout
  exact Codec.Begins.stores fun r => by simp [MemoryInfo.words]

/-! ## System and process -/

def SystemRecord.words (r : SystemRecord) : List Word :=
  [.u16 r.architecture, .u16 r.processorLevel, .u16 r.processorRevision, .u8 r.processorCount,
    .u8 r.productType, .u32 r.majorVersion, .u32 r.minorVersion, .u32 r.buildNumber,
    .u32 r.platformId, .u32 r.servicePackOffset, .u16 r.suiteMask, .u16 r.reserved]

instance SystemRecord.stores : SystemRecord.layout.Stores SystemRecord.words := by
  unfold SystemRecord.layout
  exact Codec.Begins.stores fun r => by simp [SystemRecord.words]

def MiscRecord.words (r : MiscRecord) : List Word :=
  [.u32 r.size, .u32 r.flags, .u32 r.processId, .u32 r.createTime, .u32 r.userTime,
    .u32 r.kernelTime]

instance MiscRecord.stores : MiscRecord.layout.Stores MiscRecord.words := by
  unfold MiscRecord.layout
  exact Codec.Begins.stores fun r => by simp [MiscRecord.words]

def ExtendedMiscRecord.words (r : ExtendedMiscRecord) : List Word :=
  r.base.words ++
    [.u32 r.maxMhz, .u32 r.currentMhz, .u32 r.mhzLimit, .u32 r.maxIdleState,
      .u32 r.currentIdleState]

instance ExtendedMiscRecord.stores : ExtendedMiscRecord.layout.Stores ExtendedMiscRecord.words := by
  unfold ExtendedMiscRecord.layout
  exact Codec.Begins.stores fun r => by simp [ExtendedMiscRecord.words]

/-! ## Exceptions -/

def ExceptionRecord.words (r : ExceptionRecord) : List Word :=
  [.u32 r.code, .u32 r.flags, .u64 r.nested, .u64 r.address, .u32 r.parameterCount,
    .u32 r.alignment] ++ r.information.toList.map .u64

instance ExceptionRecord.stores : ExceptionRecord.layout.Stores ExceptionRecord.words := by
  unfold ExceptionRecord.layout
  exact Codec.Begins.stores fun r => by simp [ExceptionRecord.words]

def ExceptionStream.words (r : ExceptionStream) : List Word :=
  [.u32 r.threadId, .u32 r.alignment] ++ r.record.words ++ r.context.words

instance ExceptionStream.stores : ExceptionStream.layout.Stores ExceptionStream.words := by
  unfold ExceptionStream.layout
  exact Codec.Begins.stores fun r => by simp [ExceptionStream.words]

/-! ## Threads -/

def ThreadEntry.words (r : ThreadEntry) : List Word :=
  [.u32 r.id, .u32 r.suspendCount, .u32 r.priorityClass, .u32 r.priority, .u64 r.teb] ++
    r.stack.words ++ r.context.words

instance ThreadEntry.stores : ThreadEntry.layout.Stores ThreadEntry.words := by
  unfold ThreadEntry.layout
  exact Codec.Begins.stores fun r => by simp [ThreadEntry.words]

def ThreadExEntry.words (r : ThreadExEntry) : List Word :=
  r.thread.words ++ r.backingStore.words

instance ThreadExEntry.stores : ThreadExEntry.layout.Stores ThreadExEntry.words := by
  unfold ThreadExEntry.layout
  exact Codec.Begins.stores fun r => by simp [ThreadExEntry.words]

def ThreadInfo.words (r : ThreadInfo) : List Word :=
  [.u32 r.threadId, .u32 r.dumpFlags, .u32 r.dumpError, .u32 r.exitStatus, .u64 r.createTime,
    .u64 r.exitTime, .u64 r.kernelTime, .u64 r.userTime, .u64 r.startAddress, .u64 r.affinity]

instance ThreadInfo.stores : ThreadInfo.layout.Stores ThreadInfo.words := by
  unfold ThreadInfo.layout
  exact Codec.Begins.stores fun r => by simp [ThreadInfo.words]

/-! ## Modules -/

def FileVersion.words (r : FileVersion) : List Word :=
  [.u32 r.signature, .u32 r.structureVersion, .u32 r.fileVersionHigh, .u32 r.fileVersionLow,
    .u32 r.productVersionHigh, .u32 r.productVersionLow, .u32 r.flagsMask, .u32 r.flags,
    .u32 r.system, .u32 r.kind, .u32 r.subkind, .u32 r.dateHigh, .u32 r.dateLow]

instance FileVersion.stores : FileVersion.layout.Stores FileVersion.words := by
  unfold FileVersion.layout
  exact Codec.Begins.stores fun r => by simp [FileVersion.words]

def ModuleEntry.words (r : ModuleEntry) : List Word :=
  [.u64 r.base, .u32 r.imageSize, .u32 r.checksum, .u32 r.timestamp, .u32 r.nameOffset] ++
    r.version.words ++ r.cvRecord.words ++ r.miscRecord.words ++
    [.u64 r.reserved0, .u64 r.reserved1]

instance ModuleEntry.stores : ModuleEntry.layout.Stores ModuleEntry.words := by
  unfold ModuleEntry.layout
  exact Codec.Begins.stores fun r => by simp [ModuleEntry.words]

def UnloadedModuleEntry.words (r : UnloadedModuleEntry) : List Word :=
  [.u64 r.base, .u32 r.imageSize, .u32 r.checksum, .u32 r.timestamp, .u32 r.nameOffset]

instance UnloadedModuleEntry.stores :
    UnloadedModuleEntry.layout.Stores UnloadedModuleEntry.words := by
  unfold UnloadedModuleEntry.layout
  exact Codec.Begins.stores fun r => by simp [UnloadedModuleEntry.words]

/-! ## Handles -/

def HandleTableHeader.words (r : HandleTableHeader) : List Word :=
  [.u32 r.headerSize, .u32 r.entrySize, .u32 r.count, .u32 r.reserved]

instance HandleTableHeader.stores : HandleTableHeader.layout.Stores HandleTableHeader.words := by
  unfold HandleTableHeader.layout
  exact Codec.Begins.stores fun r => by simp [HandleTableHeader.words]

def HandleDescriptor.words (r : HandleDescriptor) : List Word :=
  [.u64 r.handle, .u32 r.typeNameOffset, .u32 r.objectNameOffset, .u32 r.attributes,
    .u32 r.grantedAccess, .u32 r.handleCount, .u32 r.pointerCount]

instance HandleDescriptor.stores : HandleDescriptor.layout.Stores HandleDescriptor.words := by
  unfold HandleDescriptor.layout
  exact Codec.Begins.stores fun r => by simp [HandleDescriptor.words]

/-! ## Registers of 32-bit threads -/

def FloatSaveX86.words (r : FloatSaveX86) : List Word :=
  [.u32 r.controlWord, .u32 r.statusWord, .u32 r.tagWord, .u32 r.errorOffset, .u32 r.errorSelector,
    .u32 r.dataOffset, .u32 r.dataSelector] ++ r.registerArea.toList.map .u8 ++
    [.u32 r.cr0NpxState]

instance FloatSaveX86.stores : FloatSaveX86.layout.Stores FloatSaveX86.words := by
  unfold FloatSaveX86.layout
  exact Codec.Begins.stores fun r => by simp [FloatSaveX86.words]

def DebugRegistersX86.words (r : DebugRegistersX86) : List Word :=
  [.u32 r.dr0, .u32 r.dr1, .u32 r.dr2, .u32 r.dr3, .u32 r.dr6, .u32 r.dr7]

instance DebugRegistersX86.stores : DebugRegistersX86.layout.Stores DebugRegistersX86.words := by
  unfold DebugRegistersX86.layout
  exact Codec.Begins.stores fun r => by simp [DebugRegistersX86.words]

def GeneralRegistersX86.words (r : GeneralRegistersX86) : List Word :=
  [.u32 r.gs, .u32 r.fs, .u32 r.es, .u32 r.ds, .u32 r.edi, .u32 r.esi, .u32 r.ebx, .u32 r.edx,
    .u32 r.ecx, .u32 r.eax]

instance GeneralRegistersX86.stores :
    GeneralRegistersX86.layout.Stores GeneralRegistersX86.words := by
  unfold GeneralRegistersX86.layout
  exact Codec.Begins.stores fun r => by simp [GeneralRegistersX86.words]

def ControlRegistersX86.words (r : ControlRegistersX86) : List Word :=
  [.u32 r.ebp, .u32 r.eip, .u32 r.cs, .u32 r.eflags, .u32 r.esp, .u32 r.ss]

instance ControlRegistersX86.stores :
    ControlRegistersX86.layout.Stores ControlRegistersX86.words := by
  unfold ControlRegistersX86.layout
  exact Codec.Begins.stores fun r => by simp [ControlRegistersX86.words]

def ContextX86.words (r : ContextX86) : List Word :=
  [.u32 r.flags] ++ r.debug.words ++ r.float.words ++ r.general.words ++ r.control.words ++
    r.extended.toList.map .u8

instance ContextX86.stores : ContextX86.layout.Stores ContextX86.words := by
  unfold ContextX86.layout
  exact Codec.Begins.stores fun r => by simp [ContextX86.words]

/-! ## Registers of 64-bit threads -/

def SegmentsX64.words (r : SegmentsX64) : List Word :=
  [.u16 r.cs, .u16 r.ds, .u16 r.es, .u16 r.fs, .u16 r.gs, .u16 r.ss]

instance SegmentsX64.stores : SegmentsX64.layout.Stores SegmentsX64.words := by
  unfold SegmentsX64.layout
  exact Codec.Begins.stores fun r => by simp [SegmentsX64.words]

def DebugRegistersX64.words (r : DebugRegistersX64) : List Word :=
  [.u64 r.dr0, .u64 r.dr1, .u64 r.dr2, .u64 r.dr3, .u64 r.dr6, .u64 r.dr7]

instance DebugRegistersX64.stores : DebugRegistersX64.layout.Stores DebugRegistersX64.words := by
  unfold DebugRegistersX64.layout
  exact Codec.Begins.stores fun r => by simp [DebugRegistersX64.words]

def GeneralRegistersX64.words (r : GeneralRegistersX64) : List Word :=
  [.u64 r.rax, .u64 r.rcx, .u64 r.rdx, .u64 r.rbx, .u64 r.rsp, .u64 r.rbp, .u64 r.rsi, .u64 r.rdi,
    .u64 r.r8, .u64 r.r9, .u64 r.r10, .u64 r.r11, .u64 r.r12, .u64 r.r13, .u64 r.r14, .u64 r.r15,
    .u64 r.rip]

instance GeneralRegistersX64.stores :
    GeneralRegistersX64.layout.Stores GeneralRegistersX64.words := by
  unfold GeneralRegistersX64.layout
  exact Codec.Begins.stores fun r => by simp [GeneralRegistersX64.words]

def FloatSaveX64.words (r : FloatSaveX64) : List Word :=
  [.u16 r.controlWord, .u16 r.statusWord, .u8 r.tagWord, .u8 r.reserved1, .u16 r.errorOpcode,
    .u32 r.errorOffset, .u16 r.errorSelector, .u16 r.reserved2, .u32 r.dataOffset,
    .u16 r.dataSelector, .u16 r.reserved3, .u32 r.mxcsr, .u32 r.mxcsrMask] ++
    r.floatRegisters.toList.map .u128 ++ r.xmm.toList.map .u128 ++ r.padding.toList.map .u8

instance FloatSaveX64.stores : FloatSaveX64.layout.Stores FloatSaveX64.words := by
  unfold FloatSaveX64.layout
  exact Codec.Begins.stores fun r => by simp [FloatSaveX64.words]

def BranchRecordX64.words (r : BranchRecordX64) : List Word :=
  [.u64 r.debugControl, .u64 r.lastBranchTo, .u64 r.lastBranchFrom, .u64 r.lastExceptionTo,
    .u64 r.lastExceptionFrom]

instance BranchRecordX64.stores : BranchRecordX64.layout.Stores BranchRecordX64.words := by
  unfold BranchRecordX64.layout
  exact Codec.Begins.stores fun r => by simp [BranchRecordX64.words]

def ContextX64.words (r : ContextX64) : List Word :=
  r.homes.toList.map .u64 ++ [.u32 r.flags, .u32 r.mxcsr] ++ r.segments.words ++ [.u32 r.eflags] ++
    r.debug.words ++ r.general.words ++ r.float.words ++ r.vectorRegisters.toList.map .u128 ++
    [.u64 r.vectorControl] ++ r.branches.words

instance ContextX64.stores : ContextX64.layout.Stores ContextX64.words := by
  unfold ContextX64.layout
  exact Codec.Begins.stores fun r => by simp [ContextX64.words]

end Minidump
