/-!
# Kinds of streams

The stream directory tags each stream with a type code. Codes without a kind belong
to streams that users define, or to none.

- `StreamKind` — the kinds with a name;
- `StreamKind.code`, `StreamKind.ofCode?` — their codes and the way back;
- `StreamKind.name` — their names as shown in reports.
-/

namespace Minidump

/-- The kinds of streams with a name. -/
inductive StreamKind where
  | unused
  | reserved0
  | reserved1
  | threadList
  | moduleList
  | memoryList
  | exception
  | systemInfo
  | threadExList
  | memory64List
  | commentA
  | commentW
  | handleData
  | functionTable
  | unloadedModuleList
  | miscInfo
  | memoryInfoList
  | threadInfoList
  | handleOperationList
  | token
  | javaScriptData
  | systemMemoryInfo
  | processVmCounters
  | iptTrace
  | threadNames
  | ceNull
  | ceSystemInfo
  | ceException
  | ceModuleList
  | ceProcessList
  | ceThreadList
  | ceThreadContextList
  | ceThreadCallStackList
  | ceMemoryVirtualList
  | ceMemoryPhysicalList
  | ceBucketParameters
  | ceProcessModuleMap
  | ceDiagnosisList
  | lastReserved
deriving DecidableEq

namespace StreamKind

/-- The code that tags a stream of this kind. -/
def code : StreamKind → UInt32
  | unused => 0
  | reserved0 => 1
  | reserved1 => 2
  | threadList => 3
  | moduleList => 4
  | memoryList => 5
  | exception => 6
  | systemInfo => 7
  | threadExList => 8
  | memory64List => 9
  | commentA => 10
  | commentW => 11
  | handleData => 12
  | functionTable => 13
  | unloadedModuleList => 14
  | miscInfo => 15
  | memoryInfoList => 16
  | threadInfoList => 17
  | handleOperationList => 18
  | token => 19
  | javaScriptData => 20
  | systemMemoryInfo => 21
  | processVmCounters => 22
  | iptTrace => 23
  | threadNames => 24
  | ceNull => 0x8000
  | ceSystemInfo => 0x8001
  | ceException => 0x8002
  | ceModuleList => 0x8003
  | ceProcessList => 0x8004
  | ceThreadList => 0x8005
  | ceThreadContextList => 0x8006
  | ceThreadCallStackList => 0x8007
  | ceMemoryVirtualList => 0x8008
  | ceMemoryPhysicalList => 0x8009
  | ceBucketParameters => 0x800a
  | ceProcessModuleMap => 0x800b
  | ceDiagnosisList => 0x800c
  | lastReserved => 0xffff

/-- All kinds, by increasing code. -/
def all : List StreamKind :=
  [unused, reserved0, reserved1, threadList, moduleList, memoryList, exception, systemInfo,
    threadExList, memory64List, commentA, commentW, handleData, functionTable,
    unloadedModuleList, miscInfo, memoryInfoList, threadInfoList, handleOperationList, token,
    javaScriptData, systemMemoryInfo, processVmCounters, iptTrace, threadNames, ceNull,
    ceSystemInfo, ceException, ceModuleList, ceProcessList, ceThreadList, ceThreadContextList,
    ceThreadCallStackList, ceMemoryVirtualList, ceMemoryPhysicalList, ceBucketParameters,
    ceProcessModuleMap, ceDiagnosisList, lastReserved]

/-- The kind with a given code, if there is one. -/
def ofCode? (c : UInt32) : Option StreamKind :=
  all.find? (·.code == c)

/-- Codes above this one are free for users. -/
def lastReservedCode : UInt32 := 0xffff

/-- The name of a kind in reports. -/
def name : StreamKind → String
  | unused => "Unused"
  | reserved0 => "Reserved0"
  | reserved1 => "Reserved1"
  | threadList => "ThreadList"
  | moduleList => "ModuleList"
  | memoryList => "MemoryList"
  | exception => "Exception"
  | systemInfo => "SystemInfo"
  | threadExList => "ThreadExList"
  | memory64List => "Memory64List"
  | commentA => "CommentA"
  | commentW => "CommentW"
  | handleData => "HandleData"
  | functionTable => "FunctionTable"
  | unloadedModuleList => "UnloadedModuleList"
  | miscInfo => "MiscInfo"
  | memoryInfoList => "MemoryInfoList"
  | threadInfoList => "ThreadInfoList"
  | handleOperationList => "HandleOperationList"
  | token => "Token"
  | javaScriptData => "JavaScriptData"
  | systemMemoryInfo => "SystemMemoryInfo"
  | processVmCounters => "ProcessVmCounters"
  | iptTrace => "IptTrace"
  | threadNames => "ThreadNames"
  | ceNull => "CeNull"
  | ceSystemInfo => "CeSystemInfo"
  | ceException => "CeException"
  | ceModuleList => "CeModuleList"
  | ceProcessList => "CeProcessList"
  | ceThreadList => "CeThreadList"
  | ceThreadContextList => "CeThreadContextList"
  | ceThreadCallStackList => "CeThreadCallStackList"
  | ceMemoryVirtualList => "CeMemoryVirtualList"
  | ceMemoryPhysicalList => "CeMemoryPhysicalList"
  | ceBucketParameters => "CeBucketParameters"
  | ceProcessModuleMap => "CeProcessModuleMap"
  | ceDiagnosisList => "CeDiagnosisList"
  | lastReserved => "LastReserved"

/-- The code of a kind leads back to it. -/
@[simp] theorem ofCode?_code (kind : StreamKind) : ofCode? kind.code = some kind := by
  cases kind <;> rfl

/-- A code with a kind is the code of that kind. -/
theorem code_of_ofCode? {c : UInt32} {kind : StreamKind} (h : ofCode? c = some kind) :
    kind.code = c := by
  simpa using List.find?_some h

end StreamKind

end Minidump
