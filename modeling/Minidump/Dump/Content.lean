import Minidump.Stream.Thread
import Minidump.Stream.Module
import Minidump.Stream.Memory
import Minidump.Stream.System
import Minidump.Stream.Handle

/-!
# The contents of the streams

- `Directory` — a directory entry whose kind is known;
- `Content` — what a decoded stream holds, by kind;
- `Scan.content` — decodes a stream; reserved streams hold nothing;
- `Contents` — the decoded contents of a dump, one of each kind;
- `Contents.store` — puts a content in its place, where it replaces an earlier one.
-/

namespace Minidump

/-- A directory entry whose kind is known. -/
structure Directory where
  kind : StreamKind
  location : Location
deriving DecidableEq

/-- What a decoded stream holds. -/
inductive Content where
  | threads (threads : List Thread)
  | threadsEx (threads : List ThreadEx)
  | threadInfo (infos : List ThreadInfo)
  | modules (modules : List Module)
  | unloadedModules (modules : List UnloadedModule)
  | memoryList (list : MemoryList)
  | memory64List (list : Memory64List)
  | memoryInfo (infos : List MemoryInfo)
  | systemInfo (info : SystemInfo)
  | exception (stream : ExceptionStream)
  | miscInfo (info : MiscInfo)
  | handles (handles : List Handle)
  | commentA (comment : String)
  | commentW (comment : String)
deriving DecidableEq

/-- Decodes the stream of a directory entry. Unused and reserved streams hold nothing; the
kinds without a decoder are refused. -/
def Scan.content (image : Image) (directory : Directory) : Scan (Option Content) :=
  let location := directory.location
  match directory.kind with
  | .unused | .reserved0 | .reserved1 => pure none
  | .threadList => some <$> .threads <$> threads image location
  | .threadExList => some <$> .threadsEx <$> threadsEx image location
  | .threadInfoList => some <$> .threadInfo <$> threadInfo image location
  | .moduleList => some <$> .modules <$> modules image location
  | .unloadedModuleList => some <$> .unloadedModules <$> unloadedModules image location
  | .memoryList => some <$> .memoryList <$> memoryList image location
  | .memory64List => some <$> .memory64List <$> memory64List image location
  | .memoryInfoList => some <$> .memoryInfo <$> memoryInfo image location
  | .systemInfo => some <$> .systemInfo <$> systemInfo image location
  | .exception => some <$> .exception <$> exceptionStream image location
  | .miscInfo => some <$> .miscInfo <$> miscInfo image location
  | .handleData => some <$> .handles <$> handles image location
  | .commentA => some <$> .commentA <$> narrowComment image location
  | .commentW => some <$> .commentW <$> wideComment image location
  | kind => throw (.unsupportedStream kind)

/-- The decoded contents of a dump. A dump without a thread or module list has no threads
or modules; for the other kinds a missing stream and an empty one differ. -/
structure Contents where
  threads : List Thread := []
  threadsEx : Option (List ThreadEx) := none
  threadInfo : Option (List ThreadInfo) := none
  modules : List Module := []
  unloadedModules : Option (List UnloadedModule) := none
  memoryList : Option MemoryList := none
  memory64List : Option Memory64List := none
  memoryInfo : Option (List MemoryInfo) := none
  systemInfo : Option SystemInfo := none
  exception : Option ExceptionStream := none
  miscInfo : Option MiscInfo := none
  handles : Option (List Handle) := none
  commentA : Option String := none
  commentW : Option String := none
deriving DecidableEq

namespace Contents

/-- Puts a content in its place, where it replaces an earlier one of its kind. -/
def store (contents : Contents) : Content → Contents
  | .threads threads => { contents with threads }
  | .threadsEx threads => { contents with threadsEx := some threads }
  | .threadInfo infos => { contents with threadInfo := some infos }
  | .modules modules => { contents with modules }
  | .unloadedModules modules => { contents with unloadedModules := some modules }
  | .memoryList list => { contents with memoryList := some list }
  | .memory64List list => { contents with memory64List := some list }
  | .memoryInfo infos => { contents with memoryInfo := some infos }
  | .systemInfo info => { contents with systemInfo := some info }
  | .exception stream => { contents with exception := some stream }
  | .miscInfo info => { contents with miscInfo := some info }
  | .handles handles => { contents with handles := some handles }
  | .commentA comment => { contents with commentA := some comment }
  | .commentW comment => { contents with commentW := some comment }

/-- The contents left when each of a list is stored, first one first. -/
def ofList (stored : List Content) : Contents :=
  stored.foldl store {}

/-- The architecture, if the system information names one whose contexts are decoded. -/
def architecture? (contents : Contents) : Option Architecture :=
  contents.systemInfo.bind fun info => Architecture.ofProcessor? info.record.architecture

end Contents

end Minidump
