import Minidump.Dump.Basic

/-!
# Parsing a dump

A parse reads the header and the directory, decodes the stream of each entry, then the
registers of the threads, then the address space, and at last walks from the first
thread's TEB. The header and the directory have to be there; every later step only adds
to the diagnostics when it fails.

- `Outcome` — what became of a directory entry;
- `Scan.header`, `Scan.directory` — the two parts that have to be there;
- `Scan.threadContexts` — the registers of the threads;
- `Contents.space?`, `Scan.environment?` — the last two steps, each attempted only if
  there is something to start from;
- `Dump.assemble` — the dump that the parts make up;
- `Scan.dump`, `Dump.ofImage` — the whole parse, from any position in the file on and from
  its start.
-/

namespace Minidump

/-- What became of a directory entry. -/
inductive Outcome where
  /-- No kind of stream has its code. -/
  | unknown (entry : DirectoryEntry)
  /-- Its stream was decoded, or was not for some cause. -/
  | known (directory : Directory) (content : Result (Option Content))

namespace Outcome

/-- The entry, if its kind is known. -/
def directory? : Outcome → Option Directory
  | unknown _ => none
  | known directory _ => some directory

/-- What its stream holds, if it was decoded. -/
def content? : Outcome → Option Content
  | known _ (.ok content) => content
  | _ => none

/-- What went wrong with it. -/
def diagnostic? : Outcome → Option Diagnostic
  | unknown entry => some (.unknownStream entry.code entry.location)
  | known _ (.ok _) => none
  | known directory (.error cause) => some (.ofStream directory cause)

end Outcome

namespace Scan

/-- The header, which has to bear the signature of a dump. -/
def header (image : Image) : Scan Header := do
  let header ← recordAt image Header.layout 0
  if header.signature = Header.expectedSignature then
    pure header
  else
    throw (.badSignature header.signature)

/-- Decodes the stream of a directory entry. -/
def outcome (image : Image) (entry : DirectoryEntry) : Scan Outcome :=
  match StreamKind.ofCode entry.code with
  | .ok kind => do
    let directory : Directory := { kind, location := entry.location }
    let content ← (content image directory).attempt
    pure (.known directory content)
  | .error _ => pure (.unknown entry)

/-- The directory, each entry of which has its stream decoded before the next one is
read. -/
def directory (image : Image) (header : Header) : Scan (List Outcome) :=
  entries (fun offset => do outcome image (← recordAt image DirectoryEntry.layout offset))
    DirectoryEntry.layout.size header.streamCount.toNat header.directoryOffset.toNat

/-- The registers of a thread. There are none if the architecture is not known. -/
def threadContext (image : Image) (architecture : Option Architecture) (thread : Thread) :
    Scan (Option ThreadContext) :=
  match architecture with
  | some architecture => some <$> context image architecture thread.contextLocation
  | none => pure none

/-- The threads, each with the registers that it has or the cause why not. -/
def threadContexts (image : Image) (contents : Contents) :
    Scan (List (Thread × Result (Option ThreadContext))) :=
  contents.threads.mapM fun thread => do
    let context ← (threadContext image contents.architecture? thread).attempt
    pure (thread, context)

/-- The process environment, if there are an address space and a first thread. -/
def environment? (image : Image) (space : Option AddressSpace) (threads : List Thread) :
    Scan (Option (Result ProcessEnvironment)) :=
  match space, threads with
  | some space, thread :: _ =>
    some <$> (ProcessMemory.environmentFrom { space, image } thread.teb.toNat).attempt
  | _, _ => pure none

end Scan

/-- A thread with its registers, if they could be decoded. -/
def Thread.withContext (thread : Thread) : Result (Option ThreadContext) → Thread
  | .ok context => { thread with context }
  | .error _ => thread

/-- What went wrong with the registers of a thread. -/
def Thread.contextDiagnostic? (thread : Thread) :
    Result (Option ThreadContext) → Option Diagnostic
  | .ok _ => none
  | .error cause => some (.threadContext thread.id cause)

/-- The address space, if there is a memory list to make it from. -/
def Contents.space? (contents : Contents) : Option (Result AddressSpace) :=
  if contents.memoryList.isNone ∧ contents.memory64List.isNone then none
  else some (AddressSpace.ofLists contents.memoryList contents.memory64List)

/-- The value of a step that was attempted and succeeded. -/
def attempted? {α : Type} : Option (Result α) → Option α
  | some (.ok a) => some a
  | _ => none

/-- The cause why a step that was attempted failed. -/
def failure? {α : Type} : Option (Result α) → Option Error
  | some (.error cause) => some cause
  | _ => none

/-- The dump that the parts of a file make up, with a diagnostic for each part that is
missing. -/
def Dump.assemble (header : Header) (outcomes : List Outcome) (contents : Contents)
    (contexts : List (Thread × Result (Option ThreadContext)))
    (space : Option (Result AddressSpace)) (environment : Option (Result ProcessEnvironment)) :
    Dump :=
  { contents with
    header
    threads := contexts.map fun (thread, context) => thread.withContext context
    directories := outcomes.filterMap Outcome.directory?
    addressSpace := attempted? space
    environment := attempted? environment
    diagnostics :=
      outcomes.filterMap Outcome.diagnostic?
        ++ contexts.filterMap (fun (thread, context) => thread.contextDiagnostic? context)
        ++ ((failure? space).map Diagnostic.addressSpace).toList
        ++ ((failure? environment).map Diagnostic.processEnvironment).toList }

/-- Parses a dump. -/
def Scan.dump (image : Image) : Scan Dump := do
  let header ← header image
  let outcomes ← directory image header
  let contents := Contents.ofList (outcomes.filterMap Outcome.content?)
  let contexts ← threadContexts image contents
  let space := contents.space?
  let environment ← environment? image (attempted? space) contents.threads
  pure (Dump.assemble header outcomes contents contexts space environment)

/-- Parses a dump of which nothing has been read. -/
def Dump.ofImage (image : Image) : Result Dump :=
  (Scan.dump image).runFrom 0

end Minidump
