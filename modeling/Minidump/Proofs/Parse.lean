import Minidump.Dump.Parse
import Minidump.Proofs.Decoders
import Minidump.Proofs.Walk

/-!
# The parse without a position

A parse is one long scan: header, directory entries and streams in turn, register
contexts, and at last the walk through memory, which reads the file as well. None of these
parts cares where the one before it left the position. Here is the same parse as a
computation without a position, which makes plain what depends on what: everything but the
header is a function of the list of directory entries.

- `Image.header`, `Image.entries` — the two parts that have to be there;
- `Image.outcome`, `Image.contents`, `Image.threadContexts`, `Image.environment?` — what
  is made of them, which cannot fail;
- `Image.dump` — the whole parse;
- `Scan.gives_dump` — the scan gives it, from every position.
-/

namespace Minidump

namespace Image

variable (image : Image)

/-- The header of a file, which has to bear the signature of a dump. -/
def header : Result Header := do
  let header ← image.read Header.layout 0
  if header.signature = Header.expectedSignature then
    pure header
  else
    throw (.badSignature header.signature)

/-- The entries of the stream directory, all of which have to be there. -/
def entries (header : Header) : Result (List DirectoryEntry) :=
  (List.range header.streamCount.toNat).mapM fun index =>
    image.read DirectoryEntry.layout
      (header.directoryOffset.toNat + index * DirectoryEntry.layout.size)

/-- What becomes of a directory entry. -/
def outcome (entry : DirectoryEntry) : Outcome :=
  match StreamKind.ofCode entry.code with
  | .ok kind =>
    .known { kind, location := entry.location } (image.content { kind, location := entry.location })
  | .error _ => .unknown entry

/-- The contents that the streams of directory entries add up to. -/
def contents (entries : List DirectoryEntry) : Contents :=
  Contents.ofList ((entries.map image.outcome).filterMap Outcome.content?)

/-- The registers in a layout at a location that has to be at least as long. -/
def contextRecord {α : Type} (layout : Layout α) (location : Location) : Result α :=
  if location.size.toNat < layout.size then
    throw (.smallContext location.size.toNat layout.size)
  else image.read layout location.offset.toNat

/-- The registers of an architecture at a location. -/
def context (architecture : Architecture) (location : Location) : Result ThreadContext :=
  match architecture with
  | .x86 => .x86 <$> image.contextRecord ContextX86.layout location
  | .x64 => .x64 <$> image.contextRecord ContextX64.layout location

/-- The registers of a thread. There are none if the architecture is not known. -/
def threadContext (architecture : Option Architecture) (thread : Thread) :
    Result (Option ThreadContext) :=
  match architecture with
  | some architecture => some <$> image.context architecture thread.contextLocation
  | none => pure none

/-- The threads, each with the registers that it has or the cause why not. -/
def threadContexts (contents : Contents) : List (Thread × Result (Option ThreadContext)) :=
  contents.threads.map fun thread => (thread, image.threadContext contents.architecture? thread)

/-- What the process knows about itself, if there are an address space and a first
thread. -/
def environment? (space : Option AddressSpace) (threads : List Thread) :
    Option (Result ProcessEnvironment) :=
  match space, threads with
  | some space, thread :: _ => some (ProcessMemory.processAt { space, image } thread.teb.toNat)
  | _, _ => none

/-- The dump that a header and directory entries make up. -/
def dumpOf (header : Header) (entries : List DirectoryEntry) : Dump :=
  let contents := image.contents entries
  Dump.assemble header (entries.map image.outcome) contents (image.threadContexts contents)
    contents.space? (image.environment? (attempted? contents.space?) contents.threads)

/-- The dump in a file. -/
def dump : Result Dump := do
  let header ← image.header
  let entries ← image.entries header
  pure (image.dumpOf header entries)

end Image

/-! ## What a parse that succeeds has found -/

namespace Image

variable {image : Image}

theorem outcome_of_kind {entry : DirectoryEntry} {kind : StreamKind}
    (h : StreamKind.ofCode? entry.code = some kind) :
    image.outcome entry =
      .known { kind, location := entry.location }
        (image.content { kind, location := entry.location }) := by
  unfold outcome StreamKind.ofCode
  rw [h]

theorem outcome_of_unknown {entry : DirectoryEntry}
    (h : StreamKind.ofCode? entry.code = none) : image.outcome entry = .unknown entry := by
  unfold outcome StreamKind.ofCode
  rw [h]

theorem read_of_header {header : Header} (h : image.header = .ok header) :
    image.read Header.layout 0 = .ok header := by
  obtain ⟨found, hread, hfound⟩ := bind_eq_ok_iff.mp h
  by_cases hsignature : found.signature = Header.expectedSignature
  · rw [if_pos hsignature] at hfound
    rw [hread, ← Except.ok.inj hfound]
  · rw [if_neg hsignature] at hfound
    cases hfound

/-- The entries are those that lie one after the other in the file, as many as the header
says. -/
theorem read_of_entries {header : Header} {entries : List DirectoryEntry}
    (h : image.entries header = .ok entries) :
    entries.length = header.streamCount.toNat ∧
      ∀ (index : Nat) (entry : DirectoryEntry), entries[index]? = some entry →
        image.read DirectoryEntry.layout
          (header.directoryOffset.toNat + index * DirectoryEntry.layout.size) = .ok entry := by
  obtain ⟨hlength, hget⟩ := getElem?_of_mapM h
  rw [List.length_range] at hlength
  refine ⟨hlength, fun index entry hentry => ?_⟩
  obtain ⟨place, hplace, hread⟩ := hget index entry hentry
  obtain ⟨hlt, rfl⟩ := List.getElem?_eq_some_iff.mp hplace
  rwa [List.getElem_range] at hread

theorem exists_of_dump {dump : Dump} (h : image.dump = .ok dump) :
    ∃ header entries, image.header = .ok header ∧ image.entries header = .ok entries ∧
      dump = image.dumpOf header entries := by
  obtain ⟨header, hheader, h⟩ := bind_eq_ok_iff.mp h
  obtain ⟨entries, hentries, h⟩ := bind_eq_ok_iff.mp h
  exact ⟨header, entries, hheader, hentries, (Except.ok.inj h).symm⟩

end Image

/-! ## The memory lists of the contents -/

/-- An address space of a dump was made from its memory lists. -/
theorem Contents.ofLists_of_space? {contents : Contents} {space : AddressSpace}
    (h : attempted? contents.space? = some space) :
    AddressSpace.ofLists contents.memoryList contents.memory64List = .ok space := by
  unfold space? at h
  by_cases hnone : contents.memoryList.isNone ∧ contents.memory64List.isNone
  · rw [if_pos hnone] at h
    cases h
  · rw [if_neg hnone] at h
    cases hlists : AddressSpace.ofLists contents.memoryList contents.memory64List with
    | error cause =>
      rw [hlists] at h
      cases h
    | ok made =>
      rw [hlists] at h
      rw [Option.some.inj h]

namespace Scan

variable (image : Image)

/-! ## Header and directory -/

theorem gives_header : Gives (header image) image.header := by
  refine (gives_recordAt image Header.layout 0).bind fun header => ?_
  by_cases hsignature : header.signature = Header.expectedSignature
  · rw [if_pos hsignature, if_pos hsignature]
    exact gives_pure header
  · rw [if_neg hsignature, if_neg hsignature]
    exact gives_throw _

theorem gives_outcome (entry : DirectoryEntry) :
    Gives (outcome image entry) (.ok (image.outcome entry)) := by
  unfold outcome Image.outcome
  cases StreamKind.ofCode entry.code with
  | ok kind =>
    exact (gives_attempt (gives_content image _)).bind fun content => gives_pure _
  | error cause => exact gives_pure _

/-- Decoding a stream between two entries changes neither of them. -/
theorem gives_directory (header : Header) :
    Gives (directory image header) (List.map image.outcome <$> image.entries header) := by
  -- the stream of an entry is decoded before the next entry is read
  have hentry : ∀ offset, Gives (do outcome image (← recordAt image DirectoryEntry.layout offset))
      (image.outcome <$> image.read DirectoryEntry.layout offset) := by
    intro offset
    rw [map_eq_pure_bind]
    exact (gives_recordAt image DirectoryEntry.layout offset).bind fun entry =>
      gives_outcome image entry
  have h := gives_entries hentry DirectoryEntry.layout.size header.streamCount.toNat
    header.directoryOffset.toNat
  rwa [mapM_map_result] at h

/-! ## Registers and memory -/

theorem gives_contextRecord {α : Type} (layout : Layout α) (location : Location) :
    Gives (contextRecord image layout location) (image.contextRecord layout location) := by
  unfold contextRecord Image.contextRecord
  by_cases hsize : location.size.toNat < layout.size
  · rw [if_pos hsize, if_pos hsize]
    exact gives_throw _
  · rw [if_neg hsize, if_neg hsize]
    exact gives_recordAt image layout location.offset.toNat

theorem gives_context (architecture : Architecture) (location : Location) :
    Gives (context image architecture location) (image.context architecture location) := by
  cases architecture with
  | x86 => exact (gives_contextRecord image ContextX86.layout location).map ThreadContext.x86
  | x64 => exact (gives_contextRecord image ContextX64.layout location).map ThreadContext.x64

theorem gives_threadContext (architecture : Option Architecture) (thread : Thread) :
    Gives (threadContext image architecture thread) (image.threadContext architecture thread) := by
  cases architecture with
  | none => exact gives_pure none
  | some architecture => exact (gives_context image architecture thread.contextLocation).map some

theorem gives_threadContexts (contents : Contents) :
    Gives (threadContexts image contents) (.ok (image.threadContexts contents)) := by
  apply gives_mapM_ok
  intro thread
  have h := gives_attempt (gives_threadContext image contents.architecture? thread)
  exact h.bind fun context => gives_pure (thread, context)

theorem gives_toScan {α : Type} {access : Access α} {result : Result α}
    (h : Gives access result) : Gives access.toScan result :=
  fun position => h (VirtualCursor.fresh position)

theorem gives_environment? (contents : Contents) :
    Gives (environment? image (attempted? contents.space?) contents.threads)
      (.ok (image.environment? (attempted? contents.space?) contents.threads)) := by
  unfold environment? Image.environment?
  match hspace : attempted? contents.space?, contents.threads with
  | some space, thread :: _ =>
    -- the walk needs to know that the regions share no address
    obtain ⟨described, hbuilt⟩ :=
      AddressSpace.exists_builtFrom_of_ofLists (Contents.ofLists_of_space? hspace)
    have hwalk : Gives (ProcessMemory.walk { space, image } thread.teb.toNat) _ :=
      ProcessMemory.gives_walk hbuilt thread.teb.toNat
    exact (gives_attempt (gives_toScan hwalk)).map some
  | some space, [] => exact gives_pure none
  | none, _ => exact gives_pure none

/-! ## The whole parse -/

theorem gives_dump : Gives (dump image) image.dump := by
  refine (gives_header image).bind fun header => ?_
  have hrest : ∀ outcomes : List Outcome,
      let contents := Contents.ofList (outcomes.filterMap Outcome.content?);
      Gives (do
          let contexts ← threadContexts image contents
          let environment ← environment? image (attempted? contents.space?) contents.threads
          pure (Dump.assemble header outcomes contents contexts contents.space? environment))
        (.ok (Dump.assemble header outcomes contents (image.threadContexts contents)
          contents.space? (image.environment? (attempted? contents.space?) contents.threads))) := by
    intro outcomes contents
    have h := (gives_threadContexts image contents).bind fun contexts =>
      (gives_environment? image contents).bind fun environment =>
        gives_pure (Dump.assemble header outcomes contents contexts contents.space? environment)
    exact h
  have h := (gives_directory image header).bind hrest
  rwa [bind_map_left] at h

end Scan

end Minidump
