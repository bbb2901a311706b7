import Minidump.Proofs.Diagnostics
import Minidump.Proofs.LastDecoded

/-!
# The registers of the threads

Registers are decoded after the directory, so it does not matter where the thread list and
the system information stand in it, how often they are there and which of them cannot be
decoded: the last one of each that can be decoded counts. The processor in the system
information says in which shape all registers are. From there on each thread is on its own.
It has registers if there are enough bytes at its context location, and else it leaves one
diagnostic, whatever becomes of the other threads. If the processor is not known, nothing is
attempted.

- `Architecture.contextSize`, `Architecture.contextOfBytes` — the two shapes;
- `Thread.contextIn?` — the registers at the context location of a thread;
- `Diagnostic.contextThread?` — the thread that a diagnostic of registers is about;
- `Dump.HasContexts`, `Dump.HasNoContexts` — the threads of a dump have the registers of an
  architecture, each one its own, or none was attempted;
- `Dump.DispatchesContexts` — which of them it is, for each processor;
- `Dump.dispatchesContexts_of_dump` — so it is in every dump that is parsed.
-/

namespace Minidump

namespace Architecture

/-- The number of bytes of the registers. -/
def contextSize : Architecture → Nat
  | x86 => 0x2cc
  | x64 => 0x4d0

/-- The registers that as many bytes hold. -/
def contextOfBytes : Architecture → List UInt8 → ThreadContext
  | x86, bs => .x86 (ContextX86.layout.decode bs)
  | x64, bs => .x64 (ContextX64.layout.decode bs)

end Architecture

/-- The registers at the context location of a thread, if the location is long enough and
the file as well. -/
def Thread.contextIn? (thread : Thread) (image : Image) (architecture : Architecture) :
    Option ThreadContext :=
  let offset := thread.contextLocation.offset.toNat
  let size := architecture.contextSize
  if size ≤ thread.contextLocation.size.toNat ∧ offset + size ≤ image.size then
    some (architecture.contextOfBytes (image.bytes.extract offset (offset + size)).data.toList)
  else none

/-- The thread that a diagnostic of registers is about. -/
def Diagnostic.contextThread? : Diagnostic → Option UInt32
  | .threadContext thread _ => some thread
  | _ => none

namespace Dump

/-- Each thread has the registers at its own context location, and exactly the threads
without registers have a diagnostic, in the order of the threads. -/
structure HasContexts (dump : Dump) (image : Image) (architecture : Architecture) : Prop where
  contexts : ∀ thread ∈ dump.threads, thread.context = thread.contextIn? image architecture
  diagnostics : dump.diagnostics.filterMap Diagnostic.contextThread?
    = (dump.threads.filter (·.context.isNone)).map (·.id)

/-- No thread has registers, and there is no diagnostic of that. -/
structure HasNoContexts (dump : Dump) : Prop where
  contexts : ∀ thread ∈ dump.threads, thread.context = none
  diagnostics : dump.diagnostics.filterMap Diagnostic.contextThread? = []

/-- The processor in the system information decides in which shape the registers of the
threads are, and those of the extended threads are never decoded. -/
structure DispatchesContexts (dump : Dump) (image : Image) : Prop where
  x64 : ∀ info, dump.systemInfo = some info → info.record.architecture = 9 →
    dump.HasContexts image .x64
  x86 : ∀ info, dump.systemInfo = some info →
    info.record.architecture = 0 ∨ info.record.architecture = 10 → dump.HasContexts image .x86
  unknown : (∀ info, dump.systemInfo = some info →
      info.record.architecture ≠ 0 ∧ info.record.architecture ≠ 9
        ∧ info.record.architecture ≠ 10) →
    dump.HasNoContexts
  threadsEx : ∀ threads, dump.threadsEx = some threads →
    ∀ thread ∈ threads, thread.thread.context = none

end Dump

/-! ## The registers at a location -/

namespace Image

variable (image : Image)

/-- A record that is long enough at its location is there iff the file has all of it. -/
theorem toOption_contextRecord {α : Type} (layout : Layout α) (location : Location) :
    (image.contextRecord layout location).toOption =
      if layout.size ≤ location.size.toNat
          ∧ location.offset.toNat + layout.size ≤ image.size then
        some (layout.decode (image.bytes.extract location.offset.toNat
          (location.offset.toNat + layout.size)).data.toList)
      else none := by
  unfold contextRecord
  by_cases hsmall : location.size.toNat < layout.size
  · rw [if_pos hsmall, if_neg fun h => absurd hsmall (Nat.not_lt.mpr h.1)]
    rfl
  · rw [if_neg hsmall]
    unfold read window?
    by_cases hfits : location.offset.toNat + layout.size ≤ image.size
    · rw [if_pos hfits, if_pos ⟨Nat.le_of_not_lt hsmall, hfits⟩]
      rfl
    · rw [if_neg hfits, if_neg fun h => hfits h.2]
      rfl

theorem toOption_context (architecture : Architecture) (thread : Thread) :
    (image.context architecture thread.contextLocation).toOption
      = thread.contextIn? image architecture := by
  have hmap : ∀ {α : Type} (shape : α → ThreadContext) (result : Result α),
      (shape <$> result).toOption = result.toOption.map shape := by
    intro α shape result
    cases result <;> rfl
  cases architecture with
  | x86 =>
    show (ThreadContext.x86 <$> image.contextRecord ContextX86.layout _).toOption = _
    rw [hmap, toOption_contextRecord]
    exact apply_ite (Option.map ThreadContext.x86) _ _ _
  | x64 =>
    show (ThreadContext.x64 <$> image.contextRecord ContextX64.layout _).toOption = _
    rw [hmap, toOption_contextRecord]
    exact apply_ite (Option.map ThreadContext.x64) _ _ _

end Image

/-! ## The threads -/

theorem Thread.context_withContext {thread : Thread} (h : thread.context = none)
    (context : Result (Option ThreadContext)) :
    (thread.withContext context).context = context.toOption.join := by
  cases context with
  | ok context => cases context <;> rfl
  | error cause => exact h

namespace Image

variable (image : Image) (header : Header) (entries : List DirectoryEntry)

/-- A thread comes from its list without registers. -/
theorem context_of_mem_contents {thread : Thread}
    (h : thread ∈ (image.contents entries).threads) : thread.context = none := by
  have hthreads : (image.contents entries).threads
      = (lastDecoded 3 image.threads entries).getD [] :=
    Slot.threads.get_contents_list rfl rfl image entries
  rw [hthreads] at h
  cases hlast : lastDecoded 3 image.threads entries with
  | none =>
    rw [hlast] at h
    cases h
  | some threads =>
    rw [hlast] at h
    obtain ⟨entry, -, -, hdecode⟩ := exists_of_lastDecoded hlast
    rw [Option.getD_some, ← withoutContext_of_threads hdecode] at h
    obtain ⟨listed, -, rfl⟩ := List.mem_map.mp h
    rfl

/-- A thread of the dump has what its own context location gives, and nothing that another
thread or another attempt has left. -/
theorem context_of_mem_threads_dumpOf {thread : Thread}
    (h : thread ∈ (image.dumpOf header entries).threads) :
    thread.context =
      (image.threadContext (image.dumpOf header entries).architecture? thread).toOption.join := by
  rw [threads_dumpOf] at h
  obtain ⟨listed, hlisted, rfl⟩ := List.mem_map.mp h
  rw [Thread.threadContext_withContext]
  exact Thread.context_withContext (image.context_of_mem_contents entries hlisted) _

/-- The threads of an extended list are never given registers. -/
theorem context_of_threadsEx {image : Image} {location : Location} {threads : List ThreadEx}
    (h : image.threadsEx location = .ok threads) {thread : ThreadEx} (hthread : thread ∈ threads) :
    thread.thread.context = none := by
  rw [threadsEx_eq] at h
  obtain ⟨listed, -, rfl⟩ := map_eq_ok_iff.mp h
  obtain ⟨entry, -, rfl⟩ := List.mem_map.mp hthread
  rfl

end Image

/-! ## The diagnostics -/

theorem Image.contextThread?_entryDiagnostic? (image : Image) (entry : DirectoryEntry) :
    (image.entryDiagnostic? entry).bind Diagnostic.contextThread? = none := by
  cases hfound : image.entryDiagnostic? entry with
  | none => rfl
  | some diagnostic =>
    obtain ⟨-, rfl⟩ | ⟨directory, -, ⟨-, cause, -, rfl⟩ | ⟨-, -, rfl⟩⟩ :=
      entryDiagnostic?_eq_some_iff.mp hfound
    all_goals rfl

namespace Dump

section

variable (image : Image) (header : Header) (entries : List DirectoryEntry)

/-- Neither directory entries nor the memory leave a diagnostic of registers. -/
theorem filterMap_contextThread?_dumpOf :
    (image.dumpOf header entries).diagnostics.filterMap Diagnostic.contextThread? =
      (image.dumpOf header entries).threads.filterMap fun thread =>
        ((image.dumpOf header entries).contextDiagnostic? image thread).bind
          Diagnostic.contextThread? := by
  have hentries : (entries.filterMap image.entryDiagnostic?).filterMap
      Diagnostic.contextThread? = [] := by
    rw [List.filterMap_filterMap, List.filterMap_eq_nil_iff]
    exact fun entry _ => image.contextThread?_entryDiagnostic? entry
  have hmemory : ((image.dumpOf header entries).memoryDiagnostic? image).toList.filterMap
      Diagnostic.contextThread? = [] := by
    rw [image.memoryDiagnostic?_dumpOf, List.filterMap_append]
    cases failure? (image.contents entries).space? <;>
      cases failure? (image.environment? _ (image.contents entries).threads) <;> rfl
  rw [diagnostics_dumpOf, List.filterMap_append, List.filterMap_append, hentries, hmemory,
    List.filterMap_filterMap, List.nil_append, List.append_nil]

/-! ## The dispatch -/

/-- What a thread leaves does not depend on where the file was read before. -/
theorem contextDiagnostic?_eq (dump : Dump) (thread : Thread) :
    dump.contextDiagnostic? image thread
      = thread.contextDiagnostic? (image.threadContext dump.architecture? thread) := by
  have hrun : (Scan.threadContext image dump.architecture? thread).runFrom 0
      = image.threadContext dump.architecture? thread :=
    Scan.gives_threadContext image dump.architecture? thread 0
  unfold contextDiagnostic?
  rw [hrun]
  cases image.threadContext dump.architecture? thread <;> rfl

/-- With an architecture, each thread of the dump has registers or a diagnostic. -/
theorem hasContexts_dumpOf {architecture : Architecture}
    (h : (image.dumpOf header entries).architecture? = some architecture) :
    (image.dumpOf header entries).HasContexts image architecture := by
  have hcontext : ∀ thread ∈ (image.dumpOf header entries).threads,
      thread.context = (image.context architecture thread.contextLocation).toOption := by
    intro thread hthread
    rw [image.context_of_mem_threads_dumpOf header entries hthread, h]
    show (some <$> image.context architecture thread.contextLocation).toOption.join = _
    cases image.context architecture thread.contextLocation <;> rfl
  constructor
  case contexts =>
    intro thread hthread
    rw [hcontext thread hthread, image.toOption_context]
  case diagnostics =>
    rw [filterMap_contextThread?_dumpOf, ← List.filterMap_eq_map, ← List.filterMap_eq_filter,
      List.filterMap_filterMap]
    refine List.filterMap_congr fun thread hthread => ?_
    -- a thread has registers or a diagnostic, from one and the same attempt
    show _ = (if thread.context.isNone then some thread else none).bind _
    rw [contextDiagnostic?_eq, h, hcontext thread hthread]
    show (thread.contextDiagnostic? (some <$> image.context architecture
      thread.contextLocation)).bind _ = _
    cases image.context architecture thread.contextLocation <;> rfl

/-- Without an architecture, a thread has neither. -/
theorem hasNoContexts_dumpOf (h : (image.dumpOf header entries).architecture? = none) :
    (image.dumpOf header entries).HasNoContexts where
  contexts thread hthread := by
    rw [image.context_of_mem_threads_dumpOf header entries hthread, h]
    rfl
  diagnostics := by
    rw [filterMap_contextThread?_dumpOf, List.filterMap_eq_nil_iff]
    intro thread _
    rw [contextDiagnostic?_eq, h]
    rfl

theorem dispatchesContexts_dumpOf :
    (image.dumpOf header entries).DispatchesContexts image := by
  have harchitecture : ∀ info, (image.dumpOf header entries).systemInfo = some info →
      (image.dumpOf header entries).architecture?
        = Architecture.ofProcessor? info.record.architecture := by
    intro info hinfo
    show (image.dumpOf header entries).systemInfo.bind _ = _
    rw [hinfo]
    rfl
  constructor
  case x64 =>
    intro info hinfo hcode
    apply hasContexts_dumpOf
    rw [harchitecture info hinfo, hcode]
    rfl
  case x86 =>
    intro info hinfo hcode
    apply hasContexts_dumpOf
    rw [harchitecture info hinfo]
    exact if_pos hcode
  case unknown =>
    intro hunknown
    apply hasNoContexts_dumpOf
    cases hinfo : (image.dumpOf header entries).systemInfo with
    | none =>
      show (image.dumpOf header entries).systemInfo.bind _ = _
      rw [hinfo]
      rfl
    | some info =>
      obtain ⟨hzero, hnine, hten⟩ := hunknown info hinfo
      rw [harchitecture info hinfo]
      unfold Architecture.ofProcessor?
      rw [if_neg (not_or.mpr ⟨hzero, hten⟩), if_neg hnine]
  case threadsEx =>
    intro threads hthreads thread hthread
    rw [(holdsLastDecoded_dumpOf image header entries).threadsEx] at hthreads
    obtain ⟨entry, -, -, hdecode⟩ := exists_of_lastDecoded hthreads
    exact Image.context_of_threadsEx hdecode hthread

end

/-- **Each thread has the registers of its own.** From every position in the file on, a parse
that succeeds has the header at the start of the file, and the last system information and the
last thread list of the directory that can be decoded. The processor in the one decides in which
shape the registers of the other are, and each thread has those at its context location or a
diagnostic that says why not. -/
theorem dispatchesContexts_of_dump {image : Image} {position : Nat} {dump : Dump}
    (h : (Scan.dump image).runFrom position = .ok dump) :
    dump.DispatchesContexts image ∧ image.read Header.layout 0 = .ok dump.header ∧
      ∃ entries : List DirectoryEntry,
        entries.length = dump.header.streamCount.toNat ∧
        (∀ (index : Nat) (entry : DirectoryEntry), entries[index]? = some entry →
          image.read DirectoryEntry.layout
            (dump.header.directoryOffset.toNat + index * DirectoryEntry.layout.size)
              = .ok entry) ∧
        dump.systemInfo = lastDecoded 7 image.systemInfo entries ∧
        dump.threads.map Thread.withoutContext
          = (lastDecoded 3 image.threads entries).getD [] := by
  have hdump : image.dump = .ok dump := (Scan.gives_dump image position).symm.trans h
  obtain ⟨header, entries, hheader, hentries, rfl⟩ := Image.exists_of_dump hdump
  obtain ⟨hlength, hread⟩ := Image.read_of_entries hentries
  have hlast := holdsLastDecoded_dumpOf image header entries
  exact ⟨dispatchesContexts_dumpOf image header entries, Image.read_of_header hheader, entries,
    hlength, hread, hlast.systemInfo, hlast.threads⟩

/-- The processor is a 32-bit one on a 64-bit system: the first system information says
otherwise and the last one is not in the file, no more than the second thread list. Of three
threads, one has too few bytes at its context location, and one has them beyond the end of
the file. -/
theorem dispatchesContexts_of_dump_repeated :
    let bs : List UInt8 :=
      [0x4d, 0x44, 0x4d, 0x50, 0, 0, 0, 0, 5, 0, 0, 0, 32, 0, 0, 0] ++ List.replicate 16 0
        ++ [3, 0, 0, 0, 148, 0, 0, 0, 92, 0, 0, 0] ++ [7, 0, 0, 0, 32, 0, 0, 0, 240, 0, 0, 0]
        ++ [3, 0, 0, 0, 4, 0, 0, 0, 0x60, 0xea, 0, 0] ++ [7, 0, 0, 0, 32, 0, 0, 0, 16, 1, 0, 0]
        ++ [7, 0, 0, 0, 32, 0, 0, 0, 0x60, 0xea, 0, 0]
        ++ [3, 0, 0, 0, 7, 0, 0, 0] ++ List.replicate 36 0 ++ [0xcc, 2, 0, 0, 48, 1, 0, 0]
        ++ [8, 0, 0, 0] ++ List.replicate 36 0 ++ [0xcb, 2, 0, 0, 48, 1, 0, 0]
        ++ [9, 0, 0, 0] ++ List.replicate 36 0 ++ [0xcc, 2, 0, 0, 49, 1, 0, 0]
        ++ [9] ++ List.replicate 31 0 ++ [10] ++ List.replicate 31 0 ++ List.replicate 0x2cc 1;
    let image : Image := ⟨⟨bs.toArray⟩⟩;
    ∃ dump, (Scan.dump image).runFrom 3 = .ok dump ∧
      dump.threads.map (·.context.isSome) = [true, false, false] ∧
      dump.diagnostics = [.stream .threadList (.truncated 60000 4),
        .stream .systemInfo (.truncated 60000 32),
        .threadContext 8 (.smallContext 0x2cb 0x2cc),
        .threadContext 9 (.truncated 305 0x2cc)] ∧
      dump.DispatchesContexts image := by
  intro bs image
  have hparts : (fun dump : Dump => (dump.threads.map (·.context.isSome), dump.diagnostics))
      <$> (Scan.dump image).runFrom 3 = .ok ([true, false, false],
        [.stream .threadList (.truncated 60000 4), .stream .systemInfo (.truncated 60000 32),
          .threadContext 8 (.smallContext 0x2cb 0x2cc),
          .threadContext 9 (.truncated 305 0x2cc)]) := by
    decide +kernel
  obtain ⟨dump, hdump, hfound⟩ := map_eq_ok_iff.mp hparts
  obtain ⟨hthreads, hdiagnostics⟩ := Prod.mk.inj hfound
  exact ⟨dump, hdump, hthreads, hdiagnostics, (dispatchesContexts_of_dump hdump).1⟩

end Dump

end Minidump
