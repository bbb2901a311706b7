import Minidump.Proofs.Correspondence
import Minidump.Proofs.Reads

/-!
# Nothing is lost silently

A parse goes on after almost everything that goes wrong, and what is missing from the dump
is in its list of diagnostics. This file says what that list is: each directory entry, each
thread and the memory of the process leave at most one diagnostic, and which one depends on
what the decoder of that part says when it runs on its own. Nothing else is in the list, and
all of it is in the order of the file.

- `DirectoryEntry.directory?`, `Image.entryDiagnostic?` — what a directory entry leaves;
- `Dump.contextDiagnostic?` — what a thread of the dump leaves;
- `Dump.memoryDiagnostic?` — what is left by the memory lists or, if they make up an address
  space, by the walk from the first thread;
- `Correspondence.plain` — no decoder fails for a cause that the dispatch over kinds would
  take for its own;
- `Image.entryDiagnostic?_eq_some_iff` — which of the three diagnostics an entry leaves;
- `Dump.Accounts` — the directories and the diagnostics are exactly these, and which of them
  an entry leaves is up to its code;
- `Dump.accounts_of_dump` — so they are in every dump that is parsed.
-/

namespace Minidump

/-- The directory entry, if its kind is known. -/
def DirectoryEntry.directory? (entry : DirectoryEntry) : Option Directory :=
  (StreamKind.ofCode? entry.code).map fun kind => { kind, location := entry.location }

theorem DirectoryEntry.directory?_eq_none_iff {entry : DirectoryEntry} :
    entry.directory? = none ↔
      ¬ (entry.code ≤ 24 ∨ (0x8000 ≤ entry.code ∧ entry.code ≤ 0x800c) ∨ entry.code = 0xffff) := by
  unfold directory?
  rw [Option.map_eq_none_iff, StreamKind.ofCode?_eq_none_iff]

theorem DirectoryEntry.directory?_eq_some_iff {entry : DirectoryEntry} {directory : Directory} :
    entry.directory? = some directory ↔ entry = ⟨directory.kind.code, directory.location⟩ := by
  unfold directory?
  constructor
  · intro h
    obtain ⟨kind, hkind, rfl⟩ := Option.map_eq_some_iff.mp h
    rw [StreamKind.code_of_ofCode? hkind]
  · rintro rfl
    rw [StreamKind.ofCode?_code]
    rfl

/-- What a directory entry leaves among the diagnostics: one of three, or nothing if its
stream is decoded or is of a kind that holds nothing. -/
def Image.entryDiagnostic? (image : Image) (entry : DirectoryEntry) : Option Diagnostic :=
  match entry.directory? with
  | none => some (.unknownStream entry.code entry.location)
  | some directory =>
    if directory.kind.IsReserved then none
    else if directory.kind.IsDecoded then
      match (Scan.content image directory).runFrom 0 with
      | .ok _ => none
      | .error cause => some (.stream directory.kind cause)
    else some (.unsupportedStream directory.kind directory.location)

namespace Dump

/-- What a thread leaves among the diagnostics if its registers cannot be decoded. -/
def contextDiagnostic? (dump : Dump) (image : Image) (thread : Thread) : Option Diagnostic :=
  match (Scan.threadContext image dump.architecture? thread).runFrom 0 with
  | .ok _ => none
  | .error cause => some (.threadContext thread.id cause)

/-- What is left among the diagnostics by the memory lists, if there are some and they make
up no address space, or else by the walk from the first thread, if there are both and it
fails. -/
def memoryDiagnostic? (dump : Dump) (image : Image) : Option Diagnostic :=
  if dump.memoryList.isNone ∧ dump.memory64List.isNone then none
  else match AddressSpace.ofLists dump.memoryList dump.memory64List with
    | .error cause => some (.addressSpace cause)
    | .ok space =>
      match dump.threads.head? with
      | none => none
      | some thread =>
        match (ProcessMemory.environmentFrom { space, image } thread.teb.toNat).runFrom 0 with
        | .ok _ => none
        | .error cause => some (.processEnvironment cause)

end Dump

/-- A diagnostic of an entry whose kind is not known. -/
def Diagnostic.isUnknownStream : Diagnostic → Bool
  | .unknownStream _ _ => true
  | _ => false

/-- A diagnostic of a directory entry. -/
def Diagnostic.isOfEntry : Diagnostic → Bool
  | .unknownStream _ _ => true
  | .unsupportedStream _ _ => true
  | .stream _ _ => true
  | _ => false

theorem Diagnostic.isOfEntry_of_isUnknownStream {diagnostic : Diagnostic}
    (h : diagnostic.isUnknownStream = true) : diagnostic.isOfEntry = true := by
  cases diagnostic
  case unknownStream => rfl
  all_goals cases h

/-- A diagnostic of the memory lists or of the walk. -/
def Diagnostic.isOfMemory : Diagnostic → Bool
  | .addressSpace _ => true
  | .processEnvironment _ => true
  | _ => false

/-! ## Causes that a decoder does not have -/

/-- Every cause that a decoder, a register context or a walk fails for has to do with what is
in the file. -/
def Correspondence.plain (image : Image) : Correspondence image image where
  Related r _ := ∀ cause, r = .error cause → ¬ cause.ConcernsKind
  ok _ _ h := nomatch h
  error hcause _ h := Except.error.inj h ▸ hcause
  bind {_ _ r _ _ _} hr hf cause h := by
    cases r with
    | error found => exact hr cause (congrArg Except.error (Except.error.inj h))
    | ok a => exact hf a cause h
  read _ _ cause h := by
    obtain ⟨-, rfl⟩ := Image.read_eq_error_iff.mp h
    exact id
  readBytes _ _ cause h := by
    obtain ⟨-, -, rfl⟩ := Image.readBytes_eq_error_iff.mp h
    exact id

/-- The dispatch over kinds takes no failure of a decoder for a kind without a decoder. -/
theorem Diagnostic.ofStream_of_content {image : Image} {kind : StreamKind} {location : Location}
    {cause : Error} (hkind : kind.IsDecoded)
    (h : image.content { kind, location } = .error cause) :
    Diagnostic.ofStream { kind, location } cause = .stream kind cause := by
  have hplain := (Correspondence.plain image).content location hkind cause h
  cases cause
  case unsupportedStream => exact absurd trivial hplain
  all_goals rfl

namespace Image

variable (image : Image)

/-! ## Directory entries -/

theorem directory?_outcome (entry : DirectoryEntry) :
    (image.outcome entry).directory? = entry.directory? := by
  unfold DirectoryEntry.directory?
  cases hkind : StreamKind.ofCode? entry.code with
  | none =>
    rw [outcome_of_unknown hkind]
    rfl
  | some kind =>
    rw [outcome_of_kind hkind]
    rfl

theorem diagnostic?_outcome (entry : DirectoryEntry) :
    (image.outcome entry).diagnostic? = image.entryDiagnostic? entry := by
  unfold entryDiagnostic? DirectoryEntry.directory?
  cases hkind : StreamKind.ofCode? entry.code with
  | none =>
    rw [outcome_of_unknown hkind]
    rfl
  | some kind =>
    rw [outcome_of_kind hkind]
    show Outcome.diagnostic? (.known { kind, location := entry.location } _)
      = if kind.IsReserved then none else if kind.IsDecoded then _ else _
    by_cases hreserved : kind.IsReserved
    · rw [if_pos hreserved, image.content_of_isReserved hreserved]
      rfl
    · rw [if_neg hreserved]
      by_cases hdecoded : kind.IsDecoded
      · have hcontent : (Scan.content image { kind, location := entry.location }).runFrom 0
            = image.content { kind, location := entry.location } :=
          Scan.gives_content image _ 0
        rw [if_pos hdecoded, hcontent]
        cases hresult : image.content { kind, location := entry.location } with
        | ok content => rfl
        | error cause => exact congrArg some (Diagnostic.ofStream_of_content hdecoded hresult)
      · rw [if_neg hdecoded, image.content_of_not_isDecoded hreserved hdecoded]
        rfl

variable {image} in
/-- Which of the three diagnostics an entry leaves. -/
theorem entryDiagnostic?_eq_some_iff {entry : DirectoryEntry} {diagnostic : Diagnostic} :
    image.entryDiagnostic? entry = some diagnostic ↔
      (entry.directory? = none ∧ diagnostic = .unknownStream entry.code entry.location) ∨
      ∃ directory, entry.directory? = some directory ∧
        ((directory.kind.IsDecoded ∧ ∃ cause,
            (Scan.content image directory).runFrom 0 = .error cause ∧
              diagnostic = .stream directory.kind cause) ∨
          (¬ directory.kind.IsReserved ∧ ¬ directory.kind.IsDecoded ∧
            diagnostic = .unsupportedStream directory.kind directory.location)) := by
  unfold entryDiagnostic?
  cases entry.directory? with
  | none => simp [eq_comm]
  | some directory =>
    simp only [Option.some.injEq, reduceCtorEq, false_and, false_or, exists_eq_left']
    by_cases hdecoded : directory.kind.IsDecoded
    · have hreserved := hdecoded.not_isReserved
      cases (Scan.content image directory).runFrom 0 <;> simp [hdecoded, hreserved, eq_comm]
    · by_cases hreserved : directory.kind.IsReserved <;> simp [hdecoded, hreserved, eq_comm]

/-- Exactly the entries whose kind is not known leave a diagnostic that says so. -/
theorem isUnknownStream_entryDiagnostic? (entry : DirectoryEntry) :
    ((image.entryDiagnostic? entry).map Diagnostic.isUnknownStream).getD false
      = decide (¬ entry.directory?.isSome = true) := by
  unfold entryDiagnostic?
  cases entry.directory? with
  | none => rfl
  | some directory =>
    by_cases hreserved : directory.kind.IsReserved
    · simp only [if_pos hreserved]
      rfl
    · simp only [if_neg hreserved]
      by_cases hdecoded : directory.kind.IsDecoded
      · simp only [if_pos hdecoded]
        cases (Scan.content image directory).runFrom 0 <;> rfl
      · simp only [if_neg hdecoded]
        rfl

/-- Each entry is counted once, among the directories or among the unknown streams. -/
theorem length_directories_add_countP (entries : List DirectoryEntry) :
    (entries.filterMap DirectoryEntry.directory?).length
        + (entries.filterMap image.entryDiagnostic?).countP Diagnostic.isUnknownStream
      = entries.length := by
  rw [List.length_filterMap_eq_countP, List.countP_filterMap]
  simp only [isUnknownStream_entryDiagnostic?]
  exact (List.length_eq_countP_add_countP _).symm

end Image

/-! ## Threads -/

namespace Thread

variable (thread : Thread) (context : Result (Option ThreadContext))

theorem id_withContext : (thread.withContext context).id = thread.id := by
  cases context <;> rfl

theorem teb_withContext : (thread.withContext context).teb = thread.teb := by
  cases context <;> rfl

theorem threadContext_withContext (image : Image) (architecture : Option Architecture) :
    image.threadContext architecture (thread.withContext context)
      = image.threadContext architecture thread := by
  cases context <;> rfl

end Thread

namespace Image

variable (image : Image) (header : Header) (entries : List DirectoryEntry)

theorem threads_dumpOf :
    (image.dumpOf header entries).threads = (image.contents entries).threads.map fun thread =>
      thread.withContext (image.threadContext (image.contents entries).architecture? thread) := by
  show ((image.contents entries).threads.map _).map _ = _
  rw [List.map_map]
  rfl

/-- The threads of the dump leave what the threads left when their registers were
decoded. -/
theorem contextDiagnostics_dumpOf :
    (image.dumpOf header entries).threads.filterMap
        ((image.dumpOf header entries).contextDiagnostic? image)
      = (image.threadContexts (image.contents entries)).filterMap fun (thread, context) =>
          thread.contextDiagnostic? context := by
  unfold threadContexts
  rw [threads_dumpOf, List.filterMap_map, List.filterMap_map]
  refine congrArg (List.filterMap · _) (funext fun thread => ?_)
  have hrun : ∀ architecture thread, (Scan.threadContext image architecture thread).runFrom 0
      = image.threadContext architecture thread := fun architecture thread =>
    Scan.gives_threadContext image architecture thread 0
  show Dump.contextDiagnostic? _ image _ = thread.contextDiagnostic? _
  unfold Dump.contextDiagnostic?
  rw [hrun, Thread.threadContext_withContext, Thread.id_withContext]
  show (match image.threadContext (image.contents entries).architecture? thread with
    | .ok _ => none
    | .error cause => some (Diagnostic.threadContext thread.id cause)) = _
  cases image.threadContext (image.contents entries).architecture? thread <;> rfl

/-! ## Memory -/

/-- A walk with a cursor of its own finds what there is in an address space of memory
lists. -/
theorem runFrom_environmentFrom {memory : Option MemoryList} {memory64 : Option Memory64List}
    {space : AddressSpace} (h : AddressSpace.ofLists memory memory64 = .ok space) (teb : Nat) :
    (ProcessMemory.environmentFrom { space, image } teb).runFrom 0
      = ProcessMemory.processAt { space, image } teb := by
  obtain ⟨described, hbuilt⟩ := AddressSpace.exists_builtFrom_of_ofLists h
  have hwalk : Gives (ProcessMemory.walk { space, image } teb) _ :=
    ProcessMemory.gives_walk hbuilt teb
  exact Scan.gives_toScan hwalk 0

theorem memoryDiagnostic?_dumpOf :
    ((image.dumpOf header entries).memoryDiagnostic? image).toList =
      ((failure? (image.contents entries).space?).map Diagnostic.addressSpace).toList
        ++ ((failure? (image.environment? (attempted? (image.contents entries).space?)
          (image.contents entries).threads)).map Diagnostic.processEnvironment).toList := by
  unfold Dump.memoryDiagnostic?
  rw [threads_dumpOf]
  show Option.toList (if (image.contents entries).memoryList.isNone = true
      ∧ (image.contents entries).memory64List.isNone = true then none
    else match AddressSpace.ofLists (image.contents entries).memoryList
        (image.contents entries).memory64List with
      | .error cause => _
      | .ok space => _) = _
  unfold Contents.space?
  by_cases hnone : (image.contents entries).memoryList.isNone = true
      ∧ (image.contents entries).memory64List.isNone = true
  · rw [if_pos hnone, if_pos hnone]
    rfl
  · rw [if_neg hnone, if_neg hnone]
    cases hspace : AddressSpace.ofLists (image.contents entries).memoryList
        (image.contents entries).memory64List with
    | error cause => rfl
    | ok space =>
      cases (image.contents entries).threads with
      | nil => rfl
      | cons thread threads =>
        show Option.toList (match (ProcessMemory.environmentFrom { space, image }
            (thread.withContext _).teb.toNat).runFrom 0 with
          | .ok _ => none
          | .error cause => some (Diagnostic.processEnvironment cause)) = _
        rw [Thread.teb_withContext, image.runFrom_environmentFrom hspace]
        show _ = Option.toList ((failure? (some (ProcessMemory.processAt { space, image }
          thread.teb.toNat))).map _)
        cases ProcessMemory.processAt { space, image } thread.teb.toNat <;> rfl

/-- Neither a directory entry nor a thread leaves a diagnostic of the memory. -/
theorem mem_diagnostics_dumpOf {diagnostic : Diagnostic} (h : diagnostic.isOfMemory = true) :
    diagnostic ∈ (image.dumpOf header entries).diagnostics ↔
      (failure? (image.contents entries).space?).map Diagnostic.addressSpace = some diagnostic ∨
      (failure? (image.environment? (attempted? (image.contents entries).space?)
        (image.contents entries).threads)).map Diagnostic.processEnvironment
          = some diagnostic := by
  have houtcome : ∀ outcome : Outcome, outcome.diagnostic? ≠ some diagnostic := by
    rintro (entry | ⟨directory, cause | content⟩) hdiagnostic
    · cases hdiagnostic
      cases h
    · obtain rfl := Option.some.inj hdiagnostic
      cases cause <;> cases h
    · cases hdiagnostic
  have hcontext : ∀ (thread : Thread) (context : Result (Option ThreadContext)),
      thread.contextDiagnostic? context ≠ some diagnostic := by
    rintro thread (cause | context) hdiagnostic
    · cases hdiagnostic
      cases h
    · cases hdiagnostic
  show diagnostic ∈ (entries.map image.outcome).filterMap Outcome.diagnostic?
    ++ (image.threadContexts (image.contents entries)).filterMap _ ++ _ ++ _ ↔ _
  rw [List.mem_append, List.mem_append, List.mem_append, Option.mem_toList, Option.mem_toList]
  constructor
  · rintro (((hmem | hmem) | hmem) | hmem)
    · obtain ⟨outcome, -, hfound⟩ := List.mem_filterMap.mp hmem
      exact absurd hfound (houtcome outcome)
    · obtain ⟨⟨thread, context⟩, -, hfound⟩ := List.mem_filterMap.mp hmem
      exact absurd hfound (hcontext thread context)
    · exact .inl hmem
    · exact .inr hmem
  · rintro (hmem | hmem)
    · exact .inl (.inr hmem)
    · exact .inr hmem

theorem mem_addressSpace_dumpOf {cause : Error} :
    .addressSpace cause ∈ (image.dumpOf header entries).diagnostics ↔
      failure? (image.contents entries).space? = some cause := by
  rw [image.mem_diagnostics_dumpOf header entries rfl]
  simp

theorem mem_processEnvironment_dumpOf {cause : Error} :
    .processEnvironment cause ∈ (image.dumpOf header entries).diagnostics ↔
      failure? (image.environment? (attempted? (image.contents entries).space?)
        (image.contents entries).threads) = some cause := by
  rw [image.mem_diagnostics_dumpOf header entries rfl]
  simp

end Image

/-! ## Steps that are attempted -/

/-- A step has no value iff it was not attempted or failed. -/
theorem attempted?_eq_none_iff {α : Type} {step : Option (Result α)} :
    attempted? step = none ↔ step = none ∨ ∃ cause, failure? step = some cause := by
  rcases step with _ | (cause | a)
  · exact ⟨fun _ => .inl rfl, fun _ => rfl⟩
  · exact ⟨fun _ => .inr ⟨cause, rfl⟩, fun _ => rfl⟩
  · constructor
    · intro h
      cases h
    · rintro (h | ⟨cause, h⟩) <;> cases h

theorem Contents.space?_eq_none_iff {contents : Contents} :
    contents.space? = none ↔ contents.memoryList = none ∧ contents.memory64List = none := by
  rw [← and_congr Option.isNone_iff_eq_none Option.isNone_iff_eq_none]
  unfold space?
  by_cases hnone : contents.memoryList.isNone = true ∧ contents.memory64List.isNone = true
  · rw [if_pos hnone]
    exact ⟨fun _ => hnone, fun _ => rfl⟩
  · rw [if_neg hnone]
    exact ⟨fun h => (nomatch h), fun h => absurd h hnone⟩

theorem Image.environment?_eq_none_iff {image : Image} {space : Option AddressSpace}
    {threads : List Thread} :
    image.environment? space threads = none ↔ space = none ∨ threads = [] := by
  cases space with
  | none => exact ⟨fun _ => .inl rfl, fun _ => rfl⟩
  | some space =>
    cases threads with
    | nil => exact ⟨fun _ => .inr rfl, fun _ => rfl⟩
    | cons thread threads =>
      constructor
      · intro h
        cases h
      · rintro (h | h) <;> cases h

/-! ## The whole list -/

namespace Dump

/-- The directories and the diagnostics of a dump say what became of its directory entries,
its threads and its memory, and nothing else. The code of an entry decides whether its stream
is unknown, known but not decoded, or can fail to be decoded. So no entry is missing from both
lists, the memory leaves one diagnostic at most, and there is one for each of the two last
parts that is missing although it was attempted. -/
structure Accounts (dump : Dump) (image : Image) (entries : List DirectoryEntry) : Prop where
  directories : dump.directories = entries.filterMap DirectoryEntry.directory?
  diagnostics : dump.diagnostics =
    entries.filterMap image.entryDiagnostic?
      ++ dump.threads.filterMap (dump.contextDiagnostic? image)
      ++ (dump.memoryDiagnostic? image).toList
  mem_unknownStream_iff : ∀ code location,
    .unknownStream code location ∈ dump.diagnostics ↔
      ⟨code, location⟩ ∈ entries ∧
        ¬ (code ≤ 24 ∨ (0x8000 ≤ code ∧ code ≤ 0x800c) ∨ code = 0xffff)
  mem_unsupportedStream_iff : ∀ kind location,
    .unsupportedStream kind location ∈ dump.diagnostics ↔
      ⟨kind.code, location⟩ ∈ entries ∧ (kind.code = 13 ∨ 18 ≤ kind.code)
  mem_stream_iff : ∀ kind cause, .stream kind cause ∈ dump.diagnostics ↔
    (3 ≤ kind.code ∧ kind.code ≤ 17 ∧ kind.code ≠ 13) ∧
      ∃ location, ⟨kind.code, location⟩ ∈ entries ∧
        (Scan.content image { kind, location }).runFrom 0 = .error cause
  count : dump.directories.length + dump.diagnostics.countP Diagnostic.isUnknownStream
    = entries.length
  exclusive : ∀ cause walkCause, .addressSpace cause ∈ dump.diagnostics →
    .processEnvironment walkCause ∉ dump.diagnostics
  addressSpace_eq_none_iff : dump.addressSpace = none ↔
    (dump.memoryList = none ∧ dump.memory64List = none) ∨
      ∃ cause, .addressSpace cause ∈ dump.diagnostics
  environment_eq_none_iff : dump.environment = none ↔
    dump.addressSpace = none ∨ dump.threads = [] ∨
      ∃ cause, .processEnvironment cause ∈ dump.diagnostics

/-- A thread leaves no diagnostic of a directory entry. -/
theorem not_isOfEntry_of_thread {dump : Dump} {image : Image} {diagnostic : Diagnostic}
    (h : diagnostic ∈ dump.threads.filterMap (dump.contextDiagnostic? image)) :
    ¬ diagnostic.isOfEntry = true := by
  obtain ⟨thread, -, hfound⟩ := List.mem_filterMap.mp h
  unfold contextDiagnostic? at hfound
  cases hrun : (Scan.threadContext image dump.architecture? thread).runFrom 0 with
  | ok context =>
    rw [hrun] at hfound
    cases hfound
  | error cause =>
    rw [hrun] at hfound
    cases hfound
    exact Bool.false_ne_true

/-- The memory leaves no diagnostic of a directory entry. -/
theorem not_isOfEntry_of_memory {image : Image} {header : Header}
    {entries : List DirectoryEntry} {diagnostic : Diagnostic}
    (h : diagnostic ∈ ((image.dumpOf header entries).memoryDiagnostic? image).toList) :
    ¬ diagnostic.isOfEntry = true := by
  rw [image.memoryDiagnostic?_dumpOf, List.mem_append, Option.mem_toList, Option.mem_toList] at h
  rcases h with hfound | hfound
  · obtain ⟨cause, -, rfl⟩ := Option.map_eq_some_iff.mp hfound
    exact Bool.false_ne_true
  · obtain ⟨cause, -, rfl⟩ := Option.map_eq_some_iff.mp hfound
    exact Bool.false_ne_true

variable (image : Image) (header : Header) (entries : List DirectoryEntry)

theorem directories_dumpOf :
    (image.dumpOf header entries).directories = entries.filterMap DirectoryEntry.directory? := by
  show (entries.map image.outcome).filterMap Outcome.directory? = _
  rw [List.filterMap_map]
  exact congrArg (List.filterMap · entries) (funext image.directory?_outcome)

theorem diagnostics_dumpOf :
    (image.dumpOf header entries).diagnostics =
      entries.filterMap image.entryDiagnostic?
        ++ (image.dumpOf header entries).threads.filterMap
          ((image.dumpOf header entries).contextDiagnostic? image)
        ++ ((image.dumpOf header entries).memoryDiagnostic? image).toList := by
  have hentries : (entries.map image.outcome).filterMap Outcome.diagnostic?
      = entries.filterMap image.entryDiagnostic? := by
    rw [List.filterMap_map]
    exact congrArg (List.filterMap · entries) (funext image.diagnostic?_outcome)
  rw [image.contextDiagnostics_dumpOf, image.memoryDiagnostic?_dumpOf, ← hentries,
    ← List.append_assoc]
  rfl

theorem mem_entries_dumpOf {diagnostic : Diagnostic} (h : diagnostic.isOfEntry = true) :
    diagnostic ∈ (image.dumpOf header entries).diagnostics ↔
      ∃ entry ∈ entries, image.entryDiagnostic? entry = some diagnostic := by
  rw [diagnostics_dumpOf, List.mem_append, List.mem_append, List.mem_filterMap]
  constructor
  · rintro ((hentry | hthread) | hmemory)
    · exact hentry
    · exact absurd h (not_isOfEntry_of_thread hthread)
    · exact absurd h (not_isOfEntry_of_memory hmemory)
  · exact fun hentry => .inl (.inl hentry)

theorem mem_unknownStream_dumpOf {code : UInt32} {location : Location} :
    .unknownStream code location ∈ (image.dumpOf header entries).diagnostics ↔
      ⟨code, location⟩ ∈ entries ∧
        ¬ (code ≤ 24 ∨ (0x8000 ≤ code ∧ code ≤ 0x800c) ∨ code = 0xffff) := by
  rw [mem_entries_dumpOf image header entries rfl]
  simp only [Image.entryDiagnostic?_eq_some_iff, DirectoryEntry.directory?_eq_none_iff]
  constructor
  · rintro ⟨entry, hentry, ⟨hunknown, heq⟩ | ⟨directory, -, ⟨-, cause, -, heq⟩ | ⟨-, -, heq⟩⟩⟩
    · cases heq
      exact ⟨hentry, hunknown⟩
    · cases heq
    · cases heq
  · rintro ⟨hentry, hunknown⟩
    exact ⟨_, hentry, .inl ⟨hunknown, rfl⟩⟩

theorem mem_unsupportedStream_dumpOf {kind : StreamKind} {location : Location} :
    .unsupportedStream kind location ∈ (image.dumpOf header entries).diagnostics ↔
      ⟨kind.code, location⟩ ∈ entries ∧ (kind.code = 13 ∨ 18 ≤ kind.code) := by
  rw [mem_entries_dumpOf image header entries rfl, ← StreamKind.isRefused_iff_code]
  simp only [Image.entryDiagnostic?_eq_some_iff, DirectoryEntry.directory?_eq_some_iff]
  constructor
  · rintro ⟨entry, hentry, ⟨-, heq⟩ | ⟨directory, rfl, ⟨-, cause, -, heq⟩ | ⟨hres, hdec, heq⟩⟩⟩
    · cases heq
    · cases heq
    · cases heq
      exact ⟨hentry, hres, hdec⟩
  · rintro ⟨hentry, hreserved, hdecoded⟩
    exact ⟨_, hentry, .inr ⟨⟨kind, location⟩, rfl, .inr ⟨hreserved, hdecoded, rfl⟩⟩⟩

theorem mem_stream_dumpOf {kind : StreamKind} {cause : Error} :
    .stream kind cause ∈ (image.dumpOf header entries).diagnostics ↔
      (3 ≤ kind.code ∧ kind.code ≤ 17 ∧ kind.code ≠ 13) ∧
        ∃ location, ⟨kind.code, location⟩ ∈ entries ∧
          (Scan.content image { kind, location }).runFrom 0 = .error cause := by
  rw [mem_entries_dumpOf image header entries rfl, ← StreamKind.isDecoded_iff_code]
  simp only [Image.entryDiagnostic?_eq_some_iff, DirectoryEntry.directory?_eq_some_iff]
  constructor
  · rintro ⟨entry, hentry, ⟨-, heq⟩ | ⟨directory, rfl, ⟨hdec, found, hrun, heq⟩ | ⟨-, -, heq⟩⟩⟩
    · cases heq
    · cases heq
      exact ⟨hdec, directory.location, hentry, hrun⟩
    · cases heq
  · rintro ⟨hdecoded, location, hentry, hrun⟩
    exact ⟨_, hentry, .inr ⟨⟨kind, location⟩, rfl, .inl ⟨hdecoded, cause, hrun, rfl⟩⟩⟩

/-- Only directory entries leave diagnostics of unknown streams. -/
theorem countP_diagnostics_dumpOf :
    (image.dumpOf header entries).diagnostics.countP Diagnostic.isUnknownStream
      = (entries.filterMap image.entryDiagnostic?).countP Diagnostic.isUnknownStream := by
  have hzero : ∀ {ds : List Diagnostic}, (∀ d ∈ ds, ¬ d.isOfEntry = true) →
      ds.countP Diagnostic.isUnknownStream = 0 := fun hds =>
    List.countP_eq_zero.mpr fun d hd hunknown =>
      hds d hd (Diagnostic.isOfEntry_of_isUnknownStream hunknown)
  rw [diagnostics_dumpOf, List.countP_append, List.countP_append,
    hzero fun _ => not_isOfEntry_of_thread, hzero fun _ => not_isOfEntry_of_memory]
  rfl

theorem accounts_dumpOf : Accounts (image.dumpOf header entries) image entries where
  directories := directories_dumpOf image header entries
  diagnostics := diagnostics_dumpOf image header entries
  mem_unknownStream_iff _ _ := mem_unknownStream_dumpOf image header entries
  mem_unsupportedStream_iff _ _ := mem_unsupportedStream_dumpOf image header entries
  mem_stream_iff _ _ := mem_stream_dumpOf image header entries
  count := by
    rw [countP_diagnostics_dumpOf, directories_dumpOf]
    exact image.length_directories_add_countP entries
  exclusive cause walkCause hspace hwalk := by
    rw [image.mem_addressSpace_dumpOf] at hspace
    rw [image.mem_processEnvironment_dumpOf] at hwalk
    -- without an address space there is nothing to walk through
    have hnone : attempted? (image.contents entries).space? = none :=
      attempted?_eq_none_iff.mpr (.inr ⟨cause, hspace⟩)
    rw [Image.environment?_eq_none_iff.mpr (.inl hnone)] at hwalk
    cases hwalk
  addressSpace_eq_none_iff := by
    simp only [image.mem_addressSpace_dumpOf]
    show attempted? (image.contents entries).space? = none ↔ _
    rw [attempted?_eq_none_iff, Contents.space?_eq_none_iff]
    rfl
  environment_eq_none_iff := by
    simp only [image.mem_processEnvironment_dumpOf, image.threads_dumpOf, List.map_eq_nil_iff]
    show attempted? (image.environment? _ _) = none ↔ _
    rw [attempted?_eq_none_iff, Image.environment?_eq_none_iff, or_assoc]
    rfl

/-- **Nothing is lost silently.** From every position in the file on, a parse that succeeds
has found the header and all directory entries where they are in the file, and its directories
and its diagnostics account for them, for the threads and for the memory, one by one and in
order. -/
theorem accounts_of_dump {image : Image} {position : Nat} {dump : Dump}
    (h : (Scan.dump image).runFrom position = .ok dump) :
    image.read Header.layout 0 = .ok dump.header ∧
      ∃ entries : List DirectoryEntry,
        entries.length = dump.header.streamCount.toNat ∧
        (∀ (index : Nat) (entry : DirectoryEntry), entries[index]? = some entry →
          image.read DirectoryEntry.layout
            (dump.header.directoryOffset.toNat + index * DirectoryEntry.layout.size)
              = .ok entry) ∧
        Accounts dump image entries := by
  have hdump : image.dump = .ok dump := (Scan.gives_dump image position).symm.trans h
  obtain ⟨header, entries, hheader, hentries, rfl⟩ := Image.exists_of_dump hdump
  obtain ⟨hlength, hread⟩ := Image.read_of_entries hentries
  exact ⟨Image.read_of_header hheader, entries, hlength, hread,
    accounts_dumpOf image header entries⟩

/-- An entry of a kind that nobody knows, one of a kind without a decoder, a comment that is
not in the file, an unused entry, two ranges that overlap, and a thread of a known
architecture without registers. -/
theorem accounts_of_dump_malformed :
    let bs : List UInt8 :=
      [0x4d, 0x44, 0x4d, 0x50, 0, 0, 0, 0, 7, 0, 0, 0, 32, 0, 0, 0] ++ List.replicate 16 0
        ++ [0x78, 0x56, 0x34, 0x12, 4, 0, 0, 0, 0, 0, 0, 0]
        ++ [13, 0, 0, 0, 16, 0, 0, 0, 0, 0, 0, 0]
        ++ [10, 0, 0, 0, 3, 0, 0, 0, 44, 1, 0, 0] ++ List.replicate 12 0
        ++ [5, 0, 0, 0, 36, 0, 0, 0, 116, 0, 0, 0] ++ [3, 0, 0, 0, 52, 0, 0, 0, 152, 0, 0, 0]
        ++ [7, 0, 0, 0, 32, 0, 0, 0, 204, 0, 0, 0]
        ++ [2, 0, 0, 0, 0, 0x10, 0, 0, 0, 0, 0, 0, 16, 0, 0, 0, 0, 0, 0, 0]
        ++ [0, 0x10, 0, 0, 0, 0, 0, 0, 1, 0, 0, 0, 0, 0, 0, 0] ++ [1, 0, 0, 0, 7, 0, 0, 0]
        ++ List.replicate 44 0 ++ [9] ++ List.replicate 31 0;
    let image : Image := ⟨⟨bs.toArray⟩⟩;
    ∃ dump entries, (Scan.dump image).runFrom 9 = .ok dump ∧
      dump.diagnostics = [.unknownStream 0x12345678 ⟨4, 0⟩,
        .unsupportedStream .functionTable ⟨16, 0⟩,
        .stream .commentA (.truncated 300 3), .threadContext 7 (.smallContext 0 0x4d0),
        .addressSpace (.regionOverlap ⟨0x1000, 0x1001⟩ ⟨0x1000, 0x1010⟩)] ∧
      Accounts dump image entries := by
  intro bs image
  have hdiagnostics : Dump.diagnostics <$> (Scan.dump image).runFrom 9
      = .ok [.unknownStream 0x12345678 ⟨4, 0⟩,
        .unsupportedStream .functionTable ⟨16, 0⟩,
        .stream .commentA (.truncated 300 3), .threadContext 7 (.smallContext 0 0x4d0),
        .addressSpace (.regionOverlap ⟨0x1000, 0x1001⟩ ⟨0x1000, 0x1010⟩)] := by
    decide +kernel
  obtain ⟨dump, hdump, hlist⟩ := map_eq_ok_iff.mp hdiagnostics
  obtain ⟨-, entries, -, -, haccounts⟩ := accounts_of_dump hdump
  exact ⟨dump, entries, hdump, hlist, haccounts⟩

end Dump

end Minidump
