import Minidump.Proofs.Parse

/-!
# The last stream that can be decoded counts

The contents of a dump are filled in while the directory is read: each stream that is
decoded is stored over what an earlier one has left. So a field is a register with one
last write, and this file says which entry writes it. Entries of other kinds do not, nor do
those whose stream cannot be decoded, wherever they stand.

- `lastDecoded` — what the last entry with a code holds, of those that can be decoded;
- `Slot` — a field of `Contents`: the kind of its streams, their decoder, and what a store
  does to it;
- `Slot.get_contents` — after all entries, a slot holds what the last one left there;
- `Dump.HoldsLastDecoded` — this for all the slots of a dump;
- `Dump.holdsLastDecoded_of_dump` — every dump that is parsed has this property.
-/

namespace Minidump

variable {α β : Type}

/-- What the last directory entry with a code holds, of those whose stream can be decoded. -/
def lastDecoded (code : UInt32) (decode : Location → Result α)
    (entries : List DirectoryEntry) : Option α :=
  (entries.filterMap fun entry =>
    if entry.code = code then (decode entry.location).toOption else none).getLast?

/-- The kind of the streams that hold such a content. -/
def Content.kind : Content → StreamKind
  | .threads _ => .threadList
  | .threadsEx _ => .threadExList
  | .threadInfo _ => .threadInfoList
  | .modules _ => .moduleList
  | .unloadedModules _ => .unloadedModuleList
  | .memoryList _ => .memoryList
  | .memory64List _ => .memory64List
  | .memoryInfo _ => .memoryInfoList
  | .systemInfo _ => .systemInfo
  | .exception _ => .exception
  | .miscInfo _ => .miscInfo
  | .handles _ => .handleData
  | .commentA _ => .commentA
  | .commentW _ => .commentW

/-- A stream holds only what belongs to its own kind. -/
theorem Image.kind_of_content {image : Image} {directory : Directory} {content : Content}
    (h : image.content directory = .ok (some content)) : content.kind = directory.kind := by
  have hmap : ∀ {α : Type} {inj : α → Content} {result : Result α},
      (some <$> inj <$> result) = .ok (some content) → ∃ a, content = inj a := by
    intro α inj result hresult
    obtain ⟨found, hfound, hsome⟩ := map_eq_ok_iff.mp hresult
    obtain ⟨a, -, rfl⟩ := map_eq_ok_iff.mp hfound
    exact ⟨a, (Option.some.inj hsome).symm⟩
  obtain ⟨kind, location⟩ := directory
  cases kind
  -- a stream with a decoder holds what the decoder gives, the others hold nothing
  all_goals first
    | (obtain ⟨a, rfl⟩ := hmap h
       rfl)
    | cases h

/-! ## Slots -/

/-- A field of the contents and the streams of one kind that fill it, with what a decoder
and a store have to do with the field. -/
structure Slot (α β : Type) where
  kind : StreamKind
  decode : Image → Location → Result α
  put : α → Content
  pick : Content → Option α
  fill : α → β
  get : Contents → β
  content_eq : ∀ image location,
    image.content { kind, location } = some <$> put <$> decode image location := by
      intros; rfl
  pick_put : ∀ a, pick (put a) = some a := by
    intros; rfl
  pick_of_ne : ∀ content, content.kind ≠ kind → pick content = none := by
    intro content h
    cases content <;> first | rfl | exact absurd rfl h
  get_store : ∀ contents content,
      get (contents.store content) = ((pick content).map fill).getD (get contents) := by
    intro contents content
    cases content <;> rfl

namespace Slot

variable (slot : Slot α β)

/-- A run of stores leaves what the last one that concerns the slot has put there. -/
theorem get_foldl_store (stored : List Content) (contents : Contents) :
    slot.get (stored.foldl Contents.store contents)
      = ((stored.filterMap slot.pick).getLast?.map slot.fill).getD (slot.get contents) := by
  induction stored generalizing contents with
  | nil => rfl
  | cons content stored ih =>
    rw [List.foldl_cons, ih, slot.get_store, List.filterMap_cons]
    -- what this store puts into the slot stays only if no later one concerns it
    cases slot.pick content with
    | none => rfl
    | some a =>
      show _ = ((a :: stored.filterMap slot.pick).getLast?.map slot.fill).getD _
      rw [List.getLast?_cons]
      cases (stored.filterMap slot.pick).getLast? <;> rfl

/-- What an entry puts into a slot: something only if it is of the slot's kind and its
stream can be decoded. -/
theorem bind_pick_outcome (image : Image) (entry : DirectoryEntry) :
    (image.outcome entry).content?.bind slot.pick =
      if entry.code = slot.kind.code then (slot.decode image entry.location).toOption
      else none := by
  by_cases hcode : entry.code = slot.kind.code
  · have hkind : StreamKind.ofCode? entry.code = some slot.kind := by
      rw [hcode, StreamKind.ofCode?_code]
    rw [if_pos hcode, Image.outcome_of_kind hkind, slot.content_eq]
    cases slot.decode image entry.location with
    | error cause => rfl
    | ok a => exact slot.pick_put a
  · rw [if_neg hcode]
    -- an entry of another kind, or of none, has nothing for the slot
    cases hkind : StreamKind.ofCode? entry.code with
    | none =>
      rw [Image.outcome_of_unknown hkind]
      rfl
    | some kind =>
      have hne : kind ≠ slot.kind := by
        rintro rfl
        exact hcode (StreamKind.code_of_ofCode? hkind).symm
      rw [Image.outcome_of_kind hkind]
      rcases hcontent : image.content { kind, location := entry.location } with _ | (_ | content)
      · rfl
      · rfl
      · refine slot.pick_of_ne content ?_
        rw [Image.kind_of_content hcontent]
        exact hne

/-- After all entries, a slot holds what the last entry that can be decoded left there. -/
theorem get_contents (image : Image) (entries : List DirectoryEntry) :
    slot.get (image.contents entries) =
      ((lastDecoded slot.kind.code (slot.decode image) entries).map slot.fill).getD
        (slot.get {}) := by
  unfold Image.contents Contents.ofList
  rw [slot.get_foldl_store, List.filterMap_map, List.filterMap_filterMap]
  have hpick : (fun entry => ((Outcome.content? ∘ image.outcome) entry).bind slot.pick)
      = fun entry : DirectoryEntry =>
        if entry.code = slot.kind.code then (slot.decode image entry.location).toOption
        else none :=
    funext (slot.bind_pick_outcome image)
  rw [hpick]
  rfl

/-! ### The slots of a dump -/

def threads : Slot (List Thread) (List Thread) where
  kind := .threadList
  decode := Image.threads
  put := .threads
  pick | .threads threads => some threads | _ => none
  fill := id
  get := Contents.threads

def threadsEx : Slot (List ThreadEx) (Option (List ThreadEx)) where
  kind := .threadExList
  decode := Image.threadsEx
  put := .threadsEx
  pick | .threadsEx threads => some threads | _ => none
  fill := some
  get := Contents.threadsEx

def threadInfo : Slot (List ThreadInfo) (Option (List ThreadInfo)) where
  kind := .threadInfoList
  decode := Image.threadInfo
  put := .threadInfo
  pick | .threadInfo infos => some infos | _ => none
  fill := some
  get := Contents.threadInfo

def modules : Slot (List Module) (List Module) where
  kind := .moduleList
  decode := Image.modules
  put := .modules
  pick | .modules modules => some modules | _ => none
  fill := id
  get := Contents.modules

def unloadedModules : Slot (List UnloadedModule) (Option (List UnloadedModule)) where
  kind := .unloadedModuleList
  decode := Image.unloadedModules
  put := .unloadedModules
  pick | .unloadedModules modules => some modules | _ => none
  fill := some
  get := Contents.unloadedModules

def memoryList : Slot MemoryList (Option MemoryList) where
  kind := .memoryList
  decode := Image.memoryList
  put := .memoryList
  pick | .memoryList list => some list | _ => none
  fill := some
  get := Contents.memoryList

def memory64List : Slot Memory64List (Option Memory64List) where
  kind := .memory64List
  decode := Image.memory64List
  put := .memory64List
  pick | .memory64List list => some list | _ => none
  fill := some
  get := Contents.memory64List

def memoryInfo : Slot (List MemoryInfo) (Option (List MemoryInfo)) where
  kind := .memoryInfoList
  decode := Image.memoryInfo
  put := .memoryInfo
  pick | .memoryInfo infos => some infos | _ => none
  fill := some
  get := Contents.memoryInfo

def systemInfo : Slot SystemInfo (Option SystemInfo) where
  kind := .systemInfo
  decode := Image.systemInfo
  put := .systemInfo
  pick | .systemInfo info => some info | _ => none
  fill := some
  get := Contents.systemInfo

def exception : Slot ExceptionStream (Option ExceptionStream) where
  kind := .exception
  decode := Image.exceptionStream
  put := .exception
  pick | .exception stream => some stream | _ => none
  fill := some
  get := Contents.exception

def miscInfo : Slot MiscInfo (Option MiscInfo) where
  kind := .miscInfo
  decode := Image.miscInfo
  put := .miscInfo
  pick | .miscInfo info => some info | _ => none
  fill := some
  get := Contents.miscInfo

def handles : Slot (List Handle) (Option (List Handle)) where
  kind := .handleData
  decode := Image.handles
  put := .handles
  pick | .handles handles => some handles | _ => none
  fill := some
  get := Contents.handles

def commentA : Slot String (Option String) where
  kind := .commentA
  decode := Image.narrowComment
  put := .commentA
  pick | .commentA comment => some comment | _ => none
  fill := some
  get := Contents.commentA

def commentW : Slot String (Option String) where
  kind := .commentW
  decode := Image.wideComment
  put := .commentW
  pick | .commentW comment => some comment | _ => none
  fill := some
  get := Contents.commentW

/-- A slot without a default is empty if no entry can be decoded. -/
theorem get_contents_optional (slot : Slot α (Option α)) (hfill : slot.fill = some)
    (hempty : slot.get {} = none) (image : Image) (entries : List DirectoryEntry) :
    slot.get (image.contents entries)
      = lastDecoded slot.kind.code (slot.decode image) entries := by
  rw [slot.get_contents, hfill, hempty]
  cases lastDecoded slot.kind.code (slot.decode image) entries <;> rfl

theorem get_contents_list (slot : Slot (List α) (List α)) (hfill : slot.fill = id)
    (hempty : slot.get {} = []) (image : Image) (entries : List DirectoryEntry) :
    slot.get (image.contents entries)
      = (lastDecoded slot.kind.code (slot.decode image) entries).getD [] := by
  rw [slot.get_contents, hfill, hempty, Option.map_id, id]

end Slot

/-! ## Dumps -/

/-- A thread before its registers were decoded. -/
def Thread.withoutContext (thread : Thread) : Thread :=
  { thread with context := none }

theorem Thread.withoutContext_withContext (thread : Thread)
    (context : Result (Option ThreadContext)) :
    (thread.withContext context).withoutContext = thread.withoutContext := by
  cases context <;> rfl

/-- A thread list is decoded without the registers of its threads. -/
theorem Image.withoutContext_of_threads {image : Image} {location : Location}
    {threads : List Thread} (h : image.threads location = .ok threads) :
    threads.map Thread.withoutContext = threads := by
  obtain ⟨entries, next, -, hthreads⟩ := exists_of_run_bind h
  obtain rfl : entries.map Thread.ofEntry = threads := Except.ok.inj hthreads
  rw [List.map_map]
  rfl

theorem exists_of_lastDecoded {code : UInt32} {decode : Location → Result α}
    {entries : List DirectoryEntry} {a : α} (h : lastDecoded code decode entries = some a) :
    ∃ entry ∈ entries, entry.code = code ∧ decode entry.location = .ok a := by
  obtain ⟨entry, hentry, hsome⟩ := List.mem_filterMap.mp (List.mem_of_getLast? h)
  by_cases hcode : entry.code = code
  · rw [if_pos hcode] at hsome
    refine ⟨entry, hentry, hcode, ?_⟩
    cases hdecode : decode entry.location with
    | error cause =>
      rw [hdecode] at hsome
      cases hsome
    | ok b =>
      rw [hdecode] at hsome
      cases hsome
      rfl
  · rw [if_neg hcode] at hsome
    cases hsome

/-- Decoding registers later on changes nothing else about the threads. -/
theorem Image.withoutContext_dumpOf (image : Image) (header : Header)
    (entries : List DirectoryEntry) :
    (image.dumpOf header entries).threads.map Thread.withoutContext
      = (lastDecoded 3 image.threads entries).getD [] := by
  have hthreads : (image.contents entries).threads
      = (lastDecoded 3 image.threads entries).getD [] :=
    Slot.threads.get_contents_list rfl rfl image entries
  show (((image.contents entries).threads.map fun thread =>
      (thread, image.threadContext _ thread)).map fun pair =>
        pair.1.withContext pair.2).map Thread.withoutContext = _
  rw [List.map_map, List.map_map, hthreads]
  cases hlast : lastDecoded 3 image.threads entries with
  | none => rfl
  | some threads =>
    obtain ⟨entry, -, -, hdecode⟩ := exists_of_lastDecoded hlast
    have hclear := Image.withoutContext_of_threads hdecode
    refine Eq.trans (List.map_congr_left fun thread _ => ?_) hclear
    exact thread.withoutContext_withContext _

namespace Dump

/-- Each field that streams fill holds what the last entry with the code of its kind that can
be decoded holds, decoded on its own; it is empty if there is no such entry. -/
structure HoldsLastDecoded (image : Image) (entries : List DirectoryEntry) (dump : Dump) :
    Prop where
  threads : dump.threads.map Thread.withoutContext
    = (lastDecoded 3 image.threads entries).getD []
  threadsEx : dump.threadsEx = lastDecoded 8 image.threadsEx entries
  threadInfo : dump.threadInfo = lastDecoded 17 image.threadInfo entries
  modules : dump.modules = (lastDecoded 4 image.modules entries).getD []
  unloadedModules :
    dump.unloadedModules = lastDecoded 14 image.unloadedModules entries
  memoryList : dump.memoryList = lastDecoded 5 image.memoryList entries
  memory64List : dump.memory64List = lastDecoded 9 image.memory64List entries
  memoryInfo : dump.memoryInfo = lastDecoded 16 image.memoryInfo entries
  systemInfo : dump.systemInfo = lastDecoded 7 image.systemInfo entries
  exception : dump.exception = lastDecoded 6 image.exceptionStream entries
  miscInfo : dump.miscInfo = lastDecoded 15 image.miscInfo entries
  handles : dump.handles = lastDecoded 12 image.handles entries
  commentA : dump.commentA = lastDecoded 10 image.narrowComment entries
  commentW : dump.commentW = lastDecoded 11 image.wideComment entries

theorem holdsLastDecoded_dumpOf (image : Image) (header : Header)
    (entries : List DirectoryEntry) :
    HoldsLastDecoded image entries (image.dumpOf header entries) where
  threads := image.withoutContext_dumpOf header entries
  threadsEx := Slot.threadsEx.get_contents_optional rfl rfl image entries
  threadInfo := Slot.threadInfo.get_contents_optional rfl rfl image entries
  modules := Slot.modules.get_contents_list rfl rfl image entries
  unloadedModules := Slot.unloadedModules.get_contents_optional rfl rfl image entries
  memoryList := Slot.memoryList.get_contents_optional rfl rfl image entries
  memory64List := Slot.memory64List.get_contents_optional rfl rfl image entries
  memoryInfo := Slot.memoryInfo.get_contents_optional rfl rfl image entries
  systemInfo := Slot.systemInfo.get_contents_optional rfl rfl image entries
  exception := Slot.exception.get_contents_optional rfl rfl image entries
  miscInfo := Slot.miscInfo.get_contents_optional rfl rfl image entries
  handles := Slot.handles.get_contents_optional rfl rfl image entries
  commentA := Slot.commentA.get_contents_optional rfl rfl image entries
  commentW := Slot.commentW.get_contents_optional rfl rfl image entries

/-- **The last stream that can be decoded counts.** From every position in the file on, a
parse that succeeds has found the header and all directory entries where they are in the
file, and each field is what the last entry of its kind that can be decoded holds. -/
theorem holdsLastDecoded_of_dump {image : Image} {position : Nat} {dump : Dump}
    (h : (Scan.dump image).runFrom position = .ok dump) :
    image.read Header.layout 0 = .ok dump.header ∧
      ∃ entries : List DirectoryEntry,
        entries.length = dump.header.streamCount.toNat ∧
        (∀ (index : Nat) (entry : DirectoryEntry), entries[index]? = some entry →
          image.read DirectoryEntry.layout
            (dump.header.directoryOffset.toNat + index * DirectoryEntry.layout.size)
              = .ok entry) ∧
        HoldsLastDecoded image entries dump := by
  have hdump : image.dump = .ok dump := (Scan.gives_dump image position).symm.trans h
  obtain ⟨header, entries, hheader, hentries, rfl⟩ := Image.exists_of_dump hdump
  obtain ⟨hlength, hread⟩ := Image.read_of_entries hentries
  exact ⟨Image.read_of_header hheader, entries, hlength, hread,
    holdsLastDecoded_dumpOf image header entries⟩

/-- A comment that is followed by one that is not in the file and by a stream of a kind
that nobody knows. -/
theorem holdsLastDecoded_of_dump_malformed :
    let bs : List UInt8 :=
      [0x4d, 0x44, 0x4d, 0x50, 0, 0, 0, 0, 3, 0, 0, 0, 32, 0, 0, 0] ++ List.replicate 16 0
        ++ [10, 0, 0, 0, 3, 0, 0, 0, 68, 0, 0, 0] ++ [10, 0, 0, 0, 3, 0, 0, 0, 200, 0, 0, 0]
        ++ [1, 2, 3, 4, 3, 0, 0, 0, 68, 0, 0, 0] ++ [0x61, 0x62, 0];
    let image : Image := ⟨⟨bs.toArray⟩⟩;
    ∃ dump entries, (Scan.dump image).runFrom 70 = .ok dump ∧ dump.commentA = some "ab" ∧
      HoldsLastDecoded image entries dump := by
  intro bs image
  have hcomment : (Dump.toContents <$> (Scan.dump image).runFrom 70).map Contents.commentA
      = .ok (some "ab") := by
    decide +kernel
  cases hdump : (Scan.dump image).runFrom 70 with
  | error cause =>
    rw [hdump] at hcomment
    cases hcomment
  | ok dump =>
    rw [hdump] at hcomment
    obtain ⟨-, entries, -, -, hlast⟩ := holdsLastDecoded_of_dump hdump
    exact ⟨dump, entries, rfl, Except.ok.inj hcomment, hlast⟩

end Dump

end Minidump
