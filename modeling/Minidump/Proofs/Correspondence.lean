import Minidump.Proofs.Positional
import Minidump.Proofs.Parse

/-!
# One computation on two files

Decoders, register contexts and the walk through memory look at a file only by reading
records and bytes at offsets. So whatever relates the single reads of one file to those of
another one, and is kept when results are put together, relates everything that is
computed from the first file to what is computed in the same way from the second. It is
enough to say this once: later facts about all the decoders are facts about one read.

- `Error.ConcernsKind` — the causes that have to do with the kind of a stream and not with
  what it holds, which no read and no decoder raises;
- `Correspondence` — such a relation;
- `Correspondence.content` — it relates what a stream holds in the two files, for every
  kind that is decoded;
- `Correspondence.threadContext`, `Correspondence.processAt` — and so for registers and for
  what the process knows about itself;
- `Correspondence.header`, `Correspondence.entries` — and for the parts that have to be
  there.
-/

namespace Minidump

/-- The causes that have to do with the kind of a stream and not with what it holds. -/
def Error.ConcernsKind : Error → Prop
  | .unknownStream _ => True
  | .unsupportedStream _ => True
  | _ => False

/-- A relation between results from two files that holds between single reads and is kept
when results are put together. -/
structure Correspondence (image other : Image) where
  Related : {α : Type} → Result α → Result α → Prop
  ok : ∀ {α : Type} (a : α), Related (.ok a) (.ok a)
  error : ∀ {α : Type} {cause : Error}, ¬ cause.ConcernsKind →
    Related (.error cause : Result α) (.error cause)
  bind : ∀ {α β : Type} {r s : Result α} {f g : α → Result β}, Related r s →
    (∀ a, Related (f a) (g a)) → Related (r >>= f) (s >>= g)
  read : ∀ {α : Type} (layout : Layout α) (offset : Nat),
    Related (image.read layout offset) (other.read layout offset)
  readBytes : ∀ offset length : Nat,
    Related (image.readBytes offset length) (other.readBytes offset length)

namespace Correspondence

variable {image other : Image} (c : Correspondence image other) {α β : Type}

/-! ## What is put together -/

theorem map {r s : Result α} (h : c.Related r s) (f : α → β) : c.Related (f <$> r) (f <$> s) := by
  rw [map_eq_pure_bind, map_eq_pure_bind]
  exact c.bind h fun a => c.ok (f a)

theorem mapM {f g : α → Result β} (h : ∀ a, c.Related (f a) (g a)) (as : List α) :
    c.Related (as.mapM f) (as.mapM g) := by
  induction as with
  | nil =>
    rw [List.mapM_nil, List.mapM_nil]
    exact c.ok []
  | cons a as ih =>
    rw [List.mapM_cons, List.mapM_cons]
    exact c.bind (h a) fun b => c.bind ih fun bs => c.ok (b :: bs)

/-- A refusal that does not look at the files. -/
theorem refused {condition : Prop} [Decidable condition] {cause : Error}
    (hcause : ¬ cause.ConcernsKind) {r s : Result α} (h : c.Related r s) :
    c.Related (if condition then .error cause else r) (if condition then .error cause else s) := by
  by_cases hcondition : condition
  · rw [if_pos hcondition, if_pos hcondition]
    exact c.error hcause
  · rw [if_neg hcondition, if_neg hcondition]
    exact h

/-! ## Computations that do not look at a file -/

theorem checkFits (location : Location) (header count entry : Nat) :
    c.Related (location.checkFits header count entry) (location.checkFits header count entry) :=
  c.refused id (c.refused id (c.ok ()))

theorem moduleRange (quantity : Quantity) (base : UInt64) (size : UInt32) :
    c.Related (moduleRange quantity base size) (moduleRange quantity base size) := by
  unfold Minidump.moduleRange
  cases AddressRange.ofSize? base.toNat size.toNat with
  | some range => exact c.ok range
  | none => exact c.error id

theorem fieldAt (base offset : Nat) :
    c.Related (ProcessMemory.fieldAt base offset) (ProcessMemory.fieldAt base offset) := by
  unfold ProcessMemory.fieldAt
  by_cases hlt : base + offset < 2 ^ 64
  · rw [if_pos hlt]
    exact c.ok (base + offset)
  · rw [if_neg hlt]
    exact c.error id

theorem textOfUnits (units : List UInt16) :
    c.Related (Utf16.textOfUnits units) (Utf16.textOfUnits units) := by
  unfold Utf16.textOfUnits
  cases Utf16.decodeUnits? units with
  | some text => exact c.ok _
  | none => exact c.error id

theorem decodeText (bs : List UInt8) : c.Related (Utf16.decode bs) (Utf16.decode bs) :=
  c.refused id (c.textOfUnits _)

theorem decodeEnvironment (block : List UInt8) :
    c.Related (EnvironmentBlock.decode block) (EnvironmentBlock.decode block) := by
  refine c.mapM (fun entry => ?_) _
  unfold EnvironmentBlock.variableOfUnits
  cases Utf16.decodeUnits? entry with
  | some text => exact c.ok _
  | none => exact c.error id

/-! ## Lists and texts -/

theorem records (layout : Layout α) (count offset : Nat) :
    c.Related (image.records layout count offset) (other.records layout count offset) :=
  c.mapM (fun _ => c.read layout _) _

theorem countedList (entry : Layout α) (location : Location) :
    c.Related (image.countedList entry location) (other.countedList entry location) :=
  c.bind (c.read _ _) fun _ => c.bind (c.checkFits _ _ _ _) fun _ => c.records _ _ _

theorem stridedList {entryAt otherEntryAt : Nat → Result α}
    (hentry : ∀ offset, c.Related (entryAt offset) (otherEntryAt offset)) (location : Location)
    (headerSize count entrySize : Nat) :
    c.Related (Image.stridedList entryAt location headerSize count entrySize)
      (Image.stridedList otherEntryAt location headerSize count entrySize) :=
  c.bind (c.checkFits _ _ _ _) fun _ => c.mapM (fun _ => hentry _) _

theorem block (location : Location) :
    c.Related (image.block location) (other.block location) :=
  c.readBytes _ _

theorem textAt (offset : Nat) : c.Related (image.textAt offset) (other.textAt offset) :=
  c.bind (c.read _ _) fun _ => c.bind (c.readBytes _ _) fun bs => c.decodeText bs

theorem optionalTextAt (offset : UInt32) :
    c.Related (image.optionalTextAt offset) (other.optionalTextAt offset) := by
  unfold Image.optionalTextAt
  by_cases hoffset : offset = 0
  · rw [if_pos hoffset, if_pos hoffset]
    exact c.ok none
  · rw [if_neg hoffset, if_neg hoffset]
    exact c.map (c.textAt _) some

theorem moduleOfEntry (entry : ModuleEntry) :
    c.Related (image.moduleOfEntry entry) (other.moduleOfEntry entry) := by
  refine c.bind (c.moduleRange _ _ _) fun range => ?_
  refine c.bind (c.block _) fun cvRecord => ?_
  refine c.bind (c.block _) fun miscRecord => ?_
  exact c.bind (c.textAt _) fun path => c.ok _

theorem unloadedModuleAt (offset : Nat) :
    c.Related (image.unloadedModuleAt offset) (other.unloadedModuleAt offset) := by
  refine c.bind (c.read _ _) fun entry => ?_
  refine c.bind (c.moduleRange _ _ _) fun range => ?_
  exact c.bind (c.textAt _) fun name => c.ok _

theorem handleAt (offset : Nat) : c.Related (image.handleAt offset) (other.handleAt offset) := by
  refine c.bind (c.read _ _) fun entry => ?_
  refine c.bind (c.optionalTextAt _) fun typeName => ?_
  exact c.bind (c.optionalTextAt _) fun objectName => c.ok _

theorem processorPower (location : Location) (record : MiscRecord) :
    c.Related (image.processorPower location record) (other.processorPower location record) := by
  unfold Image.processorPower
  by_cases hlong : ExtendedMiscRecord.layout.size ≤ record.size.toNat
      ∧ ExtendedMiscRecord.layout.size ≤ location.size.toNat
      ∧ record.has MiscInfo.processorPowerFlag
  · rw [if_pos hlong, if_pos hlong]
    exact c.bind (c.read _ _) fun extended => c.ok _
  · rw [if_neg hlong, if_neg hlong]
    exact c.ok none

/-! ## One statement for each decoder -/

variable (location : Location)

theorem threads : c.Related (image.threads location) (other.threads location) := by
  rw [Image.threads_eq, Image.threads_eq]
  exact c.map (c.countedList _ _) _

theorem threadsEx : c.Related (image.threadsEx location) (other.threadsEx location) := by
  rw [Image.threadsEx_eq, Image.threadsEx_eq]
  exact c.map (c.countedList _ _) _

theorem threadInfo : c.Related (image.threadInfo location) (other.threadInfo location) := by
  rw [Image.threadInfo_eq, Image.threadInfo_eq]
  refine c.bind (c.read _ _) fun table => ?_
  exact c.refused id (c.refused id (c.stridedList (c.read _) _ _ _ _))

theorem modules : c.Related (image.modules location) (other.modules location) := by
  rw [Image.modules_eq, Image.modules_eq]
  exact c.bind (c.countedList _ _) fun entries => c.mapM c.moduleOfEntry entries

theorem unloadedModules :
    c.Related (image.unloadedModules location) (other.unloadedModules location) := by
  rw [Image.unloadedModules_eq, Image.unloadedModules_eq]
  refine c.bind (c.read _ _) fun table => ?_
  exact c.refused id (c.stridedList c.unloadedModuleAt _ _ _ _)

theorem memoryList : c.Related (image.memoryList location) (other.memoryList location) := by
  rw [Image.memoryList_eq, Image.memoryList_eq]
  exact c.map (c.countedList _ _) _

theorem memory64List : c.Related (image.memory64List location) (other.memory64List location) := by
  rw [Image.memory64List_eq, Image.memory64List_eq]
  refine c.bind (c.read _ _) fun header => ?_
  refine c.bind (c.checkFits _ _ _ _) fun _ => ?_
  exact c.bind (c.records _ _ _) fun ranges => c.ok _

theorem memoryInfo : c.Related (image.memoryInfo location) (other.memoryInfo location) := by
  rw [Image.memoryInfo_eq, Image.memoryInfo_eq]
  refine c.bind (c.read _ _) fun table => ?_
  exact c.refused id (c.stridedList (c.read _) _ _ _ _)

theorem systemInfo : c.Related (image.systemInfo location) (other.systemInfo location) := by
  rw [Image.systemInfo_eq, Image.systemInfo_eq]
  refine c.bind (c.read _ _) fun record => ?_
  exact c.bind (c.optionalTextAt _) fun servicePack => c.ok _

theorem exceptionStream :
    c.Related (image.exceptionStream location) (other.exceptionStream location) := by
  rw [Image.exceptionStream_eq, Image.exceptionStream_eq]
  exact c.read _ _

theorem miscInfo : c.Related (image.miscInfo location) (other.miscInfo location) := by
  rw [Image.miscInfo_eq, Image.miscInfo_eq]
  refine c.bind (c.read _ _) fun record => ?_
  exact c.bind (c.processorPower _ _) fun processorPower => c.ok _

theorem handles : c.Related (image.handles location) (other.handles location) := by
  rw [Image.handles_eq, Image.handles_eq]
  refine c.bind (c.read _ _) fun table => ?_
  exact c.refused id (c.stridedList c.handleAt _ _ _ _)

theorem narrowComment :
    c.Related (image.narrowComment location) (other.narrowComment location) := by
  rw [Image.narrowComment_eq, Image.narrowComment_eq]
  exact c.bind (c.block _) fun bs => c.ok _

theorem wideComment : c.Related (image.wideComment location) (other.wideComment location) := by
  rw [Image.wideComment_eq, Image.wideComment_eq]
  exact c.bind (c.block _) fun bs => c.textOfUnits _

/-- What a stream holds, if there is a decoder for its kind. -/
theorem content {kind : StreamKind} (hkind : kind.IsDecoded) :
    c.Related (image.content { kind, location }) (other.content { kind, location }) := by
  cases kind
  case threadList => exact c.map (c.map (c.threads location) _) _
  case threadExList => exact c.map (c.map (c.threadsEx location) _) _
  case threadInfoList => exact c.map (c.map (c.threadInfo location) _) _
  case moduleList => exact c.map (c.map (c.modules location) _) _
  case unloadedModuleList => exact c.map (c.map (c.unloadedModules location) _) _
  case memoryList => exact c.map (c.map (c.memoryList location) _) _
  case memory64List => exact c.map (c.map (c.memory64List location) _) _
  case memoryInfoList => exact c.map (c.map (c.memoryInfo location) _) _
  case systemInfo => exact c.map (c.map (c.systemInfo location) _) _
  case exception => exact c.map (c.map (c.exceptionStream location) _) _
  case miscInfo => exact c.map (c.map (c.miscInfo location) _) _
  case handleData => exact c.map (c.map (c.handles location) _) _
  case commentA => exact c.map (c.map (c.narrowComment location) _) _
  case commentW => exact c.map (c.map (c.wideComment location) _) _
  -- the kinds without a decoder
  all_goals exact absurd hkind (by decide)

/-! ## Registers -/

theorem contextRecord (layout : Layout α) (location : Location) :
    c.Related (image.contextRecord layout location) (other.contextRecord layout location) :=
  c.refused id (c.read _ _)

theorem context (architecture : Architecture) (location : Location) :
    c.Related (image.context architecture location) (other.context architecture location) := by
  cases architecture with
  | x86 => exact c.map (c.contextRecord _ _) _
  | x64 => exact c.map (c.contextRecord _ _) _

theorem threadContext (architecture : Option Architecture) (thread : Thread) :
    c.Related (image.threadContext architecture thread)
      (other.threadContext architecture thread) := by
  cases architecture with
  | none => exact c.ok none
  | some architecture => exact c.map (c.context _ _) _

/-! ## Memory -/

section Memory

variable (space : AddressSpace)

theorem bytesAt (address length : Nat) :
    c.Related (ProcessMemory.bytesAt { space, image } address length)
      (ProcessMemory.bytesAt { space, image := other } address length) := by
  unfold ProcessMemory.bytesAt
  cases space.locate? address with
  | none => exact c.error id
  | some place =>
    refine c.bind (c.readBytes _ _) fun bs => ?_
    by_cases hfits : length ≤ place.available
    · rw [if_pos hfits]
      exact c.ok bs
    · rw [if_neg hfits]
      exact c.error id

theorem numberAt (width address : Nat) :
    c.Related (ProcessMemory.numberAt { space, image } width address)
      (ProcessMemory.numberAt { space, image := other } width address) :=
  c.bind (c.bytesAt space _ _) fun _ => c.ok _

theorem pointerField (base offset : Nat) :
    c.Related (ProcessMemory.pointerField { space, image } base offset)
      (ProcessMemory.pointerField { space, image := other } base offset) :=
  c.bind (c.fieldAt _ _) fun _ => c.numberAt space _ _

theorem stringAt (offsets : FieldOffsets) (address : Nat) :
    c.Related (ProcessMemory.stringAt { space, image } offsets address)
      (ProcessMemory.stringAt { space, image := other } offsets address) := by
  refine c.bind (c.numberAt space _ _) fun length => ?_
  by_cases hlength : length = 0
  · rw [if_pos hlength, if_pos hlength]
    exact c.ok ""
  · rw [if_neg hlength, if_neg hlength]
    refine c.bind (c.pointerField space _ _) fun buffer => ?_
    exact c.bind (c.bytesAt space _ _) fun bs => c.decodeText bs

theorem stringField (offsets : FieldOffsets) (base offset : Nat) :
    c.Related (ProcessMemory.stringField { space, image } offsets base offset)
      (ProcessMemory.stringField { space, image := other } offsets base offset) :=
  c.bind (c.fieldAt _ _) fun _ => c.stringAt space _ _

theorem environmentAt (address : Nat) :
    c.Related (ProcessMemory.environmentAt { space, image } address)
      (ProcessMemory.environmentAt { space, image := other } address) := by
  unfold ProcessMemory.environmentAt
  cases space.locate? address with
  | none => exact c.error id
  | some place => exact c.bind (c.readBytes _ _) fun block => c.decodeEnvironment block

/-- Everything that the process knows about itself, step by step. -/
theorem processAt (teb : Nat) :
    c.Related (ProcessMemory.processAt { space, image } teb)
      (ProcessMemory.processAt { space, image := other } teb) := by
  have hpointer := c.pointerField space
  have hstring := c.stringField space (ProcessMemory.offsets { space, image })
  refine c.bind (hpointer _ _) fun peb => ?_
  refine c.bind (c.fieldAt _ _) fun flag => ?_
  refine c.bind (c.numberAt space _ _) fun debugged => ?_
  refine c.bind (hpointer _ _) fun base => ?_
  refine c.bind (hpointer _ _) fun parameters => ?_
  refine c.bind (hstring _ _) fun imagePath => ?_
  refine c.bind (hstring _ _) fun commandLine => ?_
  refine c.bind (hstring _ _) fun windowTitle => ?_
  refine c.bind (hstring _ _) fun dllPath => ?_
  refine c.bind (hstring _ _) fun currentDirectory => ?_
  refine c.bind (hpointer _ _) fun standardInput => ?_
  refine c.bind (hpointer _ _) fun standardOutput => ?_
  refine c.bind (hpointer _ _) fun standardError => ?_
  refine c.bind (hpointer _ _) fun environment => ?_
  exact c.bind (c.environmentAt space _) fun block => c.ok _

end Memory

/-! ## Header and directory -/

theorem header : c.Related image.header other.header := by
  refine c.bind (c.read _ _) fun header => ?_
  by_cases hsignature : header.signature = Header.expectedSignature
  · rw [if_pos hsignature]
    exact c.ok header
  · rw [if_neg hsignature]
    exact c.error id

theorem entries (header : Header) : c.Related (image.entries header) (other.entries header) :=
  c.mapM (fun _ => c.read _ _) _

end Correspondence

end Minidump
