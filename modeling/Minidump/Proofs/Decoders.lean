import Minidump.Dump.Content
import Minidump.Proofs.Scan

/-!
# Decoders that do not care where they start

Each stream is decoded by a scan of its own, and all of them share one position. Every
decoder moves it to its own stream before it reads anything, so what it gives is what it
gives on a file of which nothing has been read.

- `Scan.gives_threads` to `Scan.gives_wideComment` — one statement for each decoder;
- `Image.content`, `Scan.gives_content` — what a directory entry holds, by kind;
- `StreamKind.IsReserved`, `StreamKind.IsDecoded` — the kinds that hold nothing and those
  that have a decoder; streams of all other kinds are refused;
- `StreamKind.isDecoded_iff_code`, `StreamKind.isRefused_iff_code`,
  `StreamKind.ofCode?_eq_none_iff` — which codes they have.
-/

namespace Minidump

namespace Scan

/-! ## One statement for each decoder

A decoder that starts with a read at an offset runs the same way from every position: the
position it is given is replaced before it is looked at, and does not occur in the run.
Only the two comments, which may have no bytes to read, need an argument. -/

variable (image : Image) (location : Location)

theorem gives_threads : Gives (threads image location) (image.threads location) :=
  fun _ => rfl

theorem gives_threadsEx : Gives (threadsEx image location) (image.threadsEx location) :=
  fun _ => rfl

theorem gives_threadInfo : Gives (threadInfo image location) (image.threadInfo location) :=
  fun _ => rfl

theorem gives_modules : Gives (modules image location) (image.modules location) :=
  fun _ => rfl

theorem gives_unloadedModules :
    Gives (unloadedModules image location) (image.unloadedModules location) :=
  fun _ => rfl

theorem gives_memoryList : Gives (memoryList image location) (image.memoryList location) :=
  fun _ => rfl

theorem gives_memory64List : Gives (memory64List image location) (image.memory64List location) :=
  fun _ => rfl

theorem gives_memoryInfo : Gives (memoryInfo image location) (image.memoryInfo location) :=
  fun _ => rfl

theorem gives_systemInfo : Gives (systemInfo image location) (image.systemInfo location) :=
  fun _ => rfl

theorem gives_exceptionStream :
    Gives (exceptionStream image location) (image.exceptionStream location) :=
  fun _ => rfl

theorem gives_miscInfo : Gives (miscInfo image location) (image.miscInfo location) :=
  fun _ => rfl

theorem gives_handles : Gives (handles image location) (image.handles location) :=
  fun _ => rfl

/-- An empty block leaves the position where it is, and nothing is read there. -/
theorem gives_block :
    Gives (block image location)
      (image.readBytes location.offset.toNat location.size.toNat) := by
  unfold block
  by_cases hsize : location.size = 0
  · rw [if_pos hsize, hsize]
    exact gives_pure []
  · rw [if_neg hsize]
    exact gives_bytesAt image location.offset.toNat location.size.toNat

theorem gives_narrowComment :
    Gives (narrowComment image location) (image.narrowComment location) := by
  have h := (gives_block image location).bind fun bs =>
    gives_pure (Utf8.decodeRepaired (bs.takeWhile (· ≠ 0)))
  exact h.of_state 0

theorem gives_wideComment :
    Gives (wideComment image location) (image.wideComment location) := by
  have h := (gives_block image location).bind fun bs =>
    gives_lift (Utf16.textOfUnits ((Utf16.units bs).takeWhile (· ≠ 0)))
  exact h.of_state 0

end Scan

/-! ## What a directory entry holds -/

/-- What the stream of a directory entry holds, on a file of which nothing has been read. -/
def Image.content (image : Image) (directory : Directory) : Result (Option Content) :=
  let location := directory.location
  match directory.kind with
  | .unused | .reserved0 | .reserved1 => .ok none
  | .threadList => some <$> .threads <$> image.threads location
  | .threadExList => some <$> .threadsEx <$> image.threadsEx location
  | .threadInfoList => some <$> .threadInfo <$> image.threadInfo location
  | .moduleList => some <$> .modules <$> image.modules location
  | .unloadedModuleList => some <$> .unloadedModules <$> image.unloadedModules location
  | .memoryList => some <$> .memoryList <$> image.memoryList location
  | .memory64List => some <$> .memory64List <$> image.memory64List location
  | .memoryInfoList => some <$> .memoryInfo <$> image.memoryInfo location
  | .systemInfo => some <$> .systemInfo <$> image.systemInfo location
  | .exception => some <$> .exception <$> image.exceptionStream location
  | .miscInfo => some <$> .miscInfo <$> image.miscInfo location
  | .handleData => some <$> .handles <$> image.handles location
  | .commentA => some <$> .commentA <$> image.narrowComment location
  | .commentW => some <$> .commentW <$> image.wideComment location
  | kind => .error (.unsupportedStream kind)

/-- The decoder of a stream gives what its entry holds, whatever was decoded before. -/
theorem Scan.gives_content (image : Image) (directory : Directory) :
    Gives (Scan.content image directory) (image.content directory) := by
  obtain ⟨kind, location⟩ := directory
  cases kind
  case unused | reserved0 | reserved1 => exact gives_pure none
  case threadList => exact ((gives_threads image location).map _).map _
  case threadExList => exact ((gives_threadsEx image location).map _).map _
  case threadInfoList => exact ((gives_threadInfo image location).map _).map _
  case moduleList => exact ((gives_modules image location).map _).map _
  case unloadedModuleList => exact ((gives_unloadedModules image location).map _).map _
  case memoryList => exact ((gives_memoryList image location).map _).map _
  case memory64List => exact ((gives_memory64List image location).map _).map _
  case memoryInfoList => exact ((gives_memoryInfo image location).map _).map _
  case systemInfo => exact ((gives_systemInfo image location).map _).map _
  case exception => exact ((gives_exceptionStream image location).map _).map _
  case miscInfo => exact ((gives_miscInfo image location).map _).map _
  case handleData => exact ((gives_handles image location).map _).map _
  case commentA => exact ((gives_narrowComment image location).map _).map _
  case commentW => exact ((gives_wideComment image location).map _).map _
  -- the kinds without a decoder
  all_goals exact gives_throw _

namespace StreamKind

/-- The kinds whose streams hold nothing. -/
def IsReserved (kind : StreamKind) : Prop :=
  kind ∈ [unused, reserved0, reserved1]

instance (kind : StreamKind) : Decidable kind.IsReserved :=
  inferInstanceAs (Decidable (_ ∈ _))

/-- The kinds whose streams are decoded. -/
def IsDecoded (kind : StreamKind) : Prop :=
  kind ∈ [threadList, threadExList, threadInfoList, moduleList, unloadedModuleList, memoryList,
    memory64List, memoryInfoList, systemInfo, exception, miscInfo, handleData, commentA, commentW]

instance (kind : StreamKind) : Decidable kind.IsDecoded :=
  inferInstanceAs (Decidable (_ ∈ _))

/-! ### The codes of the kinds -/

theorem isDecoded_iff_code {kind : StreamKind} :
    kind.IsDecoded ↔ 3 ≤ kind.code ∧ kind.code ≤ 17 ∧ kind.code ≠ 13 := by
  cases kind <;> decide

theorem isRefused_iff_code {kind : StreamKind} :
    ¬ kind.IsReserved ∧ ¬ kind.IsDecoded ↔ kind.code = 13 ∨ 18 ≤ kind.code := by
  cases kind <;> decide

theorem IsDecoded.not_isReserved {kind : StreamKind} (h : kind.IsDecoded) :
    ¬ kind.IsReserved := by
  revert h
  cases kind <;> decide

/-- The codes with a kind are two runs of codes and a single one. -/
theorem ofCode?_eq_none_iff {c : UInt32} :
    ofCode? c = none ↔ ¬ (c ≤ 24 ∨ (0x8000 ≤ c ∧ c ≤ 0x800c) ∨ c = 0xffff) := by
  have hlow : ∀ n < 25, ofCode? (UInt32.ofNat n) ≠ none := by decide
  have hmid : ∀ n < 13, ofCode? (UInt32.ofNat (0x8000 + n)) ≠ none := by decide
  constructor
  · rintro hnone (hle | ⟨hle, hge⟩ | rfl)
    · have hlt : c.toNat < 25 := Nat.lt_succ_of_le (UInt32.le_iff_toNat_le.mp hle)
      refine hlow c.toNat hlt ?_
      rwa [UInt32.ofNat_toNat]
    · have hstart : 0x8000 ≤ c.toNat := UInt32.le_iff_toNat_le.mp hle
      have hlt : c.toNat < 0x8000 + 13 := Nat.lt_succ_of_le (UInt32.le_iff_toNat_le.mp hge)
      refine hmid (c.toNat - 0x8000) (by omega) ?_
      rwa [Nat.add_sub_cancel' hstart, UInt32.ofNat_toNat]
    · cases hnone
  · intro hunknown
    cases hkind : ofCode? c with
    | none => rfl
    | some kind =>
      obtain rfl := code_of_ofCode? hkind
      exact absurd (by cases kind <;> decide) hunknown

end StreamKind

theorem Image.content_of_isReserved (image : Image) {kind : StreamKind}
    (h : kind.IsReserved) (location : Location) :
    image.content { kind, location } = .ok none := by
  cases kind
  case unused | reserved0 | reserved1 => rfl
  all_goals exact absurd h (by decide)

theorem Image.content_of_not_isDecoded (image : Image) {kind : StreamKind}
    (hreserved : ¬ kind.IsReserved) (hdecoded : ¬ kind.IsDecoded) (location : Location) :
    image.content { kind, location } = .error (.unsupportedStream kind) := by
  cases kind
  all_goals first
    | rfl
    | exact absurd (by decide) hreserved
    | exact absurd (by decide) hdecoded

end Minidump
