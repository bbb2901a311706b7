import Minidump.Proofs.ListScans

/-!
# Offsets of list entries stay small

Counts and sizes of a list come from the file, and offsets are computed from them without
another look. What makes this safe is a check elsewhere: before any offset is computed, the list
has been measured against the declared size of its stream, a 32-bit number, and the measure was
exact. So no offset of an entry, and no part of its computation, comes near to 64 bits, and a
count that is too large is refused, be it 2⁶⁴ − 1.

- `ListKind.checkFits_of_lt`, `ListKind.checkFits_eq_overflow_iff` — the measure refuses with the
  exact number of bytes;
- `ListKind.needed_lt` — numbers of 32 bits cannot make it overflow;
- `ListKind.decodeAt_ne_overflow` — behind the measure nothing fails as if it were measured;
- `ListKind.MeasuresFirst`, `ListKind.offsets_never_wrap` — what follows for the offsets of
  every list.
-/

namespace Minidump

namespace ListKind

variable {image : Image} {location : Location}

/-! ## The measure -/

/-- A list that takes more bytes than its stream has is refused, and how many it takes decides
about the cause. -/
theorem checkFits_of_lt {headerSize count entrySize : Nat}
    (h : location.size.toNat < headerSize + count * entrySize) :
    location.checkFits headerSize count entrySize =
      .error (if 2 ^ 64 ≤ headerSize + count * entrySize then .overflow .streamSize
        else .streamTooShort location (headerSize + count * entrySize)) := by
  have hlimit : addressLimit = 2 ^ 64 := rfl
  unfold Location.checkFits
  rw [hlimit]
  by_cases hwide : 2 ^ 64 ≤ headerSize + count * entrySize
  · rw [if_pos hwide, if_pos hwide]
  · rw [if_neg hwide, if_neg hwide, if_pos h]

theorem checkFits_eq_overflow_iff {headerSize count entrySize : Nat} :
    location.checkFits headerSize count entrySize = .error (.overflow .streamSize) ↔
      2 ^ 64 ≤ headerSize + count * entrySize := by
  have hsize : location.size.toNat < 2 ^ 32 := location.size.toNat_lt
  constructor
  · intro h
    refine Nat.le_of_not_lt fun hlt => ?_
    by_cases hfits : location.size.toNat < headerSize + count * entrySize
    · rw [checkFits_of_lt hfits, if_neg (Nat.not_le.mpr hlt)] at h
      cases h
    · rw [ListFormat.checkFits_eq_ok_iff.mpr (Nat.le_of_not_lt hfits)] at h
      cases h
  · intro hwide
    rw [checkFits_of_lt (by omega), if_pos hwide]

/-- Numbers of 32 bits are too small for a list that takes 2⁶⁴ bytes or more. -/
theorem needed_lt (kind : ListKind) (header : kind.format.header.Value)
    (hmemory64 : kind ≠ .memory64) (hmemoryInfo : kind ≠ .table .memoryInfo) :
    kind.needed header < 2 ^ 64 := by
  -- the largest product that two of them have, and one of them
  have htable (a b c : UInt32) : a.toNat + b.toNat * c.toNat < 2 ^ 64 := by
    have ha := a.toNat_lt
    have hproduct : b.toNat * c.toNat ≤ (2 ^ 32 - 1) * (2 ^ 32 - 1) :=
      Nat.mul_le_mul (Nat.le_pred_of_lt b.toNat_lt) (Nat.le_pred_of_lt c.toNat_lt)
    omega
  have hcounted (header : CountHeader) (size : Nat) (hsize : size ≤ 1000) :
      4 + header.count.toNat * size < 2 ^ 64 := by
    have hproduct : header.count.toNat * size ≤ (2 ^ 32 - 1) * 1000 :=
      Nat.mul_le_mul (Nat.le_pred_of_lt header.count.toNat_lt) hsize
    omega
  cases kind with
  | threads => exact hcounted header 48 (by decide)
  | threadsEx => exact hcounted header 64 (by decide)
  | modules => exact hcounted header 108 (by decide)
  | memory => exact hcounted header 16 (by decide)
  | memory64 => exact absurd rfl hmemory64
  | table kind =>
    cases kind with
    | threadInfo => exact htable (TableHeader.headerSize header) _ _
    | memoryInfo => exact absurd rfl hmemoryInfo
    | unloadedModules => exact htable (TableHeader.headerSize header) _ _
    | handles => exact htable (HandleTableHeader.headerSize header) _ _

/-! ## No other cause looks like the measure -/

theorem textAt_ne_overflow (offset : Nat) (quantity : Quantity) :
    image.textAt offset ≠ .error (.overflow quantity) := by
  refine bind_ne_error (Image.read_ne_overflow _ _ _) fun length => ?_
  refine bind_ne_error (Image.readBytes_ne_overflow _ _ _) fun bs => ?_
  exact Utf16.decode_ne_overflow bs quantity

theorem optionalTextAt_ne_overflow (offset : UInt32) (quantity : Quantity) :
    image.optionalTextAt offset ≠ .error (.overflow quantity) := by
  unfold Image.optionalTextAt
  by_cases hzero : offset = 0
  · rw [if_pos hzero]
    exact nofun
  · rw [if_neg hzero, map_eq_pure_bind]
    exact bind_ne_error (textAt_ne_overflow _ _) fun _ => nofun

theorem moduleRange_ne_overflow {quantity other : Quantity} (h : quantity ≠ other)
    (base : UInt64) (size : UInt32) :
    moduleRange quantity base size ≠ .error (.overflow other) := by
  unfold moduleRange
  cases AddressRange.ofSize? base.toNat size.toNat with
  | some range => exact nofun
  | none =>
    intro hcause
    exact h (Error.overflow.inj (Except.error.inj hcause))

/-- What an entry refers to can be missing, malformed or without an end, but it is not measured
against the stream. -/
theorem element_ne_overflow (kind : ListKind) (entry : kind.format.entry.Value) :
    kind.element image entry ≠ .error (.overflow .streamSize) := by
  cases kind with
  | threads | threadsEx | memory | memory64 => exact nofun
  | modules =>
    refine bind_ne_error (moduleRange_ne_overflow (by decide) _ _) fun range => ?_
    refine bind_ne_error (Image.readBytes_ne_overflow _ _ _) fun cvRecord => ?_
    refine bind_ne_error (Image.readBytes_ne_overflow _ _ _) fun miscRecord => ?_
    exact bind_ne_error (textAt_ne_overflow _ _) fun path => nofun
  | table kind =>
    cases kind with
    | threadInfo | memoryInfo => exact nofun
    | unloadedModules =>
      refine bind_ne_error (moduleRange_ne_overflow (by decide) _ _) fun range => ?_
      exact bind_ne_error (textAt_ne_overflow _ _) fun name => nofun
    | handles =>
      refine bind_ne_error (optionalTextAt_ne_overflow _ _) fun typeName => ?_
      exact bind_ne_error (optionalTextAt_ne_overflow _ _) fun objectName => nofun

theorem decodeAt_ne_overflow (kind : ListKind) (offsets : List Nat) :
    kind.decodeAt image offsets ≠ .error (.overflow .streamSize) := by
  cases kind with
  | threads | threadsEx | modules | memory | memory64 =>
    refine bind_ne_error (mapM_ne_error (fun _ => Image.read_ne_overflow _ _ _) _) fun entries => ?_
    exact mapM_ne_error (fun entry => element_ne_overflow _ entry) entries
  | table kind =>
    refine mapM_ne_error (fun offset => ?_) offsets
    refine bind_ne_error (Image.read_ne_overflow _ _ _) fun entry => ?_
    exact element_ne_overflow (table kind) entry

theorem check_ne_overflow (kind : ListKind) (header : kind.format.header.Value)
    (quantity : Quantity) : kind.check header ≠ .error (.overflow quantity) := by
  cases kind with
  | threads | threadsEx | modules | memory | memory64 => exact nofun
  | table kind =>
    refine refused_ne_error nofun ?_
    cases kind with
    | threadInfo => exact refused_ne_error nofun nofun
    | memoryInfo | unloadedModules | handles => exact nofun

/-! ## Every list -/

/-- What a decoder does behind a header that is there and declares enough. A list that fits into
its stream has its entries decoded at their offsets, none of which comes near to 64 bits, so
that adding and multiplying 64-bit numbers computes it; a list that does not fit is refused
before anything behind the header is read. -/
structure MeasuresFirst (kind : ListKind) (image : Image) (location : Location)
    (header : kind.format.header.Value) (position : Nat) : Prop where
  decodes : kind.needed header ≤ location.size.toNat →
    (kind.scan image location).runFrom position
      = kind.decodeAt image (kind.offsets location header)
  start_lt : kind.needed header ≤ location.size.toNat →
    location.offset.toNat + kind.format.headerSize header < 2 ^ 33
  end_lt : kind.needed header ≤ location.size.toNat → ∀ index < kind.format.count header,
    kind.format.entryOffset location header index + kind.format.entry.size
        ≤ location.offset.toNat + location.size.toNat ∧
      kind.format.entryOffset location header index + kind.format.entry.size < 2 ^ 33
  offset_eq : kind.needed header ≤ location.size.toNat → ∀ index < kind.format.count header,
    (location.offset.toUInt64 + UInt64.ofNat (kind.format.headerSize header)
        + UInt64.ofNat index * UInt64.ofNat (kind.format.entrySize header)).toNat
      = kind.format.entryOffset location header index
  refuses : location.size.toNat < kind.needed header →
    (kind.scan image location).run.run position =
      (.error (if 2 ^ 64 ≤ kind.needed header then .overflow .streamSize
          else .streamTooShort location (kind.needed header)),
        location.offset.toNat + kind.format.header.size)
  overflow_iff :
    (kind.scan image location).runFrom position = .error (.overflow .streamSize) ↔
      2 ^ 64 ≤ kind.needed header

/-- A list that fits ends below 2³³, as its offset and its size are 32-bit numbers. -/
theorem entryOffset_lt (kind : ListKind) {header : kind.format.header.Value}
    (hadmits : kind.Admits header) (hfits : kind.needed header ≤ location.size.toNat) {index : Nat}
    (hindex : index < kind.format.count header) :
    kind.format.entryOffset location header index + kind.format.entry.size < 2 ^ 33 := by
  have hend : kind.format.entryOffset location header index + kind.format.entry.size
      ≤ location.offset.toNat + location.size.toNat :=
    ListFormat.entryOffset_add_le hadmits.1 hfits hindex
  have := location.offset.toNat_lt
  have := location.size.toNat_lt
  omega

/-- 64-bit numbers add and multiply like exact ones where the result is one of 64 bits. -/
theorem toNat_offset {offset : UInt32} {headerSize index entrySize : Nat}
    (h : offset.toNat + headerSize + index * entrySize < 2 ^ 64) :
    (offset.toUInt64 + UInt64.ofNat headerSize
        + UInt64.ofNat index * UInt64.ofNat entrySize).toNat
      = offset.toNat + headerSize + index * entrySize := by
  have hoffset : offset.toUInt64 = UInt64.ofNat offset.toNat := by
    have hlt : offset.toNat < UInt64.size := Nat.lt_of_lt_of_le offset.toNat_lt (by decide)
    rw [← UInt64.toNat_inj, UInt32.toNat_toUInt64, UInt64.toNat_ofNat_of_lt' hlt]
  rw [hoffset, ← UInt64.ofNat_add, ← UInt64.ofNat_mul, ← UInt64.ofNat_add]
  exact UInt64.toNat_ofNat_of_lt' h

theorem measuresFirst (kind : ListKind) {header : kind.format.header.Value}
    (hheader : image.HoldsRecord kind.format.header location.offset.toNat header)
    (hadmits : kind.Admits header) (position : Nat) :
    kind.MeasuresFirst image location header position := by
  have hcheck := (kind.check_eq_ok_iff header).mpr hadmits
  have hresult : (kind.scan image location).runFrom position =
      (location.checkFits (kind.format.headerSize header) (kind.format.count header)
          (kind.format.entrySize header) >>= fun _ =>
        kind.decodeAt image (kind.offsets location header)) := by
    rw [runFrom_scan, Image.read_eq_ok_iff_holdsRecord.mpr hheader]
    show (kind.check header >>= _) = _
    rw [hcheck]
    rfl
  have hend : kind.needed header ≤ location.size.toNat → ∀ index < kind.format.count header,
      kind.format.entryOffset location header index + kind.format.entry.size < 2 ^ 33 :=
    fun hfits index hindex => kind.entryOffset_lt hadmits hfits hindex
  constructor
  · intro hfits
    rw [hresult, ListFormat.checkFits_eq_ok_iff.mpr hfits]
    rfl
  · intro hfits
    have hheaderSize : kind.format.headerSize header ≤ kind.needed header := Nat.le_add_right _ _
    have := location.offset.toNat_lt
    have := location.size.toNat_lt
    omega
  · intro hfits index hindex
    exact ⟨ListFormat.entryOffset_add_le hadmits.1 hfits hindex, hend hfits index hindex⟩
  · intro hfits index hindex
    refine toNat_offset ?_
    have hlt := hend hfits index hindex
    unfold ListFormat.entryOffset at hlt
    omega
  · intro hshort
    rw [kind.run_scan_of_header hheader hadmits, checkFits_of_lt hshort]
    rfl
  · -- the entries and what they refer to fail with other causes
    rw [hresult, bind_eq_error_iff, checkFits_eq_overflow_iff]
    exact or_iff_left fun ⟨_, _, hentries⟩ => kind.decodeAt_ne_overflow _ hentries

/-- A list that was decoded has been read from a header that declares enough, and fits. -/
theorem exists_header_of_scan (kind : ListKind) {position : Nat} {as : List kind.Element}
    (h : (kind.scan image location).runFrom position = .ok as) :
    ∃ header, image.HoldsRecord kind.format.header location.offset.toNat header ∧
      kind.Admits header ∧ as.length = kind.format.count header ∧
      kind.format.headerSize header + as.length * kind.format.entrySize header
        ≤ location.size.toNat ∧
      kind.format.entry.size ≤ kind.format.entrySize header := by
  rw [runFrom_scan, bind_eq_ok_iff] at h
  obtain ⟨header, hheader, h⟩ := h
  obtain ⟨⟨⟩, hcheck, h⟩ := bind_eq_ok_iff.mp h
  obtain ⟨⟨⟩, hfits, hentries⟩ := bind_eq_ok_iff.mp h
  have hadmits := (kind.check_eq_ok_iff header).mp hcheck
  have hlength : as.length = kind.format.count header := by
    rw [kind.length_of_decodeAt hentries, offsets, List.length_map, List.length_range]
  refine ⟨header, Image.read_eq_ok_iff_holdsRecord.mp hheader, hadmits, hlength, ?_, hadmits.1⟩
  rw [hlength]
  exact ListFormat.checkFits_eq_ok_iff.mp hfits

/-- Where a list takes 2⁶⁴ bytes or more, its header has a 64-bit count. -/
theorem wide_of_overflow (kind : ListKind) {position : Nat}
    (h : (kind.scan image location).runFrom position = .error (.overflow .streamSize)) :
    kind = .memory64 ∨ kind = .table .memoryInfo := by
  by_contra hkind
  obtain ⟨hmemory64, hmemoryInfo⟩ := not_or.mp hkind
  rw [runFrom_scan] at h
  refine bind_ne_error (Image.read_ne_overflow _ _ _) (fun header => ?_) h
  refine bind_ne_error (kind.check_ne_overflow header _) fun _ => ?_
  refine bind_ne_error (fun hfits => ?_) fun _ => kind.decodeAt_ne_overflow _
  exact Nat.not_le.mpr (kind.needed_lt header hmemory64 hmemoryInfo)
    (checkFits_eq_overflow_iff.mp hfits)

/-- 2⁶⁰ descriptors of 16 bytes, and 2³³ entries of 2³¹ bytes: as 64-bit numbers both products
are zero. -/
theorem exists_overflow_of_wide (kind : ListKind)
    (h : kind = .memory64 ∨ kind = .table .memoryInfo) :
    ∃ image location position,
      (kind.scan image location).runFrom position = .error (.overflow .streamSize) := by
  rcases h with rfl | rfl
  · let image : Image := ⟨⟨#[0, 0, 0, 0, 0, 0, 0, 0x10, 0, 0, 0, 0, 0, 0, 0, 0]⟩⟩
    let header : Memory64Header := { count := 0x1000000000000000, baseOffset := 0 }
    have hheader : image.HoldsRecord RecordKind.memory64Header.format 0 header := by
      show image.window? 0 16 = some (Word.bytesOf (Memory64Header.words header))
      decide
    have hmeasures : memory64.MeasuresFirst image ⟨16, 0⟩ header 0 :=
      measuresFirst .memory64 hheader ⟨by decide, nofun⟩ 0
    exact ⟨image, ⟨16, 0⟩, 0, hmeasures.overflow_iff.mpr (by decide)⟩
  · let image : Image := ⟨⟨#[16, 0, 0, 0, 0, 0, 0, 0x80, 0, 0, 0, 0, 2, 0, 0, 0]⟩⟩
    let header : MemoryInfoHeader :=
      { headerSize := 16, entrySize := 0x80000000, count := 0x200000000 }
    have hheader : image.HoldsRecord RecordKind.memoryInfoHeader.format 0 header := by
      show image.window? 0 16 = some (Word.bytesOf (MemoryInfoHeader.words header))
      decide
    have hmeasures : (table .memoryInfo).MeasuresFirst image ⟨16, 0⟩ header 0 :=
      measuresFirst (.table .memoryInfo) hheader ⟨by decide, nofun⟩ 0
    exact ⟨image, ⟨16, 0⟩, 0, hmeasures.overflow_iff.mpr (by decide)⟩

/-- **Counts and sizes from the file never wrap an offset.** For each of the nine lists, every
file and every location: if there is a list, then as many entries as it has, as far apart as its
header says and no closer than they are long, fit behind the declared header into the declared
stream; behind a header that is there and declares enough, the list is measured before anything
else is done, so that no offset comes near to 64 bits; and only the two lists with a 64-bit count
can be measured to take 2⁶⁴ bytes or more. -/
theorem offsets_never_wrap (kind : ListKind) :
    (∀ (image : Image) (location : Location) (position : Nat) (as : List kind.Element),
      (kind.scan image location).runFrom position = .ok as →
        ∃ header, image.HoldsRecord kind.format.header location.offset.toNat header ∧
          kind.Admits header ∧ as.length = kind.format.count header ∧
          kind.format.headerSize header + as.length * kind.format.entrySize header
            ≤ location.size.toNat ∧
          kind.format.entry.size ≤ kind.format.entrySize header) ∧
    (∀ (image : Image) (location : Location) (position : Nat) (header : kind.format.header.Value),
      image.HoldsRecord kind.format.header location.offset.toNat header → kind.Admits header →
        kind.MeasuresFirst image location header position) ∧
    ((∃ image location position,
        (kind.scan image location).runFrom position = .error (.overflow .streamSize)) ↔
      kind = .memory64 ∨ kind = .table .memoryInfo) := by
  refine ⟨?_, ?_, ?_, ?_⟩
  · intro image location position as h
    exact kind.exists_header_of_scan h
  · intro image location position header hheader hadmits
    exact kind.measuresFirst hheader hadmits position
  · rintro ⟨image, location, position, h⟩
    exact kind.wide_of_overflow h
  · exact kind.exists_overflow_of_wide

/-- The most that a thread info list can declare, in the largest stream: it takes 2⁶⁴ − 2³² bytes
and is refused for that number once the 12 bytes of its header have been read. -/
theorem offsets_never_wrap_largest :
    let image : Image :=
      ⟨⟨#[255, 255, 255, 255, 255, 255, 255, 255, 255, 255, 255, 255, 1, 2, 3, 4]⟩⟩
    let header : TableHeader :=
      { headerSize := 0xffffffff, entrySize := 0xffffffff, count := 0xffffffff }
    image.HoldsRecord RecordKind.threadInfoHeader.format 0 header ∧
      (table .threadInfo).Admits header ∧
      (Scan.threadInfo image ⟨0xffffffff, 0⟩).run.run 7
        = (.error (.streamTooShort ⟨0xffffffff, 0⟩ 0xffffffff00000000), 12) := by
  intro image header
  have hheader : image.HoldsRecord RecordKind.threadInfoHeader.format 0 header := by
    show image.window? 0 12 = some (Word.bytesOf (TableHeader.words header))
    decide
  have hadmits : (table .threadInfo).Admits header := ⟨by decide, fun _ => by decide⟩
  have hneeded : (table .threadInfo).needed header = 0xffffffff00000000 := by decide
  have hmeasures : (table .threadInfo).MeasuresFirst image ⟨0xffffffff, 0⟩ header 7 :=
    (offsets_never_wrap (table .threadInfo)).2.1 image ⟨0xffffffff, 0⟩ 7 header hheader hadmits
  have hrun := hmeasures.refuses (hneeded ▸ by decide)
  rw [hneeded] at hrun
  exact ⟨hheader, hadmits, hrun⟩

end ListKind

end Minidump
