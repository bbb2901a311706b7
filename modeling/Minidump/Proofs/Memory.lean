import Minidump.Proofs.Scan
import Minidump.Proofs.Translation
import Minidump.Virtual.Cursor

/-!
# What memory holds at an address

Memory is read through a cursor, which is placed, moved on by what is read and left
wherever a failure finds it. What is read right after the cursor was placed has nothing to
do with all that: it is what the file holds at the place of the address. This file says
what that is without any cursor.

- `Image.readBytes_eq`, `Image.of_readBytes` — what bytes can be read from the file;
- `ProcessMemory.bytesUpTo` — the bytes at an address, as many as its region has;
- `ProcessMemory.bytesAt` — the bytes at an address, all of which are in its region;
- `ProcessMemory.exists_region_of_bytesUpTo` — whose bytes they are: those of the addresses
  from there on, all in one region;
- `ProcessMemory.run_seek`, `ProcessMemory.run_read` — all that the two steps can do, to
  the cursor and to the position in the file behind it;
- `ProcessMemory.gives_read`, `ProcessMemory.gives_readExact` — after a seek, from every
  cursor, they give what memory holds.
-/

namespace Minidump

/-! ## Bytes of the file -/

namespace Image

variable {image : Image} {offset length : Nat} {bs : List UInt8}

theorem readBytes_eq (image : Image) (offset length : Nat) :
    image.readBytes offset length =
      if length = 0 then .ok []
      else if offset + length ≤ image.size then
        .ok (image.bytes.extract offset (offset + length)).data.toList
      else .error (.truncated offset length) := by
  unfold readBytes window?
  by_cases hlength : length = 0
  · rw [if_pos hlength, if_pos hlength]
  · rw [if_neg hlength, if_neg hlength]
    by_cases hfits : offset + length ≤ image.size
    · rw [if_pos hfits, if_pos hfits]
    · rw [if_neg hfits, if_neg hfits]

/-- Bytes that could be read are all in the file, unless there are none. -/
theorem of_readBytes (h : image.readBytes offset length = .ok bs) :
    (length = 0 ∧ bs = []) ∨
      (offset + length ≤ image.bytes.data.size ∧
        bs = (image.bytes.data.extract offset (offset + length)).toList) := by
  rw [readBytes_eq] at h
  by_cases hlength : length = 0
  · rw [if_pos hlength] at h
    exact .inl ⟨hlength, (Except.ok.inj h).symm⟩
  · rw [if_neg hlength] at h
    by_cases hfits : offset + length ≤ image.size
    · rw [if_pos hfits, ByteArray.data_extract] at h
      exact .inr ⟨hfits, (Except.ok.inj h).symm⟩
    · rw [if_neg hfits] at h
      cases h

theorem length_of_readBytes (h : image.readBytes offset length = .ok bs) :
    bs.length = length := by
  rcases of_readBytes h with ⟨hlength, rfl⟩ | ⟨hfits, rfl⟩
  · exact hlength.symm
  · rw [Array.length_toList, Array.size_extract]
    omega

theorem getElem?_of_readBytes (h : image.readBytes offset length = .ok bs) {index : Nat}
    (hindex : index < length) : bs[index]? = image.bytes.data[offset + index]? := by
  rcases of_readBytes h with ⟨hlength, rfl⟩ | ⟨hfits, rfl⟩
  · omega
  · rw [Array.getElem?_toList, Array.getElem?_extract, if_pos]
    omega

end Image

namespace ProcessMemory

/-- The bytes at an address, up to `length` of them and no more than its region has. -/
def bytesUpTo (memory : ProcessMemory) (address length : Nat) : Result (List UInt8) :=
  match memory.space.locate? address with
  | some place => memory.image.readBytes place.offset (min length place.available)
  | none => .error (.unmapped address)

/-- The `length` bytes at an address, all of which have to be in its region. What the
region has of them is read in any case, so a file that ends before that is noticed
first. -/
def bytesAt (memory : ProcessMemory) (address length : Nat) : Result (List UInt8) :=
  match memory.space.locate? address with
  | some place => do
    let bs ← memory.image.readBytes place.offset (min length place.available)
    if length ≤ place.available then
      pure bs
    else
      throw (.shortRead address length place.available)
  | none => .error (.unmapped address)

variable {memory : ProcessMemory} {α : Type}

theorem bytesUpTo_of_region? {address : Nat} {region : Region}
    (hregion : memory.space.region? address = some region) (length : Nat) :
    memory.bytesUpTo address length =
      memory.image.readBytes (region.placeOf address).offset
        (min length (region.placeOf address).available) := by
  unfold bytesUpTo
  rw [AddressSpace.locate?_of_region? hregion]

theorem bytesUpTo_of_unmapped {address : Nat} (hregion : memory.space.region? address = none)
    (length : Nat) : memory.bytesUpTo address length = .error (.unmapped address) := by
  unfold bytesUpTo
  rw [AddressSpace.locate?_eq_none hregion]

theorem bytesAt_of_region? {address : Nat} {region : Region}
    (hregion : memory.space.region? address = some region) (length : Nat) :
    memory.bytesAt address length = (do
      let bs ← memory.bytesUpTo address length
      if length ≤ (region.placeOf address).available then
        pure bs
      else
        throw (.shortRead address length (region.placeOf address).available)) := by
  unfold bytesAt
  rw [bytesUpTo_of_region? hregion, AddressSpace.locate?_of_region? hregion]

theorem bytesAt_of_unmapped {address : Nat} (hregion : memory.space.region? address = none)
    (length : Nat) : memory.bytesAt address length = .error (.unmapped address) := by
  unfold bytesAt
  rw [AddressSpace.locate?_eq_none hregion]

theorem length_of_bytesAt {address length : Nat} {bs : List UInt8}
    (h : memory.bytesAt address length = .ok bs) : bs.length = length := by
  unfold bytesAt at h
  cases hplace : memory.space.locate? address with
  | none =>
    rw [hplace] at h
    cases h
  | some place =>
    rw [hplace] at h
    obtain ⟨found, hfound, h⟩ := bind_eq_ok_iff.mp h
    by_cases hfits : length ≤ place.available
    · rw [if_pos hfits] at h
      rw [← Except.ok.inj h, Image.length_of_readBytes hfound, Nat.min_eq_left hfits]
    · rw [if_neg hfits] at h
      cases h

/-! ## The two steps -/

theorem run_seek (memory : ProcessMemory) (address : Nat) (cursor : VirtualCursor) :
    (memory.seek address).run.run cursor =
      match memory.space.region? address with
      | some region => (.ok (), { cursor with position := address, region := some region })
      | none => (.error (.unmapped address), cursor) := by
  unfold seek
  cases memory.space.region? address <;> rfl

/-- A read from a cursor in a region moves the cursor only if it succeeds. -/
theorem run_read {position : Nat} {region : Region} {offset : Nat}
    (hoffset : checkedAdd? region.offset (position - region.range.start) = some offset)
    (length filePosition : Nat) :
    (memory.read length).run.run ⟨position, some region, filePosition⟩ =
      if min length (region.range.stop - position) = 0 then
        (.ok [], ⟨position, some region, filePosition⟩)
      else
        match memory.image.readBytes offset (min length (region.range.stop - position)) with
        | .ok bs =>
          (.ok bs, ⟨position + min length (region.range.stop - position), some region,
            offset + min length (region.range.stop - position)⟩)
        | .error cause =>
          (.error cause, ⟨position, some region, max offset memory.image.size⟩) := by
  show (if min length (region.range.stop - position) = 0 then pure [] else _
    : Access (List UInt8)).run.run ⟨position, some region, filePosition⟩ = _
  by_cases hzero : min length (region.range.stop - position) = 0
  · rw [if_pos hzero, if_pos hzero]
    rfl
  · rw [if_neg hzero, if_neg hzero, hoffset]
    -- from here on only the file can make the read fail
    show (Access.ofScan (Scan.bytesAt memory.image offset
      (min length (region.range.stop - position))) >>= _ : Access _).run.run _ = _
    rw [run_bind]
    unfold Access.ofScan Scan.bytesAt
    cases memory.image.readBytes offset (min length (region.range.stop - position)) <;> rfl

/-! ## Whose bytes they are -/

/-- A byte of memory: its address is in a region, and the file has it at the place of its
address. -/
def HasByte (memory : ProcessMemory) (region : Region) (address : Nat) (byte : UInt8) : Prop :=
  memory.space.region? address = some region ∧
    ∃ place, memory.space.locate? address = some place ∧
      memory.image.bytes.data[place.offset]? = some byte

/-- Bytes that are read at an address are those of the addresses from there on, all of them
in one region. -/
theorem exists_region_of_bytesUpTo {described : List Region}
    (h : memory.space.BuiltFrom described) {address length : Nat} {bs : List UInt8}
    (hbytes : memory.bytesUpTo address length = .ok bs) :
    ∃ region, memory.space.region? address = some region ∧
      ∀ (index : Nat) (byte : UInt8), bs[index]? = some byte →
        memory.HasByte region (address + index) byte := by
  cases hregion : memory.space.region? address with
  | none =>
    rw [bytesUpTo_of_unmapped hregion] at hbytes
    cases hbytes
  | some region =>
    rw [bytesUpTo_of_region? hregion] at hbytes
    refine ⟨region, rfl, fun index byte hbyte => ?_⟩
    obtain ⟨hmem, hstart, hstop⟩ := h.region?_eq_some_iff.mp hregion
    obtain ⟨hlt, -⟩ := List.getElem?_eq_some_iff.mp hbyte
    rw [Image.length_of_readBytes hbytes] at hlt
    -- the read ends with the region, so the address of the byte is in it as well
    have hreach : index < region.range.stop - address :=
      Nat.lt_of_lt_of_le hlt (Nat.min_le_right ..)
    have hcontains : region.range.Contains (address + index) := ⟨by omega, by omega⟩
    have hsame := h.region?_eq_some_iff.mpr ⟨hmem, hcontains⟩
    refine ⟨hsame, _, AddressSpace.locate?_of_region? hsame, ?_⟩
    rw [Region.placeOf_add hstart, ← Image.getElem?_of_readBytes hbytes hlt, hbyte]

/-! ## After a seek -/

/-- What is done after a seek starts from one of two situations, whatever the cursor was
before: the address is not mapped, or the cursor is at the address and in its region. -/
theorem gives_seek_bind {address : Nat} {access : Access α} {result : Result α}
    (hunmapped : memory.space.region? address = none → result = .error (.unmapped address))
    (hplaced : ∀ region filePosition, memory.space.region? address = some region →
      (access.run.run ⟨address, some region, filePosition⟩).1 = result) :
    Gives (do memory.seek address; access) result := by
  intro cursor
  rw [run_bind, run_seek]
  cases hregion : memory.space.region? address with
  | none => exact (hunmapped hregion).symm
  | some region => exact hplaced region cursor.filePosition hregion

section BuiltFrom

variable {described : List Region}

/-- A read of the cursor that a seek leaves behind. -/
theorem run_read_placed (h : memory.space.BuiltFrom described) {address : Nat}
    {region : Region} (hregion : memory.space.region? address = some region)
    (length filePosition : Nat) :
    ((memory.read length).run.run ⟨address, some region, filePosition⟩).1 =
      memory.bytesUpTo address length := by
  obtain ⟨hmem, -, hstop⟩ := h.region?_eq_some_iff.mp hregion
  rw [run_read (h.checkedAdd?_offset hmem (Nat.le_of_lt hstop)), bytesUpTo_of_region? hregion]
  show (if min length (region.placeOf address).available = 0 then _ else _ : _ × _).1 = _
  by_cases hzero : min length (region.placeOf address).available = 0
  · rw [if_pos hzero, hzero]
    rfl
  · rw [if_neg hzero]
    show (match memory.image.readBytes (region.placeOf address).offset
        (min length (region.placeOf address).available) with
      | .ok bs => _
      | .error cause => _ : _ × _).1 = _
    cases memory.image.readBytes (region.placeOf address).offset
        (min length (region.placeOf address).available) <;> rfl

/-- What is done with the bytes that are read after a seek, if it does not look at the
cursor. -/
theorem run_read_bind_placed (h : memory.space.BuiltFrom described) {address : Nat}
    {region : Region} (hregion : memory.space.region? address = some region)
    (length filePosition : Nat) {access : List UInt8 → Access α} {result : List UInt8 → Result α}
    (haccess : ∀ bs, memory.bytesUpTo address length = .ok bs → Gives (access bs) (result bs)) :
    ((memory.read length >>= access).run.run ⟨address, some region, filePosition⟩).1 =
      (memory.bytesUpTo address length >>= result) := by
  have hread := run_read_placed h hregion length filePosition
  rw [run_bind]
  rcases hrun : (memory.read length).run.run ⟨address, some region, filePosition⟩ with
    ⟨_ | bs, next⟩
  · rw [hrun] at hread
    rw [← hread]
    rfl
  · rw [hrun] at hread
    rw [← hread]
    exact haccess bs hread.symm next

theorem gives_read (h : memory.space.BuiltFrom described) (address length : Nat) :
    Gives (do memory.seek address; memory.read length) (memory.bytesUpTo address length) := by
  apply gives_seek_bind
  · intro hregion
    exact bytesUpTo_of_unmapped hregion length
  · intro region filePosition hregion
    exact run_read_placed h hregion length filePosition

theorem gives_readExact (h : memory.space.BuiltFrom described) (address length : Nat) :
    Gives (do memory.seek address; memory.readExact length) (memory.bytesAt address length) := by
  apply gives_seek_bind
  · intro hregion
    exact bytesAt_of_unmapped hregion length
  · intro region filePosition hregion
    rw [bytesAt_of_region? hregion]
    refine run_read_bind_placed h hregion length filePosition fun bs hbytes => ?_
    rw [bytesUpTo_of_region? hregion] at hbytes
    have hlength := Image.length_of_readBytes hbytes
    -- the bytes are as many as asked for iff the region has as many
    by_cases hfits : length ≤ (region.placeOf address).available
    · rw [if_pos hfits, if_pos (by omega)]
      exact gives_pure bs
    · rw [if_neg hfits, if_neg (by omega),
        show bs.length = (region.placeOf address).available by omega]
      exact gives_throw _

end BuiltFrom

end ProcessMemory

end Minidump
