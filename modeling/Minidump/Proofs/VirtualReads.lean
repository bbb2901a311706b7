import Minidump.Proofs.Parse

/-!
# Reading the memory of a dump

A dump answers reads of memory through the file it was parsed from, and every read leaves
a position behind in that file, also one that fails. Here is what a read answers, by the
address space and the bytes of the file alone, and what the bytes are that it answers
with: those of one region, each from its own place.

- `Dump.mappedBytes` — what a read answers;
- `Dump.scanVirtual_gives` — a read answers this, from every position in the file;
- `Dump.exists_region_of_mappedBytes` — each byte that is answered is the one at the place
  of its address, and all of them are in the region of the first one;
- `Dump.scanVirtualEach_eq_mappedBytes` — any run of reads after any parse.
-/

namespace Minidump

namespace Dump

/-- What a read of memory answers: as many bytes as were asked for and are in the region
of the address, provided that the file has them all. -/
def mappedBytes (dump : Dump) (image : Image) (address length : Nat) : Result (List UInt8) :=
  match dump.addressSpace.bind fun space => space.locate? address with
  | none => .error (.unmapped address)
  | some place =>
    let count := min length place.available
    if count = 0 then .ok []
    else if place.offset + count ≤ image.size then
      .ok (image.bytes.extract place.offset (place.offset + count)).data.toList
    else .error (.truncated place.offset count)

variable {dump : Dump} {image : Image}

theorem mappedBytes_of_none (hspace : dump.addressSpace = none) (address length : Nat) :
    dump.mappedBytes image address length = .error (.unmapped address) := by
  unfold mappedBytes
  rw [hspace]
  rfl

/-- With an address space, the answer is what memory holds at the address. -/
theorem mappedBytes_of_some {space : AddressSpace} (hspace : dump.addressSpace = some space)
    (address length : Nat) :
    dump.mappedBytes image address length
      = ProcessMemory.bytesUpTo { space, image } address length := by
  unfold mappedBytes ProcessMemory.bytesUpTo
  rw [hspace]
  show (match space.locate? address with | none => _ | some place => _ : Result _) = _
  cases space.locate? address with
  | none => rfl
  | some place => exact (image.readBytes_eq place.offset _).symm

/-- The dump of a file has an address space only if its memory lists make one up. -/
theorem exists_builtFrom_of_dump (hdump : image.dump = .ok dump) {space : AddressSpace}
    (hspace : dump.addressSpace = some space) : ∃ described, space.BuiltFrom described := by
  obtain ⟨header, entries, -, -, rfl⟩ := Image.exists_of_dump hdump
  exact AddressSpace.exists_builtFrom_of_ofLists (Contents.ofLists_of_space? hspace)

theorem scanVirtual_gives (hdump : image.dump = .ok dump) (address length : Nat) :
    Gives (dump.scanVirtual image address length) (dump.mappedBytes image address length) := by
  unfold scanVirtual memory?
  cases hspace : dump.addressSpace with
  | none =>
    rw [mappedBytes_of_none hspace]
    exact gives_throw _
  | some space =>
    obtain ⟨described, hbuilt⟩ := exists_builtFrom_of_dump hdump hspace
    rw [mappedBytes_of_some hspace]
    apply Scan.gives_toScan
    exact ProcessMemory.gives_read hbuilt address length

/-- The bytes that a read answers with are all in the region of the first one. -/
theorem exists_region_of_mappedBytes (hdump : image.dump = .ok dump) {address length : Nat}
    {bs : List UInt8} (h : dump.mappedBytes image address length = .ok bs) :
    ∃ space region, dump.addressSpace = some space ∧ space.region? address = some region ∧
      ∀ (index : Nat) (byte : UInt8), bs[index]? = some byte →
        ProcessMemory.HasByte { space, image } region (address + index) byte := by
  cases hspace : dump.addressSpace with
  | none =>
    rw [mappedBytes_of_none hspace] at h
    cases h
  | some space =>
    obtain ⟨described, hbuilt⟩ := exists_builtFrom_of_dump hdump hspace
    rw [mappedBytes_of_some hspace] at h
    obtain ⟨region, hregion, hbytes⟩ := ProcessMemory.exists_region_of_bytesUpTo hbuilt h
    exact ⟨space, region, rfl, hregion, hbytes⟩

/-- **Reads of memory have no memory.** After every parse that succeeds, every run of
reads is answered one by one with what the address space and the file say, wherever the
parse and the reads have left the position; and no answer has a byte from another region
than that of its address. -/
theorem scanVirtualEach_eq_mappedBytes {start : Nat}
    (h : (Scan.dump image).runFrom start = .ok dump) (requests : List (Nat × Nat))
    (position : Nat) :
    (dump.scanVirtualEach image requests).runFrom position
      = .ok (requests.map fun (address, length) => dump.mappedBytes image address length) ∧
    ∀ (address length : Nat) (bs : List UInt8),
      dump.mappedBytes image address length = .ok bs →
      ∃ space region, dump.addressSpace = some space ∧ space.region? address = some region ∧
        ∀ (index : Nat) (byte : UInt8), bs[index]? = some byte →
          ProcessMemory.HasByte { space, image } region (address + index) byte := by
  have hdump : image.dump = .ok dump := (Scan.gives_dump image start).symm.trans h
  constructor
  · have hread : ∀ request : Nat × Nat,
        Gives (dump.scanVirtual image request.1 request.2).attempt
          (.ok (dump.mappedBytes image request.1 request.2)) :=
      fun request => Scan.gives_attempt (scanVirtual_gives hdump request.1 request.2)
    exact gives_mapM_ok hread requests position
  · intro address length bs hbytes
    exact exists_region_of_mappedBytes hdump hbytes

/-- Of two regions the second one starts where the first one ends, and the file has only
some of its bytes. The reads end with their region, miss both of them, need more than the
file has, succeed, and ask for nothing. -/
theorem scanVirtualEach_eq_mappedBytes_adjacent :
    let bs : List UInt8 :=
      [0x4d, 0x44, 0x4d, 0x50, 0, 0, 0, 0, 1, 0, 0, 0, 32, 0, 0, 0] ++ List.replicate 16 0
        ++ [5, 0, 0, 0, 36, 0, 0, 0, 44, 0, 0, 0] ++ [2, 0, 0, 0]
        ++ [0, 0x10, 0, 0, 0, 0, 0, 0, 4, 0, 0, 0, 80, 0, 0, 0]
        ++ [4, 0x10, 0, 0, 0, 0, 0, 0, 8, 0, 0, 0, 84, 0, 0, 0] ++ [1, 2, 3, 4, 5, 6];
    let image : Image := ⟨⟨bs.toArray⟩⟩;
    ∃ dump, (Scan.dump image).runFrom 3 = .ok dump ∧
      (dump.scanVirtualEach image
          [(0x1002, 10), (0x2000, 1), (0x1004, 8), (0x1004, 2), (0x1004, 0)]).runFrom 70
        = .ok [.ok [3, 4], .error (.unmapped 0x2000), .error (.truncated 84 8), .ok [5, 6],
            .ok []] := by
  intro bs image
  have hspace : Dump.addressSpace <$> (Scan.dump image).runFrom 3
      = .ok (some { bitness := .bits32, regions :=
          [⟨⟨0x1000, 0x1004⟩, 80⟩, ⟨⟨0x1004, 0x100c⟩, 84⟩] }) := by
    decide +kernel
  cases hdump : (Scan.dump image).runFrom 3 with
  | error cause =>
    rw [hdump] at hspace
    cases hspace
  | ok dump =>
    rw [hdump] at hspace
    refine ⟨dump, rfl, (scanVirtualEach_eq_mappedBytes hdump _ 70).1.trans ?_⟩
    have hbytes : ∀ address length, dump.mappedBytes image address length = _ :=
      mappedBytes_of_some (Except.ok.inj hspace)
    simp only [List.map_cons, List.map_nil, hbytes]
    decide +kernel

end Dump

end Minidump
