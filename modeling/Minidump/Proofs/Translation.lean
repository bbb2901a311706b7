import Minidump.Proofs.Descriptions

/-!
# Looking up an address is searching the memory list

An address space answers for an address by looking at one region only: the last one that
starts no later. Here its answers are measured against the memory list itself, read from
its first descriptor to its last one. Neither the order of the descriptors, nor the empty
ones among them, nor the place of an address in its region makes a difference.

- `Region.placeOf`, `Region.placeOf_add` — the place of an address in a region, and those of the
  addresses behind it;
- `AddressSpace.AnswersLike` — for an address, the answers are those of a search through
  described regions;
- `AddressSpace.BuiltFrom.answersLike` — an address space that was built from regions
  answers like them;
- `AddressSpace.BuiltFrom.checkedAdd?_offset` — the offset of a place is a number of 64 bits;
- `AddressSpace.lookup_eq_linear_search` — so does the address space of every memory list
  that is accepted, at every address.
-/

namespace Minidump

/-- The place of the byte at an address of a region. -/
def Region.placeOf (r : Region) (address : Nat) : FilePlace where
  offset := r.offset + (address - r.range.start)
  available := r.range.stop - address

/-- Going on in a region is going on in the file, and leaves as many bytes less. -/
theorem Region.placeOf_add {r : Region} {address : Nat} (h : r.range.start ≤ address)
    (count : Nat) :
    r.placeOf (address + count) =
      { offset := (r.placeOf address).offset + count
        available := (r.placeOf address).available - count } := by
  have hoffset : r.offset + (address + count - r.range.start)
      = r.offset + (address - r.range.start) + count := by
    omega
  unfold placeOf
  rw [hoffset, Nat.sub_add_eq]

namespace AddressSpace

/-- What an address space answers for an address is what a search through described
regions, one after the other, finds: there is an answer iff one of them contains the
address, no other one does, and the place is counted from its start. -/
structure AnswersLike (space : AddressSpace) (described : List Region) (address : Nat) :
    Prop where
  region?_eq : space.region? address = described.find? fun r => r.range.Contains address
  region?_isSome : (space.region? address).isSome ↔
    ∃ (index : Nat) (r : Region), described[index]? = some r ∧ r.range.Contains address
  locate?_isSome : (space.locate? address).isSome ↔
    ∃ (index : Nat) (r : Region), described[index]? = some r ∧ r.range.Contains address
  unique : ∀ (i j : Nat) (r s : Region), described[i]? = some r → described[j]? = some s →
    r.range.Contains address → s.range.Contains address → i = j
  locate?_eq : ∀ (index : Nat) (r : Region), described[index]? = some r →
    r.range.Contains address → space.locate? address = some (r.placeOf address)
  place_lt : ∀ place, space.locate? address = some place →
    place.offset + place.available < addressLimit

variable {space : AddressSpace}

theorem locate?_of_region? {address : Nat} {r : Region} (h : space.region? address = some r) :
    space.locate? address = some (r.placeOf address) := by
  unfold locate?
  rw [h]
  rfl

theorem locate?_eq_none {address : Nat} (h : space.region? address = none) :
    space.locate? address = none := by
  unfold locate?
  rw [h]
  rfl

namespace BuiltFrom

variable {described : List Region}

/-- The region that is looked up is the described one that contains the address. -/
theorem region?_eq_some_iff (h : BuiltFrom space described) {address : Nat} {r : Region} :
    space.region? address = some r ↔ r ∈ described ∧ r.range.Contains address := by
  rw [AddressSpace.region?_eq_some_iff h.ordered, h.mem_iff]
  constructor
  · rintro ⟨⟨hr, -⟩, hcontains⟩
    exact ⟨hr, hcontains⟩
  · rintro ⟨hr, hcontains⟩
    exact ⟨⟨hr, hcontains.not_isEmpty⟩, hcontains⟩

theorem region?_eq_find? (h : BuiltFrom space described) (address : Nat) :
    space.region? address = described.find? fun r => r.range.Contains address := by
  cases hfind : described.find? fun r => r.range.Contains address with
  | some r =>
    have hcontains : r.range.Contains address := by simpa using List.find?_some hfind
    exact h.region?_eq_some_iff.mpr ⟨List.mem_of_find?_eq_some hfind, hcontains⟩
  | none =>
    rw [Option.eq_none_iff_forall_not_mem]
    intro r hr
    obtain ⟨hmem, hcontains⟩ := h.region?_eq_some_iff.mp hr
    exact List.find?_eq_none.mp hfind r hmem (decide_eq_true hcontains)

theorem region?_isSome_iff (h : BuiltFrom space described) (address : Nat) :
    (space.region? address).isSome ↔
      ∃ (index : Nat) (r : Region), described[index]? = some r ∧ r.range.Contains address := by
  rw [Option.isSome_iff_exists]
  constructor
  · rintro ⟨r, hr⟩
    obtain ⟨hmem, hcontains⟩ := h.region?_eq_some_iff.mp hr
    obtain ⟨index, hindex⟩ := List.mem_iff_getElem?.mp hmem
    exact ⟨index, r, hindex, hcontains⟩
  · rintro ⟨index, r, hindex, hcontains⟩
    exact ⟨r, h.region?_eq_some_iff.mpr ⟨List.mem_of_getElem? hindex, hcontains⟩⟩

/-- No two descriptions of the list contain the same address, whatever their order. -/
theorem index_unique (h : BuiltFrom space described) {address i j : Nat} {r s : Region}
    (hi : described[i]? = some r) (hj : described[j]? = some s)
    (hr : r.range.Contains address) (hs : s.range.Contains address) : i = j := by
  obtain ⟨hilt, rfl⟩ := List.getElem?_eq_some_iff.mp hi
  obtain ⟨hjlt, rfl⟩ := List.getElem?_eq_some_iff.mp hj
  have hapart := List.pairwise_iff_getElem.mp h.apart
  -- of two different places one comes first, and the two regions share the address
  rcases Nat.lt_trichotomy i j with hlt | heq | hgt
  · exact absurd ⟨hr, hs⟩ (hapart i j hilt hjlt hlt address)
  · exact heq
  · exact absurd ⟨hs, hr⟩ (hapart j i hjlt hilt hgt address)

theorem locate?_eq (h : BuiltFrom space described) {address : Nat} {r : Region}
    (hr : r ∈ described) (hcontains : r.range.Contains address) :
    space.locate? address = some (r.placeOf address) :=
  locate?_of_region? (h.region?_eq_some_iff.mpr ⟨hr, hcontains⟩)

/-- The sum of the offset of a region and the distance of an address from its start never needs
more than 64 bits, not even at the end of the region. -/
theorem checkedAdd?_offset (h : BuiltFrom space described) {address : Nat} {r : Region}
    (hr : r ∈ described) (hstop : address ≤ r.range.stop) :
    checkedAdd? r.offset (address - r.range.start) = some (r.placeOf address).offset := by
  have hle : r.offset + (address - r.range.start) ≤ r.offset + r.range.length :=
    Nat.add_le_add_left (Nat.sub_le_sub_right hstop _) _
  exact if_pos (Nat.lt_of_le_of_lt hle (h.offset_lt r hr))

/-- A place is where the region of its address says, and none of the bytes from it up to
the end of the region needs an offset of more than 64 bits. -/
theorem exists_of_locate? (h : BuiltFrom space described) {address : Nat} {place : FilePlace}
    (hplace : space.locate? address = some place) :
    ∃ r, space.region? address = some r ∧ r.range.Contains address ∧
      place = r.placeOf address ∧ r.range.stop < addressLimit ∧
      place.offset + place.available < addressLimit := by
  obtain ⟨r, hr, rfl⟩ := Option.map_eq_some_iff.mp hplace
  obtain ⟨hmem, hcontains⟩ := h.region?_eq_some_iff.mp hr
  refine ⟨r, hr, hcontains, rfl, h.stop_lt r hmem, ?_⟩
  have hoffset := h.offset_lt r hmem
  obtain ⟨hstart, hstop⟩ := hcontains
  show r.offset + (address - r.range.start) + (r.range.stop - address) < addressLimit
  unfold AddressRange.length at hoffset
  omega

theorem answersLike (h : BuiltFrom space described) (address : Nat) :
    AnswersLike space described address where
  region?_eq := h.region?_eq_find? address
  region?_isSome := h.region?_isSome_iff address
  locate?_isSome := by
    unfold locate?
    rw [Option.isSome_map]
    exact h.region?_isSome_iff address
  unique := fun _ _ _ _ hi hj hr hs => h.index_unique hi hj hr hs
  locate?_eq := fun _ _ hindex hcontains =>
    h.locate?_eq (List.mem_of_getElem? hindex) hcontains
  place_lt := fun _ hplace =>
    let ⟨_, _, _, _, _, hlt⟩ := h.exists_of_locate? hplace
    hlt

end BuiltFrom

/-- **Looking up an address is searching the list.** The address space of every memory
list that is accepted, 64-bit or not, answers for every address like the descriptors of
the list, in list order and each with the offset that its place in the list gives it. -/
theorem lookup_eq_linear_search :
    (∀ (list : Memory64List) (space : AddressSpace), ofMemory64List list = .ok space →
      ∀ address, AnswersLike space list.described address) ∧
    (∀ (list : MemoryList) (space : AddressSpace), ofMemoryList list = .ok space →
      ∀ address, AnswersLike space list.described address) :=
  ⟨fun _ _ h address => (ofMemory64List_builtFrom h).answersLike address,
    fun _ _ h address => (ofMemoryList_builtFrom h).answersLike address⟩

/-- An empty descriptor has no address, and a list that is not in address order has its
offsets in list order. -/
theorem lookup_in_unordered_lists :
    (let list : Memory64List := {
        baseOffset := 0x1000
        ranges := [⟨0x7ff000000000, 0x100⟩, ⟨0x5000, 0⟩, ⟨0x1000, 0x20⟩, ⟨0x5000, 0x3000⟩] };
      list.described = [
          ⟨⟨0x7ff000000000, 0x7ff000000100⟩, 0x1000⟩, ⟨⟨0x5000, 0x5000⟩, 0x1100⟩,
          ⟨⟨0x1000, 0x1020⟩, 0x1100⟩, ⟨⟨0x5000, 0x8000⟩, 0x1120⟩] ∧
        ∃ space, ofMemory64List list = .ok space ∧ AnswersLike space list.described 0x7fff ∧
          space.locate? 0x7fff = some { offset := 0x411f, available := 1 }) ∧
    (let list : MemoryList := {
        ranges := [⟨0x2000, ⟨0x10, 0x800⟩⟩, ⟨0x1000, ⟨0x1000, 0x400⟩⟩] };
      list.described = [⟨⟨0x2000, 0x2010⟩, 0x800⟩, ⟨⟨0x1000, 0x2000⟩, 0x400⟩] ∧
        ∃ space, ofMemoryList list = .ok space ∧ AnswersLike space list.described 0x1fff ∧
          space.locate? 0x1fff = some { offset := 0x13ff, available := 1 }) :=
  ⟨⟨rfl, _, rfl, lookup_eq_linear_search.1 _ _ rfl 0x7fff, rfl⟩,
    ⟨rfl, _, rfl, lookup_eq_linear_search.2 _ _ rfl 0x1fff, rfl⟩⟩

end AddressSpace

end Minidump
