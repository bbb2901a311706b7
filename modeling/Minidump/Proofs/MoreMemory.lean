import Minidump.Proofs.Reads
import Minidump.Proofs.Walk

/-!
# More memory does not change what was found

A dump may be written again with more of the memory of the process in it: more regions, and
more bytes behind the end of the file. What a walk has found is found again. A region is
looked up by an address that it contains, and no other region of an address space contains
that address; a read ends with its region, also where a new one begins at its end. So
everything that was read is read again, and so is the environment block, which has its end
from its region only.

What was missing may be found, so nothing is said of a walk that fails.

- `ProcessMemory.ExtendedBy` — a memory and one with more in it;
- `ProcessMemory.ExtendedBy.region?_eq`, `ProcessMemory.ExtendedBy.locate?_eq` — an address
  keeps its region and its place;
- `ProcessMemory.ExtendedBy.bytesAt`, `ProcessMemory.ExtendedBy.pointerField`,
  `ProcessMemory.ExtendedBy.stringField`, `ProcessMemory.ExtendedBy.environmentAt` — what
  was read at an address is read there again;
- `ProcessMemory.walk_of_extendedBy` — what a walk has found is found again.
-/

namespace Minidump

/-- Two steps that are defined one after the other stay so if each of them does. -/
theorem bind_mono {α β : Type} {r s : Result α} {f g : α → Result β} {b : β}
    (h : (r >>= f) = .ok b) (hr : ∀ a, r = .ok a → s = .ok a)
    (hf : ∀ a, f a = .ok b → g a = .ok b) : (s >>= g) = .ok b := by
  obtain ⟨a, ha, hb⟩ := bind_eq_ok_iff.mp h
  exact bind_eq_ok_iff.mpr ⟨a, hr a ha, hf a hb⟩

namespace ProcessMemory

/-- One memory has all the regions of another one, each at its place, and the file has more
bytes behind its end. -/
structure ExtendedBy (memory larger : ProcessMemory) : Prop where
  ordered : Region.Ordered memory.space.regions
  ordered_larger : Region.Ordered larger.space.regions
  bitness : larger.space.bitness = memory.space.bitness
  regions : ∀ region ∈ memory.space.regions, region ∈ larger.space.regions
  image : ∃ suffix, larger.image = memory.image.append suffix

namespace ExtendedBy

variable {memory larger : ProcessMemory} (h : memory.ExtendedBy larger)

include h

/-! ## Places -/

/-- The regions of an address space share no address, so an address keeps its region. -/
theorem region?_eq {address : Nat} {region : Region}
    (hregion : memory.space.region? address = some region) :
    larger.space.region? address = some region := by
  obtain ⟨hmem, hcontains⟩ := (AddressSpace.region?_eq_some_iff h.ordered).mp hregion
  exact (AddressSpace.region?_eq_some_iff h.ordered_larger).mpr ⟨h.regions region hmem, hcontains⟩

theorem locate?_eq {address : Nat} {place : FilePlace}
    (hplace : memory.space.locate? address = some place) :
    larger.space.locate? address = some place := by
  obtain ⟨region, hregion, rfl⟩ := Option.map_eq_some_iff.mp hplace
  exact AddressSpace.locate?_of_region? (h.region?_eq hregion)

theorem byWidth_eq (narrow wide : Nat) :
    larger.byWidth narrow wide = memory.byWidth narrow wide := by
  unfold byWidth
  rw [h.bitness]

theorem pointerWidth_eq : larger.pointerWidth = memory.pointerWidth :=
  h.byWidth_eq 4 8

theorem offsets_eq : larger.offsets = memory.offsets := by
  unfold offsets
  simp only [h.byWidth_eq]

/-! ## Reads -/

theorem readBytes {offset length : Nat} {bs : List UInt8}
    (hbytes : memory.image.readBytes offset length = .ok bs) :
    larger.image.readBytes offset length = .ok bs := by
  obtain ⟨suffix, hsuffix⟩ := h.image
  rw [hsuffix]
  exact Image.readBytes_append hbytes suffix

theorem bytesAt {address length : Nat} {bs : List UInt8}
    (hbytes : memory.bytesAt address length = .ok bs) :
    larger.bytesAt address length = .ok bs := by
  unfold ProcessMemory.bytesAt at hbytes ⊢
  cases hplace : memory.space.locate? address with
  | none =>
    rw [hplace] at hbytes
    cases hbytes
  | some place =>
    rw [hplace] at hbytes
    rw [h.locate?_eq hplace]
    -- the place says how many bytes are available, and the place is the same
    exact bind_mono hbytes (fun _ => h.readBytes) fun _ => id

theorem numberAt {width address number : Nat}
    (hnumber : memory.numberAt width address = .ok number) :
    larger.numberAt width address = .ok number :=
  bind_mono hnumber (fun _ => h.bytesAt) fun _ => id

theorem pointerField {base offset pointer : Nat}
    (hpointer : memory.pointerField base offset = .ok pointer) :
    larger.pointerField base offset = .ok pointer := by
  refine bind_mono hpointer (fun _ => id) fun address hpointer => ?_
  unfold pointerAt
  rw [h.pointerWidth_eq]
  exact h.numberAt hpointer

theorem stringAt {offsets : FieldOffsets} {address : Nat} {text : String}
    (htext : memory.stringAt offsets address = .ok text) :
    larger.stringAt offsets address = .ok text := by
  refine bind_mono htext (fun _ => h.numberAt) fun length htext => ?_
  by_cases hempty : length = 0
  · rw [if_pos hempty] at htext ⊢
    exact htext
  · rw [if_neg hempty] at htext ⊢
    refine bind_mono htext (fun _ => h.pointerField) fun buffer htext => ?_
    exact bind_mono htext (fun _ => h.bytesAt) fun _ => id

theorem stringField {offsets : FieldOffsets} {base offset : Nat} {text : String}
    (htext : memory.stringField offsets base offset = .ok text) :
    larger.stringField offsets base offset = .ok text :=
  bind_mono htext (fun _ => id) fun _ => h.stringAt

/-- The block ends with its region, whatever lies behind it. -/
theorem environmentAt {address : Nat} {vs : List EnvironmentVariable}
    (hvs : memory.environmentAt address = .ok vs) : larger.environmentAt address = .ok vs := by
  unfold ProcessMemory.environmentAt at hvs ⊢
  cases hplace : memory.space.locate? address with
  | none =>
    rw [hplace] at hvs
    cases hvs
  | some place =>
    rw [hplace] at hvs
    rw [h.locate?_eq hplace]
    exact bind_mono hvs (fun _ => h.readBytes) fun _ => id

/-! ## The walk -/

/-- Each step that was defined is defined with more memory, and has the same result. -/
theorem found {teb parameters block : Nat} {process : ProcessEnvironment}
    (hfound : Found memory teb parameters block process) :
    Found larger teb parameters block process := by
  have hoffsets := h.offsets_eq
  obtain ⟨address, flag, haddress, hflag, hdebugged⟩ := hfound.beingDebugged
  constructor
  case beingDebugged =>
    rw [hoffsets]
    exact ⟨address, flag, haddress, h.numberAt hflag, hdebugged⟩
  case environmentVariables => exact h.environmentAt hfound.environmentVariables
  -- all other steps read a field, for the offset of which there is one table
  all_goals rw [hoffsets]
  case peb => exact h.pointerField hfound.peb
  case imageBaseAddress => exact h.pointerField hfound.imageBaseAddress
  case processParameters => exact h.pointerField hfound.processParameters
  case imagePath => exact h.stringField hfound.imagePath
  case commandLine => exact h.stringField hfound.commandLine
  case windowTitle => exact h.stringField hfound.windowTitle
  case dllPath => exact h.stringField hfound.dllPath
  case currentDirectory => exact h.stringField hfound.currentDirectory
  case standardInput => exact h.pointerField hfound.standardInput
  case standardOutput => exact h.pointerField hfound.standardOutput
  case standardError => exact h.pointerField hfound.standardError
  case environment => exact h.pointerField hfound.environment

end ExtendedBy

/-- **More memory does not change what was found.** Of two address spaces that memory lists
make up, let one have addresses of the same width and all the regions of the other one. What
a walk finds in the smaller one is found, from every cursor, in the larger one and with any
bytes behind the end of the file. -/
theorem walk_of_extendedBy {memoryList memoryList' : Option MemoryList}
    {memory64List memory64List' : Option Memory64List} {space larger : AddressSpace}
    (hspace : AddressSpace.ofLists memoryList memory64List = .ok space)
    (hlarger : AddressSpace.ofLists memoryList' memory64List' = .ok larger)
    (hbitness : larger.bitness = space.bitness)
    (hregions : ∀ region ∈ space.regions, region ∈ larger.regions) {image : Image} {teb : Nat}
    {cursor : VirtualCursor} {process : ProcessEnvironment}
    (hfound : ((walk { space, image } teb).run.run cursor).1 = .ok process)
    (suffix : ByteArray) (next : VirtualCursor) :
    ((walk { space := larger, image := image.append suffix } teb).run.run next).1
      = .ok process := by
  obtain ⟨described, hbuilt⟩ := AddressSpace.exists_builtFrom_of_ofLists hspace
  obtain ⟨described', hbuilt'⟩ := AddressSpace.exists_builtFrom_of_ofLists hlarger
  have hextended : ExtendedBy { space, image }
      { space := larger, image := image.append suffix } := {
    ordered := hbuilt.ordered
    ordered_larger := hbuilt'.ordered
    bitness := hbitness
    regions := hregions
    image := ⟨suffix, rfl⟩
  }
  have hwalk : ((walk { space, image } teb).run.run cursor).1 = processAt { space, image } teb :=
    gives_walk hbuilt teb cursor
  have hwalk' : ((walk { space := larger, image := image.append suffix } teb).run.run next).1
      = processAt { space := larger, image := image.append suffix } teb :=
    gives_walk hbuilt' teb next
  obtain ⟨parameters, block, hsteps⟩ := processAt_eq_ok_iff.mp (hwalk.symm.trans hfound)
  rw [hwalk']
  exact processAt_eq_ok_iff.mpr ⟨parameters, block, hextended.found hsteps⟩

/-- The environment of a 32-bit process ends with its region, in the middle of an entry. A
larger dump has the rest of this entry, in a region that starts right there, and another
region that ends where the process starts. -/
theorem walk_of_extendedBy_adjacent :
    let bs : List UInt8 :=
      List.replicate 0x30 0 ++ [0x34, 0x10, 0, 0, 0, 0, 1, 0] ++ List.replicate 0xc 0
        ++ [0x48, 0x10, 0, 0] ++ List.replicate 0x38 0 ++ [4, 0, 4, 0, 0xc0, 0x10, 0, 0]
        ++ List.replicate 8 0 ++ [0xc4, 0x10, 0, 0] ++ List.replicate 0x2c 0
        ++ [0x61, 0, 0x62, 0] ++ [0x41, 0, 0x3d, 0, 0x62, 0, 0, 0, 0x43, 0]
    let image : Image := ⟨⟨bs.toArray⟩⟩
    let suffix : ByteArray := ⟨#[0x3d, 0, 0x64, 0, 0, 0, 0, 0]⟩
    let space : AddressSpace := { bitness := .bits32, regions := [⟨⟨0x1000, 0x10ce⟩, 0⟩] }
    let larger : AddressSpace := {
      bitness := .bits32
      regions := [⟨⟨0xff0, 0x1000⟩, 0x30⟩, ⟨⟨0x1000, 0x10ce⟩, 0⟩, ⟨⟨0x10ce, 0x10d6⟩, 0xce⟩]
    }
    let process : ProcessEnvironment := {
      pebAddress := 0x1034
      beingDebugged := true
      imageBaseAddress := 0
      imagePath := "ab"
      commandLine := ""
      windowTitle := ""
      dllPath := ""
      currentDirectory := ""
      standardInput := 0
      standardOutput := 0
      standardError := 0
      environmentVariables := [⟨"A", "b"⟩]
    }
    AddressSpace.ofLists (some ⟨[⟨0x1000, ⟨0xce, 0⟩⟩]⟩) none = .ok space ∧
      AddressSpace.ofLists
        (some ⟨[⟨0x10ce, ⟨8, 0xce⟩⟩, ⟨0x1000, ⟨0xce, 0⟩⟩, ⟨0xff0, ⟨0x10, 0x30⟩⟩]⟩) none
          = .ok larger ∧
      ((walk { space, image } 0x1000).run.run .unplaced).1 = .ok process ∧
      ∀ next, ((walk { space := larger, image := image.append suffix } 0x1000).run.run next).1
        = .ok process := by
  intro bs image suffix space larger process
  have hspace : AddressSpace.ofLists (some ⟨[⟨0x1000, ⟨0xce, 0⟩⟩]⟩) none = .ok space := by
    decide
  have hlarger : AddressSpace.ofLists
      (some ⟨[⟨0x10ce, ⟨8, 0xce⟩⟩, ⟨0x1000, ⟨0xce, 0⟩⟩, ⟨0xff0, ⟨0x10, 0x30⟩⟩]⟩) none
        = .ok larger := by
    decide
  have hfound : ((walk { space, image } 0x1000).run.run .unplaced).1 = .ok process := by
    decide +kernel
  refine ⟨hspace, hlarger, hfound, fun next => ?_⟩
  exact walk_of_extendedBy hspace hlarger rfl (by decide) hfound suffix next

end ProcessMemory

end Minidump
