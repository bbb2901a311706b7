import Minidump.Proofs.Walk
import Minidump.Proofs.Reads
import Minidump.Proofs.EnvironmentText

/-!
# A process that lies in memory is found

The structures that describe a process are laid out in its memory: pointers of four or of
eight bytes, strings with their lengths and pointers to their characters, and an environment
block with anything behind it, with their fields where they are in a process of this width.
If the memory of a dump holds them, the walk finds what was laid out, whatever the process
is: its structures may lie in any regions and in any order, and they may overlap.

- `ProcessMemory.Holds`, `ProcessMemory.HoldsUpToEnd` — bytes lie at an address, all in one
  region and all in the file;
- `ProcessMemory.HoldsPointer`, `ProcessMemory.HoldsText`,
  `ProcessMemory.HoldsEnvironment` — so do a number, a string and a block;
- `ProcessMemory.LaidOut` — so does everything that a process knows about itself;
- `ProcessMemory.bytesAt_of_holds`, `ProcessMemory.numberAt_of_holds`,
  `ProcessMemory.pointerField_of_holds`, `ProcessMemory.stringField_of_holds`,
  `ProcessMemory.environmentAt_of_holds` — each of these is read back;
- `ProcessMemory.walk_of_laidOut` — the walk finds the process.
-/

namespace Minidump

/-- The bytes at an address are in a region that contains the address, and the file has
them at its place. -/
def Region.Holds (region : Region) (image : Image) (address : Nat) (bs : List UInt8) : Prop :=
  region.range.Contains address ∧ address + bs.length ≤ region.range.stop ∧
    image.window? (region.placeOf address).offset bs.length = some bs

instance (region : Region) (image : Image) (address : Nat) (bs : List UInt8) :
    Decidable (region.Holds image address bs) :=
  inferInstanceAs (Decidable (_ ∧ _ ∧ _))

namespace ProcessMemory

/-! ## What lies in memory -/

/-- Bytes lie at an address, all of them in one region. -/
def Holds (memory : ProcessMemory) (address : Nat) (bs : List UInt8) : Prop :=
  ∃ region ∈ memory.space.regions, region.Holds memory.image address bs

instance (memory : ProcessMemory) (address : Nat) (bs : List UInt8) :
    Decidable (memory.Holds address bs) :=
  inferInstanceAs (Decidable (∃ region ∈ memory.space.regions, _))

/-- Bytes lie at an address and are the last ones of their region. -/
def HoldsUpToEnd (memory : ProcessMemory) (address : Nat) (bs : List UInt8) : Prop :=
  ∃ region ∈ memory.space.regions, region.Holds memory.image address bs ∧
    address + bs.length = region.range.stop

instance (memory : ProcessMemory) (address : Nat) (bs : List UInt8) :
    Decidable (memory.HoldsUpToEnd address bs) :=
  inferInstanceAs (Decidable (∃ region ∈ memory.space.regions, _))

/-- A number that is not wider than a pointer lies at an address as one. -/
structure HoldsPointer (memory : ProcessMemory) (address value : Nat) : Prop where
  fits : value < 2 ^ (8 * memory.pointerWidth)
  bytes : memory.Holds address (LittleEndian.bytes memory.pointerWidth value)

instance (memory : ProcessMemory) (address value : Nat) :
    Decidable (memory.HoldsPointer address value) :=
  decidable_of_iff (value < 2 ^ (8 * memory.pointerWidth)
      ∧ memory.Holds address (LittleEndian.bytes memory.pointerWidth value))
    ⟨fun h => ⟨h.1, h.2⟩, fun h => ⟨h.fits, h.bytes⟩⟩

/-- The longest string, in bytes, whose length is an even number of 16 bits. -/
def maxTextLength : Nat := 65534

/-- A string lies at an address: the number of its bytes, in two bytes, and, unless there are
none, a pointer to them. -/
structure HoldsText (memory : ProcessMemory) (address : Nat) (text : String) : Prop where
  fits : (Utf16.encodeBytes text.toList).length ≤ maxTextLength
  length : memory.Holds address (LittleEndian.bytes 2 (Utf16.encodeBytes text.toList).length)
  buffer : text ≠ "" → ∃ buffer,
    memory.HoldsPointer (address + memory.offsets.stringBuffer) buffer ∧
    memory.Holds buffer (Utf16.encodeBytes text.toList)

/-- An environment block lies at an address, with any bytes behind it up to the end of its
region. -/
structure HoldsEnvironment (memory : ProcessMemory) (address : Nat)
    (vs : List EnvironmentVariable) : Prop where
  canonical : ∀ v ∈ vs, v.IsCanonical
  bytes : ∃ rest, memory.HoldsUpToEnd address (EnvironmentBlock.encode vs ++ rest)

/-- The structures that describe a process lie in memory, from a TEB on, with the process
parameters and the environment block at two addresses and a byte that says whether the
process is being debugged. -/
structure LaidOut (memory : ProcessMemory) (teb parameters block : Nat) (debugged : UInt8)
    (process : ProcessEnvironment) : Prop where
  peb : memory.HoldsPointer (teb + memory.offsets.peb) process.pebAddress
  beingDebugged : memory.Holds (process.pebAddress + memory.offsets.beingDebugged) [debugged]
  beingDebugged_eq : process.beingDebugged = (debugged != 0)
  imageBaseAddress :
    memory.HoldsPointer (process.pebAddress + memory.offsets.imageBaseAddress)
      process.imageBaseAddress
  processParameters :
    memory.HoldsPointer (process.pebAddress + memory.offsets.processParameters) parameters
  imagePath : memory.HoldsText (parameters + memory.offsets.imagePath) process.imagePath
  commandLine : memory.HoldsText (parameters + memory.offsets.commandLine) process.commandLine
  windowTitle : memory.HoldsText (parameters + memory.offsets.windowTitle) process.windowTitle
  dllPath : memory.HoldsText (parameters + memory.offsets.dllPath) process.dllPath
  currentDirectory :
    memory.HoldsText (parameters + memory.offsets.currentDirectory) process.currentDirectory
  standardInput :
    memory.HoldsPointer (parameters + memory.offsets.standardInput) process.standardInput
  standardOutput :
    memory.HoldsPointer (parameters + memory.offsets.standardOutput) process.standardOutput
  standardError :
    memory.HoldsPointer (parameters + memory.offsets.standardError) process.standardError
  environment : memory.HoldsPointer (parameters + memory.offsets.environment) block
  environmentVariables : memory.HoldsEnvironment block process.environmentVariables

/-! ## Reading it back -/

theorem capacity_eq_pow (width : Nat) :
    LittleEndian.capacity width = 2 ^ (8 * width) := by
  induction width with
  | zero => rfl
  | succ width ih =>
    rw [LittleEndian.capacity, ih, Nat.mul_succ, Nat.pow_add]
    omega

section BuiltFrom

variable {memory : ProcessMemory} {described : List Region}

/-- A region that holds bytes at an address is the one that is looked up there. -/
theorem region?_of_holds (h : memory.space.BuiltFrom described) {region : Region}
    (hregion : region ∈ memory.space.regions) {address : Nat} {bs : List UInt8}
    (hholds : region.Holds memory.image address bs) :
    memory.space.region? address = some region :=
  (AddressSpace.region?_eq_some_iff h.ordered).mpr ⟨hregion, hholds.1⟩

theorem bytesAt_of_holds (h : memory.space.BuiltFrom described) {address : Nat}
    {bs : List UInt8} (hholds : memory.Holds address bs) :
    memory.bytesAt address bs.length = .ok bs := by
  obtain ⟨region, hregion, hin⟩ := hholds
  have hlookup := region?_of_holds h hregion hin
  obtain ⟨-, hstop, hwindow⟩ := hin
  have hfits : bs.length ≤ (region.placeOf address).available := by
    show bs.length ≤ region.range.stop - address
    omega
  rw [bytesAt_of_region? hlookup, bytesUpTo_of_region? hlookup, Nat.min_eq_left hfits,
    Image.readBytes_of_window? hwindow]
  exact if_pos hfits

/-- The address of a field that lies in memory does not need more than 64 bits. -/
theorem fieldAt_of_holds (h : memory.space.BuiltFrom described) {base offset : Nat}
    {bs : List UInt8} (hholds : memory.Holds (base + offset) bs) :
    fieldAt base offset = .ok (base + offset) := by
  obtain ⟨region, hregion, ⟨-, hlt⟩, -, -⟩ := hholds
  obtain ⟨hmem, -⟩ := (h.mem_iff region).mp hregion
  have hlimit : base + offset < 2 ^ 64 := Nat.lt_trans hlt (h.stop_lt region hmem)
  rw [fieldAt, if_pos hlimit]

/-- A number is read back from as many bytes as it fits in. -/
theorem numberAt_of_holds (h : memory.space.BuiltFrom described) {width address value : Nat}
    (hvalue : value < LittleEndian.capacity width)
    (hholds : memory.Holds address (LittleEndian.bytes width value)) :
    memory.numberAt width address = .ok value := by
  have hbytes := bytesAt_of_holds h hholds
  rw [LittleEndian.length_bytes] at hbytes
  refine bind_eq_ok_iff.mpr ⟨_, hbytes, ?_⟩
  rw [LittleEndian.value_bytes hvalue]
  rfl

theorem pointerField_of_holds (h : memory.space.BuiltFrom described) {base offset value : Nat}
    (hholds : memory.HoldsPointer (base + offset) value) :
    memory.pointerField base offset = .ok value := by
  have hvalue : value < LittleEndian.capacity memory.pointerWidth := by
    rw [capacity_eq_pow]
    exact hholds.fits
  refine bind_eq_ok_iff.mpr ⟨_, fieldAt_of_holds h hholds.bytes, ?_⟩
  exact numberAt_of_holds h hvalue hholds.bytes

theorem byteAt_of_holds (h : memory.space.BuiltFrom described) {address : Nat} {byte : UInt8}
    (hholds : memory.Holds address [byte]) : memory.numberAt 1 address = .ok byte.toNat := by
  have hbytes : LittleEndian.bytes 1 byte.toNat = [byte] := by
    show [UInt8.ofNat byte.toNat] = [byte]
    rw [UInt8.ofNat_toNat]
  rw [← hbytes] at hholds
  exact numberAt_of_holds h byte.toNat_lt hholds

theorem stringAt_of_holds (h : memory.space.BuiltFrom described) {address : Nat} {text : String}
    (hholds : memory.HoldsText address text) :
    memory.stringAt memory.offsets address = .ok text := by
  have hlength : (Utf16.encodeBytes text.toList).length < LittleEndian.capacity 2 :=
    Nat.lt_of_le_of_lt hholds.fits (by decide)
  refine bind_eq_ok_iff.mpr ⟨_, numberAt_of_holds h hlength hholds.length, ?_⟩
  -- only the empty text is written as no bytes, and its pointer is not looked at
  by_cases hempty : text = ""
  · subst hempty
    rfl
  · have htext := Utf16.decode_encodeBytes text.toList
    rw [String.ofList_toList] at htext
    have hne : (Utf16.encodeBytes text.toList).length ≠ 0 := by
      intro hzero
      rw [List.length_eq_zero_iff.mp hzero] at htext
      exact hempty (Except.ok.inj htext).symm
    obtain ⟨buffer, hpointer, hbuffer⟩ := hholds.buffer hempty
    rw [if_neg hne]
    refine bind_eq_ok_iff.mpr ⟨buffer, pointerField_of_holds h hpointer, ?_⟩
    exact bind_eq_ok_iff.mpr ⟨_, bytesAt_of_holds h hbuffer, htext⟩

theorem stringField_of_holds (h : memory.space.BuiltFrom described) {base offset : Nat}
    {text : String} (hholds : memory.HoldsText (base + offset) text) :
    memory.stringField memory.offsets base offset = .ok text :=
  bind_eq_ok_iff.mpr
    ⟨_, fieldAt_of_holds h hholds.length, stringAt_of_holds h hholds⟩

/-- All bytes from the start of a block up to the end of its region are read, and those
behind the block make no difference. -/
theorem environmentAt_of_holds (h : memory.space.BuiltFrom described) {address : Nat}
    {vs : List EnvironmentVariable} (hholds : memory.HoldsEnvironment address vs) :
    memory.environmentAt address = .ok vs := by
  obtain ⟨rest, region, hregion, hin, hend⟩ := hholds.bytes
  have hlookup := region?_of_holds h hregion hin
  have hlength : region.range.stop - address
      = (EnvironmentBlock.encode vs ++ rest).length := by
    omega
  rw [environmentAt_of_region? hlookup, hlength, bytesUpTo_of_region? hlookup]
  have havailable : (region.placeOf address).available
      = (EnvironmentBlock.encode vs ++ rest).length :=
    hlength
  rw [havailable, Nat.min_self, Image.readBytes_of_window? hin.2.2]
  exact EnvironmentBlock.decode_encode_append hholds.canonical rest

/-- Every step from the TEB of a process that lies in memory is defined. -/
theorem found_of_laidOut (h : memory.space.BuiltFrom described) {teb parameters block : Nat}
    {debugged : UInt8} {process : ProcessEnvironment}
    (hlaid : memory.LaidOut teb parameters block debugged process) :
    Found memory teb parameters block process where
  peb := pointerField_of_holds h hlaid.peb
  beingDebugged := ⟨_, debugged.toNat, fieldAt_of_holds h hlaid.beingDebugged,
    byteAt_of_holds h hlaid.beingDebugged,
    hlaid.beingDebugged_eq.trans (toNat_bne_zero debugged).symm⟩
  imageBaseAddress := pointerField_of_holds h hlaid.imageBaseAddress
  processParameters := pointerField_of_holds h hlaid.processParameters
  imagePath := stringField_of_holds h hlaid.imagePath
  commandLine := stringField_of_holds h hlaid.commandLine
  windowTitle := stringField_of_holds h hlaid.windowTitle
  dllPath := stringField_of_holds h hlaid.dllPath
  currentDirectory := stringField_of_holds h hlaid.currentDirectory
  standardInput := pointerField_of_holds h hlaid.standardInput
  standardOutput := pointerField_of_holds h hlaid.standardOutput
  standardError := pointerField_of_holds h hlaid.standardError
  environment := pointerField_of_holds h hlaid.environment
  environmentVariables := environmentAt_of_holds h hlaid.environmentVariables

end BuiltFrom

/-- **A process that lies in memory is found.** In every address space that the memory lists
make up, with addresses of either width, and over every file: if the structures of a process
lie in memory from a TEB on, the walk from there finds this process, wherever the cursor was
before. -/
theorem walk_of_laidOut {memoryList : Option MemoryList} {memory64List : Option Memory64List}
    {space : AddressSpace} (h : AddressSpace.ofLists memoryList memory64List = .ok space)
    {image : Image} {teb parameters block : Nat} {debugged : UInt8} {process : ProcessEnvironment}
    (hlaid : LaidOut { space, image } teb parameters block debugged process)
    (cursor : VirtualCursor) :
    ((walk { space, image } teb).run.run cursor).1 = .ok process := by
  obtain ⟨described, hbuilt⟩ := AddressSpace.exists_builtFrom_of_ofLists h
  have hwalk : ((walk { space, image } teb).run.run cursor).1 = processAt { space, image } teb :=
    gives_walk hbuilt teb cursor
  rw [hwalk]
  exact processAt_eq_ok_iff.mpr ⟨parameters, block, found_of_laidOut hbuilt hlaid⟩

/-- A 32-bit process and a 64-bit one, each in two regions. Their strings share characters, one
of which has two units, and that of the window title of the first one is empty. Their
environments have a name that begins with `=` and, behind the block, half a surrogate pair and
an odd byte. -/
theorem walk_of_laidOut_either_width :
    let zeros (length : Nat) : List UInt8 := List.replicate length 0
    let vs : List EnvironmentVariable := [⟨"=C:", "C:\\x"⟩, ⟨"A", ""⟩]
    let block : List UInt8 := EnvironmentBlock.encode vs ++ [0, 0xd8, 0x41]
    let texts : List UInt8 :=
      Utf16.encodeBytes ['a', '😀', ' ', '-', 'b', 'd', 'C', ':', '\\', 't']
    let pointer32 (address : Nat) : List UInt8 := LittleEndian.bytes 4 address
    let string32 (length buffer : Nat) : List UInt8 :=
      LittleEndian.bytes 2 length ++ zeros 2 ++ pointer32 buffer
    let bs32 : List UInt8 :=
      zeros 0x30 ++ pointer32 0x1034
        ++ [0, 0, 1, 0] ++ zeros 4 ++ pointer32 0x400000 ++ zeros 4 ++ pointer32 0x1048
        ++ zeros 0x18 ++ pointer32 3 ++ pointer32 7 ++ pointer32 11
        ++ string32 6 0x7ffe000e ++ zeros 4 ++ string32 2 0x7ffe000c ++ string32 6 0x7ffe0000
        ++ string32 12 0x7ffe0000 ++ pointer32 0x7ffe0016 ++ zeros 0x24 ++ string32 0 0xdead
        ++ texts ++ block
    let process32 : ProcessEnvironment := {
      pebAddress := 0x1034
      beingDebugged := true
      imageBaseAddress := 0x400000
      imagePath := "a😀"
      commandLine := "a😀 -b"
      windowTitle := ""
      dllPath := "d"
      currentDirectory := "C:\\"
      standardInput := 3
      standardOutput := 7
      standardError := 11
      environmentVariables := vs
    }
    let memory32 : ProcessMemory := {
      space := {
        bitness := .bits32
        regions := [⟨⟨0x1000, 0x10c0⟩, 0⟩, ⟨⟨0x7ffe0000, 0x7ffe0033⟩, 0xc0⟩]
      }
      image := ⟨⟨bs32.toArray⟩⟩
    }
    let pointer64 (address : Nat) : List UInt8 := LittleEndian.bytes 8 address
    let string64 (length buffer : Nat) : List UInt8 :=
      LittleEndian.bytes 2 length ++ zeros 6 ++ pointer64 buffer
    let bs64 : List UInt8 :=
      block ++ zeros 0x60 ++ pointer64 0x1068
        ++ [0, 0, 1, 0] ++ zeros 0xc ++ pointer64 0x140000000 ++ zeros 8 ++ pointer64 0x1090
        ++ zeros 0x20 ++ pointer64 3 ++ pointer64 7 ++ pointer64 0x700000000
        ++ string64 6 0x115e ++ zeros 8 ++ string64 2 0x115c ++ string64 6 0x1150
        ++ string64 12 0x1150 ++ pointer64 0x7ff000000000 ++ zeros 0x28 ++ string64 2 0x1164
        ++ texts
    let process64 : ProcessEnvironment := {
      pebAddress := 0x1068
      beingDebugged := true
      imageBaseAddress := 0x140000000
      imagePath := "a😀"
      commandLine := "a😀 -b"
      windowTitle := "t"
      dllPath := "d"
      currentDirectory := "C:\\"
      standardInput := 3
      standardOutput := 7
      standardError := 0x700000000
      environmentVariables := vs
    }
    let memory64 : ProcessMemory := {
      space := {
        bitness := .bits64
        regions := [⟨⟨0x1000, 0x1166⟩, 29⟩, ⟨⟨0x7ff000000000, 0x7ff00000001d⟩, 0⟩]
      }
      image := ⟨⟨bs64.toArray⟩⟩
    }
    (AddressSpace.ofLists
        (some ⟨[⟨0x7ffe0000, ⟨0x33, 0xc0⟩⟩, ⟨0x1000, ⟨0xc0, 0⟩⟩]⟩) none = .ok memory32.space ∧
      memory32.LaidOut 0x1000 0x1048 0x7ffe0016 1 process32 ∧
      ∀ cursor, ((walk memory32 0x1000).run.run cursor).1 = .ok process32) ∧
    AddressSpace.ofLists none (some ⟨0, [⟨0x7ff000000000, 29⟩, ⟨0x1000, 0x166⟩]⟩)
        = .ok memory64.space ∧
      memory64.LaidOut 0x1000 0x1090 0x7ff000000000 1 process64 ∧
      ∀ cursor, ((walk memory64 0x1000).run.run cursor).1 = .ok process64 := by
  intro zeros vs block texts pointer32 string32 bs32 process32 memory32
    pointer64 string64 bs64 process64 memory64
  have hspace32 : AddressSpace.ofLists
      (some ⟨[⟨0x7ffe0000, ⟨0x33, 0xc0⟩⟩, ⟨0x1000, ⟨0xc0, 0⟩⟩]⟩) none = .ok memory32.space := by
    decide
  have hspace64 : AddressSpace.ofLists none
      (some ⟨0, [⟨0x7ff000000000, 29⟩, ⟨0x1000, 0x166⟩]⟩) = .ok memory64.space := by
    decide
  have hlaid32 : memory32.LaidOut 0x1000 0x1048 0x7ffe0016 1 process32 := {
    peb := by decide +kernel
    beingDebugged := by decide +kernel
    beingDebugged_eq := rfl
    imageBaseAddress := by decide +kernel
    processParameters := by decide +kernel
    imagePath := ⟨by decide +kernel, by decide +kernel,
      fun _ => ⟨0x7ffe0000, by decide +kernel, by decide +kernel⟩⟩
    commandLine := ⟨by decide +kernel, by decide +kernel,
      fun _ => ⟨0x7ffe0000, by decide +kernel, by decide +kernel⟩⟩
    windowTitle := ⟨by decide, by decide +kernel, fun hne => absurd rfl hne⟩
    dllPath := ⟨by decide +kernel, by decide +kernel,
      fun _ => ⟨0x7ffe000c, by decide +kernel, by decide +kernel⟩⟩
    currentDirectory := ⟨by decide +kernel, by decide +kernel,
      fun _ => ⟨0x7ffe000e, by decide +kernel, by decide +kernel⟩⟩
    standardInput := by decide +kernel
    standardOutput := by decide +kernel
    standardError := by decide +kernel
    environment := by decide +kernel
    environmentVariables := ⟨by decide +kernel, [0, 0xd8, 0x41], by decide +kernel⟩
  }
  have hlaid64 : memory64.LaidOut 0x1000 0x1090 0x7ff000000000 1 process64 := {
    peb := by decide +kernel
    beingDebugged := by decide +kernel
    beingDebugged_eq := rfl
    imageBaseAddress := by decide +kernel
    processParameters := by decide +kernel
    imagePath := ⟨by decide +kernel, by decide +kernel,
      fun _ => ⟨0x1150, by decide +kernel, by decide +kernel⟩⟩
    commandLine := ⟨by decide +kernel, by decide +kernel,
      fun _ => ⟨0x1150, by decide +kernel, by decide +kernel⟩⟩
    windowTitle := ⟨by decide +kernel, by decide +kernel,
      fun _ => ⟨0x1164, by decide +kernel, by decide +kernel⟩⟩
    dllPath := ⟨by decide +kernel, by decide +kernel,
      fun _ => ⟨0x115c, by decide +kernel, by decide +kernel⟩⟩
    currentDirectory := ⟨by decide +kernel, by decide +kernel,
      fun _ => ⟨0x115e, by decide +kernel, by decide +kernel⟩⟩
    standardInput := by decide +kernel
    standardOutput := by decide +kernel
    standardError := by decide +kernel
    environment := by decide +kernel
    environmentVariables := ⟨by decide +kernel, [0, 0xd8, 0x41], by decide +kernel⟩
  }
  exact ⟨⟨hspace32, hlaid32, walk_of_laidOut hspace32 hlaid32⟩,
    hspace64, hlaid64, walk_of_laidOut hspace64 hlaid64⟩

end ProcessMemory

end Minidump
