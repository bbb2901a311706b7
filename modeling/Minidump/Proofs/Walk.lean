import Minidump.Process.Environment
import Minidump.Proofs.Memory

/-!
# The walk without a cursor

The walk from a TEB makes some twenty reads, each at an address that an earlier one
found, and all of them move one cursor. Here is the same walk as a computation on
addresses, regions and the bytes of the file alone: there is nothing in it that a step
could leave behind for the next one. It has its own widths and offsets, written out for
32-bit and 64-bit processes. Both fail at the same step and for the same cause.

- `ProcessMemory.pointerWidth`, `ProcessMemory.offsets` — how wide a pointer is and where the
  fields are, in a process of either width;
- `ProcessMemory.numberAt`, `ProcessMemory.pointerAt`, `ProcessMemory.stringAt`,
  `ProcessMemory.environmentAt` — what memory holds at an address, by kind;
- `ProcessMemory.processAt` — everything that the process knows about itself, each step
  after those it needs;
- `ProcessMemory.Found`, `ProcessMemory.processAt_eq_ok_iff` — it is there iff every
  single step is defined;
- `ProcessMemory.walk_eq_processAt` — the walk finds this, from every cursor.
-/

namespace Minidump

namespace ProcessMemory

variable {α : Type}

/-! ## What the structures look like -/

/-- One of two numbers: the first in a process with 32-bit addresses, the second in one with
64-bit addresses. -/
def byWidth (memory : ProcessMemory) (narrow wide : Nat) : Nat :=
  match memory.space.bitness with
  | .bits32 => narrow
  | .bits64 => wide

/-- The number of bytes in a pointer. -/
def pointerWidth (memory : ProcessMemory) : Nat :=
  memory.byWidth 4 8

/-- Where the fields are: those of the TEB and the PEB, then those of the process parameters,
and last the pointer in a counted string. -/
def offsets (memory : ProcessMemory) : FieldOffsets where
  peb := memory.byWidth 0x30 0x60
  beingDebugged := memory.byWidth 0x2 0x2
  imageBaseAddress := memory.byWidth 0x8 0x10
  processParameters := memory.byWidth 0x10 0x20
  standardInput := memory.byWidth 0x18 0x20
  standardOutput := memory.byWidth 0x1c 0x28
  standardError := memory.byWidth 0x20 0x30
  currentDirectory := memory.byWidth 0x24 0x38
  dllPath := memory.byWidth 0x30 0x50
  imagePath := memory.byWidth 0x38 0x60
  commandLine := memory.byWidth 0x40 0x70
  environment := memory.byWidth 0x48 0x80
  windowTitle := memory.byWidth 0x70 0xb0
  stringBuffer := memory.byWidth 0x4 0x8

/-- The address of the field at an offset, which has to be one of 64 bits. -/
def fieldAt (base offset : Nat) : Result Nat :=
  if base + offset < 2 ^ 64 then .ok (base + offset) else .error (.overflow .fieldAddress)

theorem pointerSize_eq (memory : ProcessMemory) :
    memory.space.bitness.pointerSize = memory.pointerWidth := by
  unfold pointerWidth byWidth
  cases memory.space.bitness <;> rfl

theorem fieldOffsets_eq (memory : ProcessMemory) :
    FieldOffsets.of memory.space.bitness = memory.offsets := by
  unfold offsets byWidth
  cases memory.space.bitness <;> rfl

theorem fieldAddress_eq (base offset : Nat) : fieldAddress base offset = fieldAt base offset := by
  have hlimit : addressLimit = 2 ^ 64 := rfl
  unfold fieldAddress fieldAt checkedAdd?
  rw [← hlimit]
  by_cases hlt : base + offset < addressLimit
  · rw [if_pos hlt, if_pos hlt]
  · rw [if_neg hlt, if_neg hlt]

/-! ## What memory holds -/

/-- The number of `width` bytes at an address, all of which have to be in the region of the
address. -/
def numberAt (memory : ProcessMemory) (width address : Nat) : Result Nat := do
  let bs ← memory.bytesAt address width
  pure (LittleEndian.value bs)

/-- The pointer at an address: a number of four bytes or of eight. -/
def pointerAt (memory : ProcessMemory) (address : Nat) : Result Nat :=
  memory.numberAt memory.pointerWidth address

/-- The pointer in the field at an offset from `base`. -/
def pointerField (memory : ProcessMemory) (base offset : Nat) : Result Nat := do
  let address ← fieldAt base offset
  memory.pointerAt address

/-- The counted string at an address: the number of its bytes, in two bytes, and, unless there
are none, a pointer to them. -/
def stringAt (memory : ProcessMemory) (offsets : FieldOffsets) (address : Nat) :
    Result String := do
  let length ← memory.numberAt 2 address
  if length = 0 then
    pure ""
  else
    let buffer ← memory.pointerField address offsets.stringBuffer
    let bs ← memory.bytesAt buffer length
    Utf16.decode bs

/-- The counted string in the field at an offset from `base`. -/
def stringField (memory : ProcessMemory) (offsets : FieldOffsets) (base offset : Nat) :
    Result String := do
  let address ← fieldAt base offset
  memory.stringAt offsets address

/-- The variables of the block at an address, to which all bytes up to the end of the
region belong. -/
def environmentAt (memory : ProcessMemory) (address : Nat) :
    Result (List EnvironmentVariable) :=
  match memory.space.locate? address with
  | some place => do
    let block ← memory.image.readBytes place.offset place.available
    EnvironmentBlock.decode block
  | none => .error (.unmapped address)

/-- Everything that the process knows about itself, from the TEB of a thread on. The first
step that is not defined is the cause why it is not known. -/
def processAt (memory : ProcessMemory) (teb : Nat) : Result ProcessEnvironment := do
  let offsets := memory.offsets
  let pebAddress ← memory.pointerField teb offsets.peb
  let flagAddress ← fieldAt pebAddress offsets.beingDebugged
  let beingDebugged ← memory.numberAt 1 flagAddress
  let imageBaseAddress ← memory.pointerField pebAddress offsets.imageBaseAddress
  let parameters ← memory.pointerField pebAddress offsets.processParameters
  let imagePath ← memory.stringField offsets parameters offsets.imagePath
  let commandLine ← memory.stringField offsets parameters offsets.commandLine
  let windowTitle ← memory.stringField offsets parameters offsets.windowTitle
  let dllPath ← memory.stringField offsets parameters offsets.dllPath
  let currentDirectory ← memory.stringField offsets parameters offsets.currentDirectory
  let standardInput ← memory.pointerField parameters offsets.standardInput
  let standardOutput ← memory.pointerField parameters offsets.standardOutput
  let standardError ← memory.pointerField parameters offsets.standardError
  let environment ← memory.pointerField parameters offsets.environment
  let environmentVariables ← memory.environmentAt environment
  pure {
    pebAddress
    beingDebugged := beingDebugged != 0
    imageBaseAddress
    imagePath
    commandLine
    windowTitle
    dllPath
    currentDirectory
    standardInput
    standardOutput
    standardError
    environmentVariables
  }

/-- Each step from a TEB is defined, by way of the process parameters and the environment
block at two addresses, and together they make up what the process knows about itself. -/
structure Found (memory : ProcessMemory) (teb parameters block : Nat)
    (found : ProcessEnvironment) : Prop where
  peb : memory.pointerField teb memory.offsets.peb = .ok found.pebAddress
  beingDebugged : ∃ address flag,
    fieldAt found.pebAddress memory.offsets.beingDebugged = .ok address ∧
    memory.numberAt 1 address = .ok flag ∧ found.beingDebugged = (flag != 0)
  imageBaseAddress :
    memory.pointerField found.pebAddress memory.offsets.imageBaseAddress
      = .ok found.imageBaseAddress
  processParameters :
    memory.pointerField found.pebAddress memory.offsets.processParameters = .ok parameters
  imagePath :
    memory.stringField memory.offsets parameters memory.offsets.imagePath = .ok found.imagePath
  commandLine :
    memory.stringField memory.offsets parameters memory.offsets.commandLine
      = .ok found.commandLine
  windowTitle :
    memory.stringField memory.offsets parameters memory.offsets.windowTitle
      = .ok found.windowTitle
  dllPath :
    memory.stringField memory.offsets parameters memory.offsets.dllPath = .ok found.dllPath
  currentDirectory :
    memory.stringField memory.offsets parameters memory.offsets.currentDirectory
      = .ok found.currentDirectory
  standardInput :
    memory.pointerField parameters memory.offsets.standardInput = .ok found.standardInput
  standardOutput :
    memory.pointerField parameters memory.offsets.standardOutput = .ok found.standardOutput
  standardError :
    memory.pointerField parameters memory.offsets.standardError = .ok found.standardError
  environment : memory.pointerField parameters memory.offsets.environment = .ok block
  environmentVariables : memory.environmentAt block = .ok found.environmentVariables

theorem processAt_eq_ok_iff {memory : ProcessMemory} {teb : Nat}
    {found : ProcessEnvironment} :
    memory.processAt teb = .ok found ↔
      ∃ parameters block, Found memory teb parameters block found := by
  unfold processAt
  simp only [bind_eq_ok_iff]
  constructor
  · rintro ⟨_, hpeb, address, haddress, flag, hflag, _, hbase, parameters, hparameters,
      _, himagePath, _, hcommandLine, _, hwindowTitle, _, hdllPath, _, hdirectory,
      _, hinput, _, houtput, _, herror, block, hblock, _, hvariables, hfound⟩
    obtain rfl := Except.ok.inj hfound
    exact ⟨parameters, block, hpeb, ⟨address, flag, haddress, hflag, rfl⟩, hbase, hparameters,
      himagePath, hcommandLine, hwindowTitle, hdllPath, hdirectory, hinput, houtput, herror,
      hblock, hvariables⟩
  · rintro ⟨parameters, block, h⟩
    obtain ⟨address, flag, haddress, hflag, hdebugged⟩ := h.beingDebugged
    refine ⟨_, h.peb, address, haddress, flag, hflag, _, h.imageBaseAddress, parameters,
      h.processParameters, _, h.imagePath, _, h.commandLine, _, h.windowTitle, _, h.dllPath,
      _, h.currentDirectory, _, h.standardInput, _, h.standardOutput, _, h.standardError,
      block, h.environment, _, h.environmentVariables, ?_⟩
    rw [← hdebugged]
    rfl

/-! ## One step of the walk -/

theorem toNat_bne_zero (byte : UInt8) : (byte.toNat != 0) = (byte != 0) := by
  rw [bne, bne, Bool.not_inj_iff, Bool.eq_iff_iff, beq_iff_eq, beq_iff_eq]
  exact UInt8.toNat_inj (b := 0)

variable {memory : ProcessMemory} {described : List Region}

/-- A word of a fixed width has the number of its bytes. -/
theorem numberAt_eq_map {width : Nat} {ofNat : Nat → α} {toNat : α → Nat}
    (htoNat : ∀ n < LittleEndian.capacity width, toNat (ofNat n) = n) (address : Nat) :
    memory.numberAt width address = toNat <$> (do
      let bs ← memory.bytesAt address (Layout.word width ofNat toNat).size
      pure ((Layout.word width ofNat toNat).decode bs)) := by
  show (memory.bytesAt address width >>= _) = toNat <$> (memory.bytesAt address width >>= _)
  cases hbytes : memory.bytesAt address width with
  | error cause => rfl
  | ok bs =>
    have hle : bs.length ≤ width := (length_of_bytesAt hbytes).le
    show Except.ok (LittleEndian.value bs)
      = Except.ok (toNat (ofNat (LittleEndian.value (bs.take width))))
    rw [List.take_of_length_le hle, htoNat _ (LittleEndian.value_lt_capacity hle)]

/-- What is done with a word that was read is done with its number. -/
theorem gives_word_bind {β : Type} (h : memory.space.BuiltFrom described) {width : Nat}
    {ofNat : Nat → α} {toNat : α → Nat}
    (htoNat : ∀ n < LittleEndian.capacity width, toNat (ofNat n) = n) (address : Nat)
    {f : α → Access β} {g : Nat → Result β} (hf : ∀ a, Gives (f a) (g (toNat a))) :
    Gives (do
        memory.seek address
        let a ← (do
          let bs ← memory.readExact (Layout.word width ofNat toNat).size
          pure ((Layout.word width ofNat toNat).decode bs))
        f a)
      (memory.numberAt width address >>= g) := by
  rw [numberAt_eq_map htoNat, bind_map_left]
  have hword := (gives_readExact h address (Layout.word width ofNat toNat).size).bind_pair
    fun bs => gives_pure ((Layout.word width ofNat toNat).decode bs)
  exact hword.bind_pair hf

theorem gives_readByte_bind {β : Type} (h : memory.space.BuiltFrom described) (address : Nat)
    {f : UInt8 → Access β} {g : Nat → Result β} (hf : ∀ byte, Gives (f byte) (g byte.toNat)) :
    Gives (do memory.seek address; let byte ← memory.readByte; f byte)
      (memory.numberAt 1 address >>= g) := by
  have htoNat : ∀ n < LittleEndian.capacity 1, (UInt8.ofNat n).toNat = n :=
    fun _ => UInt8.toNat_ofNat_of_lt'
  exact gives_word_bind h htoNat address hf

theorem gives_readUInt16_bind {β : Type} (h : memory.space.BuiltFrom described) (address : Nat)
    {f : UInt16 → Access β} {g : Nat → Result β}
    (hf : ∀ length, Gives (f length) (g length.toNat)) :
    Gives (do memory.seek address; let length ← memory.readUInt16; f length)
      (memory.numberAt 2 address >>= g) := by
  have htoNat : ∀ n < LittleEndian.capacity 2, (UInt16.ofNat n).toNat = n :=
    fun _ => UInt16.toNat_ofNat_of_lt'
  exact gives_word_bind h htoNat address hf

theorem gives_readPointerAt (h : memory.space.BuiltFrom described) (address : Nat) :
    Gives (memory.readPointerAt address) (memory.pointerAt address) := by
  unfold pointerAt numberAt
  rw [← pointerSize_eq]
  exact (gives_readExact h address _).bind_pair fun bs => gives_pure (LittleEndian.value bs)

theorem gives_fieldAddress (base offset : Nat) :
    Gives (fieldAddress base offset : Access Nat) (fieldAt base offset) :=
  fieldAddress_eq base offset ▸ gives_lift (fieldAddress base offset)

theorem gives_readPointerField (h : memory.space.BuiltFrom described) (base offset : Nat) :
    Gives (memory.readPointerField base offset) (memory.pointerField base offset) :=
  (gives_fieldAddress base offset).bind fun address => gives_readPointerAt h address

/-- The pointer of an empty string is not looked at by either of the two. -/
theorem gives_readCountedString (h : memory.space.BuiltFrom described)
    (offsets : FieldOffsets) (address : Nat) :
    Gives (memory.readCountedString offsets address) (memory.stringAt offsets address) := by
  refine gives_readUInt16_bind h address fun length => ?_
  have hzero : length.toNat = 0 ↔ length = 0 := UInt16.toNat_inj (b := 0)
  by_cases hlength : length = 0
  · rw [if_pos hlength, if_pos (hzero.mpr hlength)]
    exact gives_pure ""
  · rw [if_neg hlength, if_neg (mt hzero.mp hlength)]
    refine (gives_readPointerField h address offsets.stringBuffer).bind fun buffer => ?_
    exact (gives_readExact h buffer length.toNat).bind_pair fun bs => gives_lift (Utf16.decode bs)

theorem gives_readStringField (h : memory.space.BuiltFrom described)
    (offsets : FieldOffsets) (base offset : Nat) :
    Gives (memory.readStringField offsets base offset)
      (memory.stringField offsets base offset) :=
  (gives_fieldAddress base offset).bind fun address =>
    gives_readCountedString h offsets address

theorem environmentAt_of_region? {address : Nat} {region : Region}
    (hregion : memory.space.region? address = some region) :
    memory.environmentAt address = (do
      let block ← memory.bytesUpTo address (region.range.stop - address)
      EnvironmentBlock.decode block) := by
  unfold environmentAt
  rw [AddressSpace.locate?_of_region? hregion, bytesUpTo_of_region? hregion,
    show (region.placeOf address).available = region.range.stop - address from rfl, Nat.min_self]
  rfl

/-- A region has fewer bytes than there are addresses, so its rest is never too long. -/
theorem gives_readEnvironmentBlock (h : memory.space.BuiltFrom described) (address : Nat) :
    Gives (memory.readEnvironmentBlock address) (memory.environmentAt address) := by
  apply gives_seek_bind
  · intro hregion
    unfold environmentAt
    rw [AddressSpace.locate?_eq_none hregion]
  · intro region filePosition hregion
    obtain ⟨r, hr, -, -, hstop, -⟩ :=
      h.exists_of_locate? (AddressSpace.locate?_of_region? hregion)
    obtain rfl : region = r := Option.some.inj (hregion.symm.trans hr)
    -- the region ends below the limit, so this error is never raised
    have hshort : ¬ addressLimit ≤ region.range.stop - address := by omega
    rw [environmentAt_of_region? hregion]
    show ((if addressLimit ≤ region.range.stop - address then _
      else memory.read (region.range.stop - address) >>= _ : Access _).run.run _).1 = _
    rw [if_neg hshort]
    exact run_read_bind_placed h hregion _ filePosition fun block _ =>
      gives_lift (EnvironmentBlock.decode block)

/-! ## The walk -/

theorem gives_walk (h : memory.space.BuiltFrom described) (teb : Nat) :
    Gives (memory.walk teb) (memory.processAt teb) := by
  have hpointer := gives_readPointerField h
  have hstring := gives_readStringField h memory.offsets
  unfold walk
  rw [fieldOffsets_eq]
  refine (hpointer _ _).bind fun peb => ?_
  -- the flag is the only field that is not read by a step of its own
  refine (gives_fieldAddress _ _).bind fun flag => ?_
  refine gives_readByte_bind h flag fun debugged => ?_
  rw [toNat_bne_zero]
  refine (hpointer _ _).bind fun base => ?_
  refine (hpointer _ _).bind fun parameters => ?_
  refine (hstring _ _).bind fun imagePath => ?_
  refine (hstring _ _).bind fun commandLine => ?_
  refine (hstring _ _).bind fun windowTitle => ?_
  refine (hstring _ _).bind fun dllPath => ?_
  refine (hstring _ _).bind fun currentDirectory => ?_
  refine (hpointer _ _).bind fun standardInput => ?_
  refine (hpointer _ _).bind fun standardOutput => ?_
  refine (hpointer _ _).bind fun standardError => ?_
  refine (hpointer _ _).bind fun environment => ?_
  refine (gives_readEnvironmentBlock h environment).bind fun found => ?_
  exact gives_pure _

/-- **The walk has no memory.** In every address space that the memory lists make up, over
every file and from every TEB, the walk finds what the computation without a cursor finds,
and fails where that one fails. It does not matter where the cursor was before, in which
region, or where the file behind it was last read. -/
theorem walk_eq_processAt {memoryList : Option MemoryList} {memory64List : Option Memory64List}
    {space : AddressSpace} (h : AddressSpace.ofLists memoryList memory64List = .ok space)
    (image : Image) (teb : Nat) (cursor : VirtualCursor) :
    ((walk { space, image } teb).run.run cursor).1 = processAt { space, image } teb ∧
      ∀ found, ((walk { space, image } teb).run.run cursor).1 = .ok found ↔
        ∃ parameters block, Found { space, image } teb parameters block found := by
  obtain ⟨described, hbuilt⟩ := AddressSpace.exists_builtFrom_of_ofLists h
  have hwalk : ((walk { space, image } teb).run.run cursor).1 = processAt { space, image } teb :=
    gives_walk hbuilt teb cursor
  refine ⟨hwalk, fun found => ?_⟩
  rw [hwalk]
  exact processAt_eq_ok_iff

/-- A 32-bit process with all its structures in one region and no current directory, the
buffer of which is nowhere, and a 64-bit one with its strings and its environment in a second
region, right in front of the first one in the file. -/
theorem walk_eq_processAt_either_width :
    let zeros (length : Nat) : List UInt8 := List.replicate length 0
    let text (cs : List Char) : List UInt8 := cs.flatMap fun c => LittleEndian.bytes 2 c.toNat
    let pointer32 (address : Nat) : List UInt8 := LittleEndian.bytes 4 address
    let string32 (length buffer : Nat) : List UInt8 :=
      LittleEndian.bytes 4 length ++ pointer32 buffer
    let bs32 : List UInt8 :=
      zeros 0x30 ++ pointer32 0x1034
        ++ [0, 0, 1, 0] ++ zeros 4 ++ pointer32 0x400000 ++ zeros 4 ++ pointer32 0x1048
        ++ zeros 0x18 ++ pointer32 3 ++ pointer32 7 ++ pointer32 11 ++ string32 0 0xdead
        ++ zeros 4 ++ string32 2 0x10c8 ++ string32 4 0x10c0 ++ string32 6 0x10c0
        ++ pointer32 0x10ca ++ zeros 0x24 ++ string32 2 0x10c6
        ++ text ['a', 'b', 'c', 't', 'd', 'A', '=', 'b', '\x00', '\x00']
    let pointer64 (address : Nat) : List UInt8 := LittleEndian.bytes 8 address
    let string64 (length buffer : Nat) : List UInt8 :=
      LittleEndian.bytes 8 length ++ pointer64 buffer
    let bs64 : List UInt8 :=
      text ['a', 'b', 'c', 't', 'd', 'w', '=', 'C', '=', 'x', '\x00', '\x00']
        ++ zeros 0x60 ++ pointer64 0x7ff000000068
        ++ zeros 0x10 ++ pointer64 0x140000000 ++ zeros 8 ++ pointer64 0x7ff000000090
        ++ zeros 0x20 ++ pointer64 3 ++ pointer64 7 ++ pointer64 0x700000000
        ++ string64 2 0x100a ++ zeros 8 ++ string64 2 0x1008 ++ string64 4 0x1000
        ++ string64 6 0x1000 ++ pointer64 0x100c ++ zeros 0x28 ++ string64 2 0x1006
    (∃ space, AddressSpace.ofLists (some ⟨[⟨0x1000, ⟨0xd4, 0⟩⟩]⟩) none = .ok space ∧
      ∀ cursor, ((walk { space, image := ⟨⟨bs32.toArray⟩⟩ } 0x1000).run.run cursor).1 = .ok {
        pebAddress := 0x1034
        beingDebugged := true
        imageBaseAddress := 0x400000
        imagePath := "ab"
        commandLine := "abc"
        windowTitle := "t"
        dllPath := "d"
        currentDirectory := ""
        standardInput := 3
        standardOutput := 7
        standardError := 11
        environmentVariables := [⟨"A", "b"⟩]
      }) ∧
    ∃ space, AddressSpace.ofLists none
        (some ⟨0, [⟨0x1000, 0x18⟩, ⟨0x7ff000000000, 0x150⟩]⟩) = .ok space ∧
      ∀ cursor, ((walk { space, image := ⟨⟨bs64.toArray⟩⟩ } 0x7ff000000000).run.run cursor).1
        = .ok {
          pebAddress := 0x7ff000000068
          beingDebugged := false
          imageBaseAddress := 0x140000000
          imagePath := "ab"
          commandLine := "abc"
          windowTitle := "t"
          dllPath := "d"
          currentDirectory := "w"
          standardInput := 3
          standardOutput := 7
          standardError := 0x700000000
          environmentVariables := [⟨"=C", "x"⟩]
        } := by
  intro zeros text pointer32 string32 bs32 pointer64 string64 bs64
  have hspace32 : AddressSpace.ofLists (some ⟨[⟨0x1000, ⟨0xd4, 0⟩⟩]⟩) none
      = .ok { bitness := .bits32, regions := [⟨⟨0x1000, 0x10d4⟩, 0⟩] } := by
    decide
  have hspace64 : AddressSpace.ofLists none
      (some ⟨0, [⟨0x1000, 0x18⟩, ⟨0x7ff000000000, 0x150⟩]⟩)
        = .ok {
          bitness := .bits64
          regions := [⟨⟨0x1000, 0x1018⟩, 0⟩, ⟨⟨0x7ff000000000, 0x7ff000000150⟩, 0x18⟩]
        } := by
    decide
  constructor
  · refine ⟨_, hspace32, fun cursor => (walk_eq_processAt hspace32 _ 0x1000 cursor).1.trans ?_⟩
    decide +kernel
  · refine ⟨_, hspace64, fun cursor =>
      (walk_eq_processAt hspace64 _ 0x7ff000000000 cursor).1.trans ?_⟩
    decide +kernel

end ProcessMemory

end Minidump
