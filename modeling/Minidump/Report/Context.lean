import Minidump.Architecture
import Minidump.Text.Lines

/-!
# Registers as text

- `ContextX86.text`, `ContextX64.text` — the registers of a thread in the order and
  groups that debuggers show; no line break at the end;
- `ThreadContext.text` — either of them.
-/

namespace Minidump

open Text

/-- The segment registers and the flags in one line. -/
def segmentLine (cs ss ds es fs gs eflags : Nat) : String :=
  "cs=" ++ hexPadded 4 cs ++ "  ss=" ++ hexPadded 4 ss ++ "  ds=" ++ hexPadded 4 ds
    ++ "  es=" ++ hexPadded 4 es ++ "  fs=" ++ hexPadded 4 fs ++ " gs=" ++ hexPadded 4 gs
    ++ "              efl=" ++ hexPadded 8 eflags

/-- Named registers in one line, each padded to a number of digits. -/
def registerLine (width : Nat) (registers : List (String × Nat)) : String :=
  " ".intercalate (registers.map fun (name, value) => name ++ "=" ++ hexPadded width value)

/-- Two neighbours of a list of wide registers, with a gap between them. -/
def wideLine (label : Nat → String) (gap : String) (registers : List (BitVec 128))
    (row : Nat) : String :=
  let column (i : Nat) := label i ++ "=" ++ hexPadded 32 (registers.getD i 0).toNat
  column (2 * row) ++ gap ++ column (2 * row + 1)

/-- Two neighbouring registers of the floating-point stack in one line. -/
def stackLine (registers : List (BitVec 128)) (row : Nat) : String :=
  "  " ++ wideLine (fun i => "st" ++ toString i) "       " registers row

/-- Two neighbouring vector registers in one line. -/
def vectorLine (registers : List (BitVec 128)) (row : Nat) : String :=
  wideLine (fun i => leftPad 5 ("xmm" ++ toString i)) "     " registers row

/-- The registers of a 32-bit thread. -/
def ContextX86.text (context : ContextX86) : String :=
  let general := context.general
  let control := context.control
  "\n".intercalate [
    registerLine 8 [("eax", general.eax.toNat), ("ebx", general.ebx.toNat),
      ("ecx", general.ecx.toNat), ("edx", general.edx.toNat), ("esi", general.esi.toNat),
      ("edi", general.edi.toNat)],
    registerLine 8 [("eip", control.eip.toNat), ("esp", control.esp.toNat),
      ("ebp", control.ebp.toNat)],
    segmentLine control.cs.toNat control.ss.toNat general.ds.toNat general.es.toNat
      general.fs.toNat general.gs.toNat control.eflags.toNat]

/-- The registers of a 64-bit thread. -/
def ContextX64.text (context : ContextX64) : String :=
  let general := context.general
  let segments := context.segments
  let float := context.float
  "\n".intercalate <| [
    registerLine 16 [("rax", general.rax.toNat), ("rbx", general.rbx.toNat),
      ("rcx", general.rcx.toNat)],
    registerLine 16 [("rdx", general.rdx.toNat), ("rsi", general.rsi.toNat),
      ("rdi", general.rdi.toNat)],
    registerLine 16 [("rip", general.rip.toNat), ("rsp", general.rsp.toNat),
      ("rbp", general.rbp.toNat)],
    registerLine 16 [(" r8", general.r8.toNat), (" r9", general.r9.toNat),
      ("r10", general.r10.toNat)],
    registerLine 16 [("r11", general.r11.toNat), ("r12", general.r12.toNat),
      ("r13", general.r13.toNat)],
    registerLine 16 [("r14", general.r14.toNat), ("r15", general.r15.toNat)],
    segmentLine segments.cs.toNat segments.ss.toNat segments.ds.toNat segments.es.toNat
      segments.fs.toNat segments.gs.toNat context.eflags.toNat,
    "fpcw=" ++ hexPadded 4 float.controlWord.toNat ++ "    fpsw="
      ++ hexPadded 4 float.statusWord.toNat ++ "    fptw=" ++ hexPadded 4 float.tagWord.toNat]
    ++ (List.range 4).map (stackLine float.floatRegisters.toList)
    ++ (List.range 8).map (vectorLine float.xmm.toList)

/-- The registers of a thread. -/
def ThreadContext.text : ThreadContext → String
  | x86 context => context.text
  | x64 context => context.text

end Minidump
