import Minidump.CommandLine.Arguments
import Minidump.Dump.Parse
import Minidump.Report.Context
import Minidump.Report.HexDump
import Minidump.Report.Summary

/-!
# What the program shows

A report is put together from the parts that are asked for, in a fixed order. A part that
fails ends the report; what was shown before it stays.

- `Failure`, `Failure.text` — what failed and why;
- `Report`, `Report.andThen` — what is shown, up to a failure;
- `moduleList`, `memoryMap`, `threadList`, `memoryDump`, … — the parts;
- `Report.ofFile` — the report on a file, which may not be there.
-/

namespace Minidump

namespace CommandLine

open Text

/-- What failed and why, the nearest cause first. -/
structure Failure where
  context : String
  causes : List String
deriving DecidableEq

/-- The text of a failure. Several causes are numbered. -/
def Failure.text (failure : Failure) : String :=
  let causes := match failure.causes with
    | [] => ""
    | [cause] => "\nCaused by:\n" ++ line ("    " ++ cause)
    | causes => "\nCaused by:\n" ++ lines (causes.mapIdx fun i cause =>
        "    " ++ toString i ++ ": " ++ cause)
  line ("Error: " ++ failure.context) ++ causes

/-- The causes of an error: its text, then what the operating system says. -/
def causesOf : Error → List String
  | .fileNotFound => [Error.fileNotFound.message, Error.fileNotFoundText]
  | cause => [cause.message]

/-- What is shown, and the failure that ended it. -/
structure Report where
  output : String
  failure : Option Failure := none
deriving DecidableEq

namespace Report

/-- A report that goes on with another one unless it has failed. -/
def andThen (first second : Report) : Report :=
  match first.failure with
  | some _ => first
  | none => { output := first.output ++ second.output, failure := second.failure }

/-- Reports one after the other, up to the first that fails. -/
def sequence (reports : List Report) : Report :=
  reports.foldl andThen { output := "" }

end Report

/-- The loaded modules. -/
def moduleList (dump : Dump) : String :=
  lines ("Loaded modules:" :: dump.modules.map fun m =>
    hexPadded 16 m.range.start ++ ": " ++ m.path)

/-- A region, with the module that is mapped at its start. -/
def regionLine (dump : Dump) (region : Region) : String :=
  let range := region.range
  let mapped := (dump.moduleAt? range.start).elim "" fun m =>
    " [" ++ m.fileName ++ "; \"" ++ m.path ++ "\"]"
  hexPadded 16 range.start ++ " " ++ hexPadded 16 range.stop ++ " "
    ++ hexPadded 16 range.length ++ " @" ++ hex region.offset ++ mapped

/-- State and protection of an address range. -/
def memoryInfoLine (info : MemoryInfo) : String :=
  hexPadded 16 info.baseAddress.toNat ++ " " ++ hexPadded 16 info.regionSize.toNat
    ++ " state:" ++ hex info.state.toNat ++ " type:" ++ hex info.kind.toNat
    ++ " protect:" ++ hex info.protect.toNat

/-- The regions of the address space, and what the dump says about address ranges. -/
def memoryMap (dump : Dump) : String :=
  let regions := dump.addressSpace.elim [] (·.regions)
  let infos := dump.memoryInfo.elim [] fun infos =>
    "Memory info:" :: infos.map memoryInfoLine
  lines ("Memory map:" :: regions.map (regionLine dump) ++ infos)

/-- A thread and its registers. -/
def threadText (thread : Thread) : String :=
  let registers := match thread.context with
    | some context => ["Context:", context.text]
    | none => ["No context"]
  lines (("TID " ++ toString thread.id.toNat ++ ", TEB " ++ hexPadded 16 thread.teb.toNat)
    :: registers)

/-- The identity of the one thread that is asked for, or none for all threads: `main` is
the thread that raised the exception. -/
def wantedThread (dump : Dump) (wanted : String) : Except Failure (Option Nat) :=
  if wanted = "all" then .ok none
  else if wanted = "main" then
    match dump.foregroundThread? with
    | some id => .ok (some id.toNat)
    | none => .error { context := "no foreground thread id in dump", causes := [] }
  else match parseNumber 10 UInt32.size wanted with
    | .ok id => .ok (some id)
    | .error cause =>
      .error { context := wanted ++ " is not a TID", causes := [cause.message] }

/-- The threads that are asked for. -/
def threadList (dump : Dump) (wanted : String) : Report :=
  let title := line "Threads:"
  match wantedThread dump wanted with
  | .error failure => { output := title, failure := some failure }
  | .ok none => { output := title ++ String.join (dump.threads.map threadText) }
  | .ok (some id) =>
    let threads := dump.threads.filter fun thread => thread.id.toNat = id
    { output := title ++ String.join (threads.map threadText) }

/-- What the process knows about itself. -/
def processText (dump : Dump) : String :=
  dump.environment.elim (line "No PEB") ProcessEnvironment.text

/-- The environment variables. -/
def variableList (dump : Dump) : String :=
  let shown := dump.environment.elim [] (·.environmentVariables)
  lines ("Environment:" :: shown.map fun v => "  " ++ v.text)

/-- The memory at an address. -/
def memoryDump (dump : Dump) (image : Image) (address length : Nat) : Report :=
  let title := line "Memory:"
  match dump.readVirtual image address length with
  | .ok data =>
    let extent := hexPadded 16 address ++ " -> " ++ hexPadded 16 (address + data.length)
    { output := title ++ line extent ++ HexDump.text address data }
  | .error cause =>
    let context := "failed to read memory at " ++ hexPadded 16 address
    { output := title, failure := some { context, causes := causesOf cause } }

namespace Report

/-- A part that cannot fail and is shown if it is asked for. -/
def part (wanted : Bool) (output : String) : Report :=
  { output := if wanted then output else "" }

/-- The report on a parsed dump. -/
def ofDump (arguments : Arguments) (image : Image) (dump : Dump) : Report :=
  sequence [
    part (arguments.wants .summary) dump.summary,
    part (arguments.wants .modules) (moduleList dump),
    part (arguments.wants .memoryMap) (memoryMap dump),
    (arguments.wantedThreads?).elim { output := "" } (threadList dump),
    part (arguments.wants .process) (processText dump),
    part (arguments.wants .environment) (variableList dump),
    arguments.dump.elim { output := "" } fun address =>
      memoryDump dump image address arguments.wantedLength]

/-- The report on a file that may not be there. -/
def ofFile (path : String) (arguments : Arguments) (file : Option Image) : Report :=
  let parsed : Result Report :=
    match file with
    | none => .error .fileNotFound
    | some image => ofDump arguments image <$> Dump.ofImage image
  match parsed with
  | .ok report => report
  | .error cause =>
    let context := "failed to parse " ++ path
    { output := "", failure := some { context, causes := causesOf cause } }

end Report

end CommandLine

end Minidump
