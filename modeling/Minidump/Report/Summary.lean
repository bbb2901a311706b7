import Minidump.Dump.Basic
import Minidump.Text.Lines

/-!
# The summary of a dump

Each part of a dump has a text of its own; the summary puts header, system information,
directory, modules, memory lists and diagnostics one below the other.

- `Header.text`, `SystemInfo.text`, `Directory.text`, `Module.text`,
  `ProcessEnvironment.text` — the texts of the parts;
- `Dump.summary` — the whole.
-/

namespace Minidump

open Text

/-- The header. -/
def Header.text (header : Header) : String :=
  lines [
    "== Header ==",
    "Signature:          " ++ hexPadded 8 header.signature.toNat,
    "Version:            " ++ hexPadded 4 header.version.toNat ++ " ("
      ++ hexPadded 4 header.implementationVersion.toNat ++ ")",
    "NumberOfStreams:    " ++ toString header.streamCount.toNat,
    "StreamDirectoryRva: " ++ hexPadded 8 header.directoryOffset.toNat,
    "TimeDateStamp:      " ++ hexPadded 8 header.timestamp.toNat,
    "Flags:              " ++ hexPadded 16 header.flags.toNat]

/-- The system information. -/
def SystemInfo.text (info : SystemInfo) : String :=
  let record := info.record
  lines [
    "== System Info ==",
    "ProcessorArchitecture: " ++ info.architectureName ++ " ("
      ++ toString record.architecture.toNat ++ ")",
    "ProcessorLevel:        " ++ toString record.processorLevel.toNat,
    "ProcessorRevision:     " ++ hexPadded 4 record.processorRevision.toNat,
    "NumberOfProcessors:    " ++ toString record.processorCount.toNat,
    "ProductType:           " ++ toString record.productType.toNat,
    "Version:               " ++ toString record.majorVersion.toNat ++ "."
      ++ toString record.minorVersion.toNat ++ "." ++ toString record.buildNumber.toNat,
    "PlatformId:            " ++ toString record.platformId.toNat,
    "CSDVersion:            " ++ info.servicePack]

/-- A directory entry. -/
def Directory.text (directory : Directory) : String :=
  directory.kind.name ++ " " ++ directory.location.text

/-- A module. -/
def Module.text (m : Module) : String :=
  hexPadded 16 m.range.start ++ " " ++ hexPadded 16 m.range.stop ++ " "
    ++ hexPadded 8 m.checksum.toNat ++ " " ++ hexPadded 8 m.timestamp.toNat ++ " " ++ m.path

/-- A range of the memory list. -/
def MemoryDescriptor.text (d : MemoryDescriptor) : String :=
  hexPadded 16 d.start.toNat ++ " " ++ hexPadded 16 d.location.size.toNat ++ " @"
    ++ hex d.location.offset.toNat

/-- A range of the 64-bit memory list. -/
def MemoryDescriptor64.text (d : MemoryDescriptor64) : String :=
  hexPadded 16 d.start.toNat ++ " " ++ hexPadded 16 d.size.toNat

/-- What a process knows about itself. There is no line break at the end. -/
def ProcessEnvironment.text (environment : ProcessEnvironment) : String :=
  lines [
    "PEB:               " ++ hexPadded 16 environment.pebAddress,
    "BeingDebugged:     " ++ toString environment.beingDebugged,
    "ImageBaseAddress:  " ++ hexPadded 16 environment.imageBaseAddress,
    "ImagePath:         " ++ environment.imagePath,
    "CommandLine:       " ++ environment.commandLine,
    "WindowTitle:       " ++ environment.windowTitle,
    "DllPath:           " ++ environment.dllPath,
    "CurrentDirectory:  " ++ environment.currentDirectory,
    "StdIn/Out/Err:     " ++ hex environment.standardInput ++ " "
      ++ hex environment.standardOutput ++ " " ++ hex environment.standardError]
    ++ "Environment:       " ++ toString environment.environmentVariables.length ++ " variables"

/-- The summary of a dump. -/
def Dump.summary (dump : Dump) : String :=
  let memory := dump.memoryList.elim [] fun list =>
    "== Memory ==" :: list.ranges.map MemoryDescriptor.text
  let memory64 := dump.memory64List.elim [] fun list =>
    "== Memory64 ==" :: list.ranges.map MemoryDescriptor64.text
  line "== Minidump File ==" ++ dump.header.text ++ dump.systemInfo.elim "" SystemInfo.text
    ++ lines ("== Directories ==" :: dump.directories.map Directory.text
      ++ "== Modules ==" :: dump.modules.map Module.text
      ++ memory ++ memory64
      ++ dump.diagnostics.map fun d => "! " ++ d.text)

end Minidump
