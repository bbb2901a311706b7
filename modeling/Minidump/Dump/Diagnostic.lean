import Minidump.Dump.Content

/-!
# What went wrong without stopping the parse

Only a bad header or directory makes a parse fail. Everything else that goes wrong is
recorded with its cause, and the rest of the dump is still decoded.

- `Diagnostic` — one constructor for each part of a dump that can be missing;
- `Diagnostic.ofStream` — the diagnostic of a stream that was not decoded;
- `Diagnostic.text` — the text of a diagnostic.
-/

namespace Minidump

/-- A part of a dump that could not be decoded. -/
inductive Diagnostic where
  /-- The directory has a code without a kind, as streams that users define have. -/
  | unknownStream (code : UInt32) (location : Location)
  /-- The directory has a kind that is not decoded. -/
  | unsupportedStream (kind : StreamKind) (location : Location)
  /-- A stream could not be decoded. -/
  | stream (kind : StreamKind) (cause : Error)
  /-- The registers of a thread could not be decoded. -/
  | threadContext (thread : UInt32) (cause : Error)
  /-- The memory lists do not make up an address space. -/
  | addressSpace (cause : Error)
  /-- The walk from the first thread's TEB failed. -/
  | processEnvironment (cause : Error)
deriving DecidableEq

open Text

/-- A location as shown in reports: hexadecimal offset, decimal size. -/
def Location.text (location : Location) : String :=
  "@" ++ hex location.offset.toNat ++ " Size: " ++ toString location.size.toNat

namespace Diagnostic

/-- The diagnostic of a stream that was not decoded. -/
def ofStream (directory : Directory) : Error → Diagnostic
  | .unsupportedStream kind => .unsupportedStream kind directory.location
  | cause => .stream directory.kind cause

/-- The text of a diagnostic. -/
def text : Diagnostic → String
  | unknownStream code location =>
    let origin := if StreamKind.lastReservedCode < code then "user" else "unknown"
    origin ++ " stream " ++ hexTagged code.toNat ++ " " ++ location.text
  | unsupportedStream kind location => kind.name ++ " " ++ location.text ++ " is not decoded"
  | stream kind cause => kind.name ++ " couldn't be decoded: " ++ cause.message
  | threadContext thread cause =>
    "the context of TID " ++ toString thread.toNat ++ " couldn't be decoded: " ++ cause.message
  | addressSpace cause => "no address space: " ++ cause.message
  | processEnvironment cause => "no PEB: " ++ cause.message

end Diagnostic

end Minidump
