import Minidump.CommandLine.Report

/-!
# The program

Reads the dump that the arguments name and prints the report on it.
-/

namespace Minidump

namespace CommandLine

/-- How to call the program. -/
def usage : String :=
  "usage: minidump [-a] [-m] [--mem] [-t [TID]] [-p] [-e] [-s] [-d ADDRESS] [-l COUNT] "
    ++ "[-r mmap|file] DUMP"

/-- The bytes of a file, if there is one with the given path. -/
def readImage? (path : String) : IO (Option Image) := do
  try
    let bytes ← IO.FS.readBinFile path
    return some { bytes }
  catch
    | .noFileOrDirectory .. => return none
    | cause => throw cause

/-- Prints a report and gives the exit code. -/
def printReport (report : Report) : IO UInt32 := do
  IO.print report.output
  match report.failure with
  | none => return 0
  | some failure =>
    IO.eprint failure.text
    return 1

end CommandLine

end Minidump

open Minidump.CommandLine in
/-- Prints the report on the dump that the arguments name. -/
def main (arguments : List String) : IO UInt32 := do
  match Arguments.parse? arguments with
  | none =>
    IO.eprintln usage
    return 2
  | some (path, parsed) =>
    let file ← readImage? path
    printReport (Report.ofFile path parsed file)
