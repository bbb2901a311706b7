import Minidump.Text.Number
import Minidump.Address.Range

/-!
# Command line arguments

The arguments name one dump and say which parts of it to show. Switches are on or off;
settings take a value, either in the same argument or as the next one.

- `Switch`, `Setting` — the options, with their long and short names;
- `Item`, `Item.ofArguments?` — the arguments taken apart;
- `Arguments`, `Arguments.parse?` — what is to be done, or nothing if the arguments are
  refused: an unknown option, an option given twice, a value that is missing or no value
  of its setting, no dump or more than one.
-/

namespace Minidump

namespace CommandLine

/-- The options without a value. -/
inductive Switch where
  | all
  | modules
  | memoryMap
  | process
  | environment
  | summary
deriving DecidableEq

/-- The options with a value. -/
inductive Setting where
  | threads
  | dump
  | length
  | reader
deriving DecidableEq

/-- An option by its name. -/
inductive Name where
  | switch (s : Switch)
  | setting (s : Setting)
deriving DecidableEq

/-- The option with a long name. -/
def Name.ofLong? : String → Option Name
  | "all" => some (.switch .all)
  | "modules" => some (.switch .modules)
  | "mem" => some (.switch .memoryMap)
  | "peb" => some (.switch .process)
  | "env" => some (.switch .environment)
  | "summary" => some (.switch .summary)
  | "threads" => some (.setting .threads)
  | "dump" => some (.setting .dump)
  | "len" => some (.setting .length)
  | "reader" => some (.setting .reader)
  | _ => none

/-- The option with a short name. The memory map has none. -/
def Name.ofShort? : Char → Option Name
  | 'a' => some (.switch .all)
  | 'm' => some (.switch .modules)
  | 'p' => some (.switch .process)
  | 'e' => some (.switch .environment)
  | 's' => some (.switch .summary)
  | 't' => some (.setting .threads)
  | 'd' => some (.setting .dump)
  | 'l' => some (.setting .length)
  | 'r' => some (.setting .reader)
  | _ => none

/-- A piece of the command line. -/
inductive Item where
  | on (switch : Switch)
  | value (setting : Setting) (text : Option String)
  | path (text : String)
deriving DecidableEq

/-- The items of one argument and the setting that still waits for its value. -/
abbrev Items := List Item × Option Setting

namespace Item

/-- The items of an option with a long name, with or without `=` and a value. Switches
take no value. -/
def ofLong? (argument : List Char) : Option Items :=
  let name := String.ofList (argument.takeWhile (· ≠ '='))
  match Name.ofLong? name, argument.dropWhile (· ≠ '=') with
  | some (.switch s), [] => some ([.on s], none)
  | some (.setting s), [] => some ([], some s)
  | some (.setting s), _ :: text => some ([.value s (some (String.ofList text))], none)
  | _, _ => none

/-- The items of a group of short names. The first setting takes what follows as its
value, without a leading `=`. -/
def ofShort? : List Char → Option Items
  | [] => some ([], none)
  | c :: rest =>
    match Name.ofShort? c, rest with
    | some (.switch s), _ => (ofShort? rest).map fun (items, waiting) => (.on s :: items, waiting)
    | some (.setting s), [] => some ([], some s)
    | some (.setting s), '=' :: text => some ([.value s (some (String.ofList text))], none)
    | some (.setting s), text => some ([.value s (some (String.ofList text))], none)
    | none, _ => none

/-- A setting that waited in vain for a value. -/
def unanswered (waiting : Option Setting) : List Item :=
  waiting.toList.map fun s => .value s none

/-- Takes arguments apart while a setting may wait for its value. An argument that starts
with a dash is an option and no value, unless it is a dash alone; after two dashes alone
there are only paths. -/
def takeApart? (waiting : Option Setting) : List String → Option (List Item)
  | [] => some (unanswered waiting)
  | argument :: rest =>
    match argument.toList with
    | ['-', '-'] => some (unanswered waiting ++ rest.map .path)
    | '-' :: '-' :: name => do
      let (items, next) ← ofLong? name
      let others ← takeApart? next rest
      some (unanswered waiting ++ items ++ others)
    | '-' :: c :: names => do
      let (items, next) ← ofShort? (c :: names)
      let others ← takeApart? next rest
      some (unanswered waiting ++ items ++ others)
    | _ => do
      let others ← takeApart? none rest
      match waiting with
      | some s => some (.value s (some argument) :: others)
      | none => some (.path argument :: others)

/-- The items of a command line. -/
def ofArguments? (arguments : List String) : Option (List Item) :=
  takeApart? none arguments

end Item

/-- How a dump is read; what is shown does not depend on it. -/
inductive Reader where
  | mapped
  | buffered
deriving DecidableEq

/-- What is to be shown of which dump. -/
structure Arguments where
  path : Option String := none
  switches : List Switch := []
  threads : Option String := none
  dump : Option Nat := none
  length : Option Nat := none
  reader : Option Reader := none
deriving DecidableEq

namespace Arguments

/-- A text without the markers `0x` that it starts with, however many they are. -/
def withoutMarkers : List Char → List Char
  | '0' :: 'x' :: rest => withoutMarkers rest
  | text => text

/-- A hexadecimal address below 2⁶⁴. -/
def address? (text : String) : Option Nat :=
  (Text.parseNumber 16 addressLimit (String.ofList (withoutMarkers text.toList))).toOption

/-- A decimal number of bytes below 2⁶⁴. -/
def byteCount? (text : String) : Option Nat :=
  (Text.parseNumber 10 addressLimit text).toOption

/-- A way to read a dump. -/
def reader? : String → Option Reader
  | "mmap" => some .mapped
  | "file" => some .buffered
  | _ => none

/-- Sets what has not been set before. -/
def setOnce? {α : Type} (old : Option α) (new : Option α) : Option (Option α) :=
  match old, new with
  | none, some a => some (some a)
  | _, _ => none

/-- Adds an item. Threads are the only setting that has a meaning without a value. -/
def add? (arguments : Arguments) : Item → Option Arguments
  | .on s =>
    if s ∈ arguments.switches then none
    else some { arguments with switches := s :: arguments.switches }
  | .path text => do
    let path ← setOnce? arguments.path (if text.isEmpty then none else some text)
    some { arguments with path }
  | .value .threads text => do
    let threads ← setOnce? arguments.threads (some (text.getD "all"))
    some { arguments with threads }
  | .value .dump text => do
    let dump ← setOnce? arguments.dump (text.bind address?)
    some { arguments with dump }
  | .value .length text => do
    let length ← setOnce? arguments.length (text.bind byteCount?)
    some { arguments with length }
  | .value .reader text => do
    let reader ← setOnce? arguments.reader (text.bind reader?)
    some { arguments with reader }

/-- What the arguments ask for, and the dump that they name. -/
def parse? (arguments : List String) : Option (String × Arguments) := do
  let items ← Item.ofArguments? arguments
  let parsed ← items.foldlM add? {}
  let path ← parsed.path
  some (path, parsed)

/-- A part is shown if it or everything is asked for. -/
def wants (arguments : Arguments) (switch : Switch) : Bool :=
  switch ∈ arguments.switches || Switch.all ∈ arguments.switches

/-- The threads to be shown, if any are asked for. -/
def wantedThreads? (arguments : Arguments) : Option String :=
  arguments.threads <|> if arguments.wants .all then some "all" else none

/-- How many bytes of memory to show. -/
def wantedLength (arguments : Arguments) : Nat :=
  arguments.length.getD 256

end Arguments

end CommandLine

end Minidump
