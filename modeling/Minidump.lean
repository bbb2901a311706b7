import Minidump.Main
import Minidump.Proofs.Gives
import Minidump.Proofs.Scan
import Minidump.Proofs.Parse
import Minidump.Proofs.Walk
import Minidump.Proofs.LastDecoded
import Minidump.Proofs.VirtualReads
import Minidump.Proofs.Acceptance
import Minidump.Proofs.Correspondence
import Minidump.Proofs.Diagnostics
import Minidump.Proofs.Failure
import Minidump.Proofs.Extension
import Minidump.Proofs.Recovery
import Minidump.Proofs.MoreMemory
import Minidump.Proofs.Registers
import Minidump.Proofs.CursorRuns
import Minidump.Proofs.StoredText
import Minidump.Proofs.EnvironmentGrammar
import Minidump.Proofs.EnvironmentPrefix
import Minidump.Proofs.RecordReads
import Minidump.Proofs.SequentialLists
import Minidump.Proofs.TableLayouts
import Minidump.Proofs.StreamWindows
import Minidump.Proofs.DeclaredSizes
import Minidump.Proofs.Refusals
import Minidump.Proofs.SplitReads
import Minidump.Proofs.ListOffsets
import Minidump.Proofs.CursorBounds
import Minidump.Proofs.AddressArithmetic
import Minidump.Proofs.Comments
import Minidump.Proofs.RecordRuns
import Minidump.Proofs.HexNumbers
import Minidump.Proofs.MemoryDump
