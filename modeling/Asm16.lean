import Asm16.Main
import Asm16.Proofs.CommandLine.Report
import Asm16.Proofs.Machine.Atomic
import Asm16.Proofs.Machine.Signature
import Asm16.Proofs.Memory.Ledger
import Asm16.Proofs.Run.Abort
import Asm16.Proofs.Run.Numbering
import Asm16.Proofs.Run.Pace
import Asm16.Proofs.Run.Padding
import Asm16.Proofs.Run.Script
import Asm16.Proofs.Run.Stop
import Asm16.Proofs.Run.Trail
import Asm16.Proofs.Run.WellFormed
import Asm16.Proofs.Machine.Effect
import Asm16.Proofs.Machine.Arithmetic
import Asm16.Proofs.Machine.Immediate
import Asm16.Proofs.Machine.Stack
import Asm16.Proofs.Program.Layout
import Asm16.Proofs.Program.Literal
import Asm16.Proofs.Machine.Character
import Asm16.Proofs.Machine.Journal
import Asm16.Proofs.Run.Frame
import Asm16.Proofs.Machine.Accumulator
import Asm16.Proofs.Run.Labels
import Asm16.Proofs.Machine.LetterCase
import Asm16.Proofs.Run.Counters
import Asm16.Proofs.Run.Snapshot
import Asm16.Proofs.Memory.Panel
import Asm16.Proofs.Memory.Dump
import Asm16.Proofs.CommandLine.Usable
import Asm16.Proofs.Program.Agreement
import Asm16.Proofs.Numeral.Percentage
