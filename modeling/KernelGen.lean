import KernelGen.Kernel.Read
import KernelGen.Main
import KernelGen.Proofs.Files.Ancestors
import KernelGen.Proofs.Files.Walk
import KernelGen.Proofs.Files.Growth
import KernelGen.Proofs.Generation.Agreement
import KernelGen.Proofs.Generation.DryRun
import KernelGen.Proofs.Generation.Success
import KernelGen.Proofs.Generation.Failure
import KernelGen.Proofs.Generation.Linked
import KernelGen.Proofs.Standard.Prototype
import KernelGen.Proofs.Standard.Calls
import KernelGen.Proofs.Standard.ReadBack
import KernelGen.Proofs.Generation.Overrides
import KernelGen.Proofs.Generation.Again
import KernelGen.Proofs.Generation.Commute
import KernelGen.Proofs.Output.Record
import KernelGen.Proofs.CommandLine.Precedence
import KernelGen.Proofs.Generation.Sequence
import KernelGen.Proofs.Text.Counts
import KernelGen.Proofs.Standard.Splits
import KernelGen.Proofs.Generation.Selection
import KernelGen.Proofs.Generation.Verbatim
import KernelGen.Proofs.Output.Contents
import KernelGen.Proofs.Standard.Cycles
import KernelGen.Proofs.Output.Directories
import KernelGen.Proofs.Manifest.Location
import KernelGen.Proofs.Manifest.Notation
import KernelGen.Proofs.Log.FirstRequest
