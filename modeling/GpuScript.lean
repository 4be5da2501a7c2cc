import GpuScript.Buffer.Comparison
import GpuScript.Document.Fault
import GpuScript.Document.Inventory
import GpuScript.Main
import GpuScript.Pipeline.Validation
import GpuScript.Proofs.Section.Locality
import GpuScript.Proofs.Section.Cut
import GpuScript.Proofs.Edit
import GpuScript.Proofs.Except
import GpuScript.Proofs.Section.Faults
import GpuScript.Proofs.Section.Operations
import GpuScript.Proofs.Section.Frame
import GpuScript.Proofs.Section.Commands
import GpuScript.Proofs.Section.Execution
import GpuScript.Proofs.Section.Composition
import GpuScript.Proofs.Section.Failure
import GpuScript.Proofs.Section.Inversion
import GpuScript.Proofs.Section.Parts
import GpuScript.Proofs.Section.Steps
import GpuScript.Proofs.Buffer.Sizes
import GpuScript.Proofs.Section.Buffers
import GpuScript.Proofs.Section.Outcomes
import GpuScript.Proofs.Section.Recordings
import GpuScript.Proofs.Section.Lines
import GpuScript.Proofs.Buffer.History
import GpuScript.Proofs.Section.MaxSizes
import GpuScript.Proofs.Section.Slots
import GpuScript.Proofs.Raster.Field
import GpuScript.Proofs.Section.Formats
import GpuScript.Proofs.Section.Reading
import GpuScript.Proofs.Section.Settings
import GpuScript.Proofs.Section.States
import GpuScript.Proofs.Section.Literals
import GpuScript.Proofs.Section.Numerals
import GpuScript.Proofs.Section.Truncation
import GpuScript.Proofs.Section.Sources
import GpuScript.Proofs.Section.Respacing
import GpuScript.Proofs.Format.Rows
import GpuScript.Proofs.Section.Filling
import GpuScript.Proofs.Pipeline.Completeness
import GpuScript.Proofs.Pipeline.Finality
import GpuScript.Proofs.Buffer.Outline
import GpuScript.Proofs.Pipeline.Storage
import GpuScript.Proofs.Pipeline.Copies
import GpuScript.Proofs.Pipeline.Bindings
import GpuScript.Proofs.Script.Catalog
import GpuScript.Proofs.Script.Copies
import GpuScript.Proofs.Section.Upkeep
import GpuScript.Proofs.Script.Names
import GpuScript.Proofs.Script.Preparation
import GpuScript.Proofs.Bits.Field
import GpuScript.Proofs.Buffer.Writing
import GpuScript.Proofs.Buffer.Layers
import GpuScript.Proofs.Pipeline.Storing
import GpuScript.Proofs.Pipeline.Arguments
import GpuScript.Proofs.Pipeline.ArgumentCopies
import GpuScript.Proofs.Pipeline.Encoding
import GpuScript.Proofs.Buffer.Rewriting
import GpuScript.Proofs.Pipeline.Replay
import GpuScript.Proofs.Pipeline.Placing
import GpuScript.Proofs.Pipeline.Preparation
import GpuScript.Proofs.Format.Readers
import GpuScript.Proofs.Pipeline.Resolution
import GpuScript.Proofs.Pipeline.Agreement
import GpuScript.Proofs.Format.Names
import GpuScript.Proofs.Format.Rereading
import GpuScript.Proofs.Buffer.Marks
import GpuScript.Proofs.Buffer.Failure
import GpuScript.Proofs.Buffer.Accrual
import GpuScript.Proofs.Section.Traces
import GpuScript.Proofs.Bits.Storing
import GpuScript.Proofs.Bits.Reading
import GpuScript.Proofs.Buffer.Elements
import GpuScript.Proofs.Script.Uniqueness
import GpuScript.Proofs.Script.MadeBuffers
import GpuScript.Proofs.Script.Jobs
import GpuScript.Proofs.Bits.SmallFloat
import GpuScript.Proofs.Buffer.Components
import GpuScript.Proofs.Buffer.Equality
import GpuScript.Proofs.Section.Quoting
import GpuScript.Proofs.Section.Decimals
import GpuScript.Proofs.Section.Suffixes
import GpuScript.Proofs.Section.ProbeGrammar
import GpuScript.Proofs.Section.Probes
import GpuScript.Proofs.Format.Grammar
import GpuScript.Proofs.Pipeline.Resizing
import GpuScript.Proofs.Section.Tolerances
import GpuScript.Proofs.Section.FloatLiterals
import GpuScript.Proofs.Pipeline.Replacement
import GpuScript.Proofs.Pipeline.Rebinding
import GpuScript.Proofs.Pipeline.PartialResizing
import GpuScript.Proofs.Pipeline.PushConstants
import GpuScript.Proofs.Format.Sizes
import GpuScript.Proofs.Buffer.Copying
import GpuScript.Proofs.Buffer.Histograms
