import CardMachine.Catalog.BuiltIn
import CardMachine.Check.Refuse
import CardMachine.Command.Report
import CardMachine.Files.Tree
import CardMachine.Format.Reader
import CardMachine.Format.Writer
import CardMachine.Json.Forms
import CardMachine.Json.Layout
import CardMachine.Json.Read
import CardMachine.Machine.Run
import CardMachine.Main
import CardMachine.Proofs.KeyMap
import CardMachine.Proofs.Machine.Runs
import CardMachine.Proofs.Machine.History
import CardMachine.Proofs.Machine.Looping
import CardMachine.Proofs.Machine.Walk
import CardMachine.Proofs.Machine.Budget
import CardMachine.Proofs.Machine.Safety
import CardMachine.Proofs.Machine.Preview
import CardMachine.Proofs.Machine.Simulation
import CardMachine.Proofs.Machine.Extension
import CardMachine.Proofs.Machine.Renaming
import CardMachine.Proofs.Machine.Locality
import CardMachine.Proofs.Machine.Observer
import CardMachine.Proofs.Machine.Saturation
import CardMachine.Proofs.Check.Problems
import CardMachine.Proofs.Check.Search
import CardMachine.Proofs.Check.Reach
import CardMachine.Proofs.Check.WellFormed
import CardMachine.Proofs.Grammar.Consume
import CardMachine.Proofs.Grammar.Reads
import CardMachine.Proofs.Format.Layout
import CardMachine.Proofs.Format.Lines
import CardMachine.Proofs.Format.Words
import CardMachine.Proofs.Format.Sections
import CardMachine.Proofs.Format.Resolve
import CardMachine.Proofs.Format.Shape
import CardMachine.Proofs.Format.Presets
import CardMachine.Proofs.Format.RoundTrip
import CardMachine.Proofs.Format.Faults
import CardMachine.Proofs.Format.Acceptance
import CardMachine.Proofs.Format.Inference
import CardMachine.Proofs.Format.Cells
import CardMachine.Proofs.Format.Tape
import CardMachine.Proofs.Format.Series
import CardMachine.Proofs.Json.RoundTrip
import CardMachine.Proofs.Json.Alike
import CardMachine.Proofs.Catalog.Lookup
import CardMachine.Proofs.Catalog.Extension
import CardMachine.Proofs.Catalog.Binary
import CardMachine.Proofs.Command.Exit
import CardMachine.Proofs.Catalog.Unary
