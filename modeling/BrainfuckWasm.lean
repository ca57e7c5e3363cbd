import BrainfuckWasm.Addressing
import BrainfuckWasm.Artifact.Store
import BrainfuckWasm.Assembler
import BrainfuckWasm.Body.Emitter
import BrainfuckWasm.Body.Line
import BrainfuckWasm.Body.Pass
import BrainfuckWasm.Build
import BrainfuckWasm.CommandLine
import BrainfuckWasm.Domain.Label
import BrainfuckWasm.Domain.Name
import BrainfuckWasm.Domain.Punycode
import BrainfuckWasm.FileTree
import BrainfuckWasm.Json
import BrainfuckWasm.Json.Printer
import BrainfuckWasm.Json.Reader
import BrainfuckWasm.Launcher
import BrainfuckWasm.Main
import BrainfuckWasm.Module
import BrainfuckWasm.Number.Binary
import BrainfuckWasm.Number.Shortest
import BrainfuckWasm.Options.Parse
import BrainfuckWasm.Options.Word
import BrainfuckWasm.Path
import BrainfuckWasm.Proofs.Balance
import BrainfuckWasm.Proofs.Writing
import BrainfuckWasm.Service.Handler
import BrainfuckWasm.Service.Host
import BrainfuckWasm.Service.MediaType
import BrainfuckWasm.Service.Pages
import BrainfuckWasm.Service.Reference
import BrainfuckWasm.Service.Response
import BrainfuckWasm.Service.Route
import BrainfuckWasm.Service.Target
import BrainfuckWasm.Service.Validation
import BrainfuckWasm.Symbol
import BrainfuckWasm.Text.Blank
import BrainfuckWasm.Text.Composition
import BrainfuckWasm.Text.DecimalDigit
import BrainfuckWasm.Text.Direction
import BrainfuckWasm.Text.DomainLetter
import BrainfuckWasm.Text.Encoding
import BrainfuckWasm.Text.Hex
import BrainfuckWasm.Text.Joining
import BrainfuckWasm.Text.LetterCase
import BrainfuckWasm.Text.Mark
import BrainfuckWasm.Text.Numeral
import BrainfuckWasm.Text.Printable
import BrainfuckWasm.Text.Quoted
import BrainfuckWasm.Text.Ranges
import BrainfuckWasm.Text.Script
import BrainfuckWasm.Text.Utf8
import BrainfuckWasm.Text.Wide
import BrainfuckWasm.Proofs.TapeProgram
import BrainfuckWasm.Proofs.Code
import BrainfuckWasm.Proofs.Diagnosis
import BrainfuckWasm.Proofs.Typesetting
import BrainfuckWasm.Proofs.Relabel
import BrainfuckWasm.Proofs.Composition
import BrainfuckWasm.Proofs.Wat.Row
import BrainfuckWasm.Proofs.Wat.Sequence
import BrainfuckWasm.Proofs.Wat.BodyText
import BrainfuckWasm.Proofs.Wat.Validation
import BrainfuckWasm.Proofs.Machine
import BrainfuckWasm.Proofs.Wat.ModuleText
import BrainfuckWasm.Proofs.UnitStep
import BrainfuckWasm.Proofs.Fusion
import BrainfuckWasm.Proofs.Wat.Execution
import BrainfuckWasm.Proofs.Simulation
import BrainfuckWasm.Proofs.Build.Outputs
import BrainfuckWasm.Proofs.Build.Course
import BrainfuckWasm.Proofs.Build.Effect
import BrainfuckWasm.Proofs.Build.Source
import BrainfuckWasm.Proofs.Build.Status
import BrainfuckWasm.Proofs.Artifact.Ids
import BrainfuckWasm.Proofs.Service.Records
import BrainfuckWasm.Proofs.Service.Serving
import BrainfuckWasm.Proofs.Service.History
import BrainfuckWasm.Proofs.Service.Consistency
import BrainfuckWasm.Proofs.Listing.Reader
import BrainfuckWasm.Proofs.Listing.BodyLines
import BrainfuckWasm.Proofs.RunLength
import BrainfuckWasm.Proofs.Layout
import BrainfuckWasm.Proofs.ReadBack
import BrainfuckWasm.Proofs.Reached
import BrainfuckWasm.Proofs.Settled
import BrainfuckWasm.Proofs.Acceptance
import BrainfuckWasm.Proofs.LabelOrder
import BrainfuckWasm.Proofs.PartialBody
import BrainfuckWasm.Proofs.Accounts
import BrainfuckWasm.Proofs.Interruption
import BrainfuckWasm.Proofs.EmitterState
import BrainfuckWasm.Proofs.Recast
import BrainfuckWasm.Proofs.Comments
import BrainfuckWasm.Proofs.Accessors
import BrainfuckWasm.Proofs.Indentation
import BrainfuckWasm.Proofs.Decoding
import BrainfuckWasm.Proofs.Build.SourceText
import BrainfuckWasm.Proofs.Build.Derivation
import BrainfuckWasm.Proofs.Build.Conduct
import BrainfuckWasm.Proofs.Build.Rebuild
import BrainfuckWasm.Proofs.CommandLine.Request
import BrainfuckWasm.Proofs.Wat.ModuleForm
import BrainfuckWasm.Proofs.Numeral
import BrainfuckWasm.Proofs.Options.Accepted
import BrainfuckWasm.Proofs.Launcher.Word
import BrainfuckWasm.Proofs.Launcher.Request
import BrainfuckWasm.Proofs.Artifact.History
