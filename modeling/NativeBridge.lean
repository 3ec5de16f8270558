import NativeBridge.Boundary.Attachment
import NativeBridge.Boundary.Body
import NativeBridge.Boundary.Conversion
import NativeBridge.Boundary.Handle
import NativeBridge.Boundary.Outcome
import NativeBridge.Boundary.Scope
import NativeBridge.Bridge.Basic
import NativeBridge.Bridge.Draft
import NativeBridge.Bridge.Execution
import NativeBridge.Bridge.Generation
import NativeBridge.Bridge.Identifier
import NativeBridge.Bridge.Rendering
import NativeBridge.Catalog.Basic
import NativeBridge.Catalog.Decoding
import NativeBridge.Catalog.Schema
import NativeBridge.Command.Arguments
import NativeBridge.Command.Execution
import NativeBridge.Command.Logging
import NativeBridge.Command.Report
import NativeBridge.Command.Response
import NativeBridge.Demo.Bridges
import NativeBridge.Demo.Catalog
import NativeBridge.Demo.Meaning
import NativeBridge.Demo.Sample
import NativeBridge.Event
import NativeBridge.Fault
import NativeBridge.Files.Access
import NativeBridge.Files.Fault
import NativeBridge.Files.Path
import NativeBridge.Files.Tree
import NativeBridge.Files.UnitFile
import NativeBridge.FunctionPair
import NativeBridge.Main
import NativeBridge.Proofs.Drafting
import NativeBridge.Proofs.Locals
import NativeBridge.Proofs.Names
import NativeBridge.Proofs.Registry
import NativeBridge.Text.Blank
import NativeBridge.Text.Double
import NativeBridge.Text.HiddenTable
import NativeBridge.Text.Json
import NativeBridge.Text.Quoted
import NativeBridge.Text.Uppercase
import NativeBridge.Text.UppercaseTable
import NativeBridge.Text.Utf8
import NativeBridge.Toml.Assembly
import NativeBridge.Toml.Document
import NativeBridge.Toml.Key
import NativeBridge.Toml.Moment
import NativeBridge.Toml.Number
import NativeBridge.Toml.Quotation
import NativeBridge.Toml.Reader
import NativeBridge.Toml.Value
import NativeBridge.Types.Descriptor
import NativeBridge.Types.Registry
import NativeBridge.Types.Standard
import NativeBridge.Unit
import NativeBridge.Proofs.Acceptance
import NativeBridge.Proofs.Batch
import NativeBridge.Proofs.Protocol
import NativeBridge.Proofs.Typing
import NativeBridge.Proofs.BridgeText
import NativeBridge.Proofs.UnitText
import NativeBridge.Proofs.Paths
import NativeBridge.Proofs.Ways
import NativeBridge.Proofs.Replacement
import NativeBridge.Proofs.Staging
import NativeBridge.Proofs.Requests
import NativeBridge.Proofs.Footprint
import NativeBridge.Proofs.Staleness
import NativeBridge.Proofs.Containment
import NativeBridge.Proofs.Registration
import NativeBridge.Proofs.Relevance
import NativeBridge.Proofs.DemoBridges
import NativeBridge.Proofs.Spelling
import NativeBridge.Proofs.Reading
import NativeBridge.Proofs.FirstFault
import NativeBridge.Proofs.Extension
import NativeBridge.Proofs.Interleaving
import NativeBridge.Proofs.JsonText
import NativeBridge.Proofs.Listing
import NativeBridge.Proofs.Prediction
import NativeBridge.Proofs.Scoping
import NativeBridge.Proofs.Edits
import NativeBridge.Proofs.Directions
import NativeBridge.Proofs.Encoding
import NativeBridge.Proofs.NativeStrings
import NativeBridge.Proofs.Identifiers
import NativeBridge.Proofs.OpenFaults
import NativeBridge.Proofs.Counts
import NativeBridge.Proofs.Hygiene
import NativeBridge.Proofs.SymbolLiteral
import NativeBridge.Proofs.CatalogFile
