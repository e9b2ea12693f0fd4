import Stencil.Name
import Stencil.Text.Utf8
import Stencil.Text.LowerCase
import Stencil.Text.EditDistance
import Stencil.Text.Quotation
import Stencil.Text.Blank
import Stencil.Digest.Sha256
import Stencil.Digest.Hex
import Stencil.Decimal.Layout
import Stencil.Json.Token
import Stencil.Json.Reader
import Stencil.Json.Printer
import Stencil.Declaration.Json
import Stencil.Graph.Assignable
import Stencil.Graph.Fingerprint
import Stencil.Graph.Members
import Stencil.Literal
import Stencil.Path
import Stencil.Suggestion
import Stencil.Names.Map
import Stencil.Names.Set
import Stencil.Filer.Faulty
import Stencil.Filer.Memory
import Stencil.Filer.Session
import Stencil.Round
import Stencil.FileSystem.Basic
import Stencil.FileSystem.Operations
import Stencil.Filer.Disk
import Stencil.Toml.Decoder
import Stencil.Toml.Document
import Stencil.Configuration.Basic
import Stencil.Configuration.Load
import Stencil.Graph.Load
import Stencil.Manifest.Basic
import Stencil.Manifest.Json
import Stencil.Manifest.Status
import Stencil.Manifest.Storage
import Stencil.Command.Basic
import Stencil.Command.Generate
import Stencil.Command.Start
import Stencil.Command.Inspect
import Stencil.Command.Status
import Stencil.Command.Validate
import Stencil.Command.Request
import Stencil.Main
import Stencil.Proofs.Command.Freshness
import Stencil.Proofs.Declaration.RoundTrip
import Stencil.Proofs.Generation.Content
import Stencil.Proofs.Graph.SupertypeOrder
import Stencil.Proofs.Graph.Termination
import Stencil.Proofs.Inspection
import Stencil.Proofs.Path.Containment
import Stencil.Proofs.Path.Confinement
import Stencil.Proofs.FileSystem.Places
import Stencil.Proofs.Regeneration.CleanUp
import Stencil.Proofs.Filer.Footprint
import Stencil.Proofs.Round.Footprint
import Stencil.Proofs.Regeneration.Outputs
import Stencil.Proofs.Round.History
import Stencil.Proofs.Round.Separation
import Stencil.Proofs.Filer.Sessions
import Stencil.Proofs.Command.Tracking
import Stencil.Proofs.Graph.Fingerprint
import Stencil.Proofs.Generation.Footprint
import Stencil.Proofs.Generation.Policies
import Stencil.Proofs.Declaration.Reformatting
import Stencil.Proofs.Implementation
import Stencil.Proofs.Filer.Atomicity
import Stencil.Proofs.Graph.Construction
import Stencil.Proofs.Source
import Stencil.Proofs.Command.Start
import Stencil.Proofs.Filer.Separation
import Stencil.Proofs.Graph.Instantiation
