import StreamMesh.Artifact
import StreamMesh.Assoc
import StreamMesh.Command.Complaint
import StreamMesh.Command.Invocation
import StreamMesh.Command.Run
import StreamMesh.Compile
import StreamMesh.Console.Emoji
import StreamMesh.Console.Markup
import StreamMesh.Console.Notice
import StreamMesh.Console.Style
import StreamMesh.Console.Table
import StreamMesh.Decimal.Binary
import StreamMesh.Decimal.Digits
import StreamMesh.Decimal.Notation
import StreamMesh.Decimal.Whole
import StreamMesh.Deployment
import StreamMesh.Digest
import StreamMesh.Event
import StreamMesh.Failure
import StreamMesh.Fault
import StreamMesh.Files.Path
import StreamMesh.Files.Source
import StreamMesh.Files.Tree
import StreamMesh.Files.Write
import StreamMesh.Graph.Basic
import StreamMesh.Graph.OfTopology
import StreamMesh.Graph.Order
import StreamMesh.Label
import StreamMesh.Main
import StreamMesh.Manifest
import StreamMesh.Mesh.Endpoint
import StreamMesh.Mesh.Names
import StreamMesh.Mesh.Processor
import StreamMesh.Mesh.Synthesis
import StreamMesh.Schema.Check
import StreamMesh.Schema.Issue
import StreamMesh.Schema.Lenient
import StreamMesh.Spec
import StreamMesh.Text.Blank
import StreamMesh.Text.Digit
import StreamMesh.Text.Pattern
import StreamMesh.Text.Pieces
import StreamMesh.Text.Quoted
import StreamMesh.Text.Raw
import StreamMesh.Text.Visible
import StreamMesh.Text.Width
import StreamMesh.Topology.Basic
import StreamMesh.Topology.Declaration
import StreamMesh.Topology.Node
import StreamMesh.Topology.OfSpec
import StreamMesh.Value
import StreamMesh.Yaml.Cursor
import StreamMesh.Yaml.Document
import StreamMesh.Yaml.Error
import StreamMesh.Yaml.Implicit
import StreamMesh.Yaml.Node.Basic
import StreamMesh.Yaml.Node.OfTokens
import StreamMesh.Yaml.Node.Value
import StreamMesh.Yaml.Print
import StreamMesh.Yaml.Scalar.Binary
import StreamMesh.Yaml.Scalar.Number
import StreamMesh.Yaml.Scalar.Timestamp
import StreamMesh.Yaml.Token.Basic
import StreamMesh.Yaml.Token.Block
import StreamMesh.Yaml.Token.Plain
import StreamMesh.Yaml.Token.Property
import StreamMesh.Yaml.Token.Quoted
import StreamMesh.Yaml.Token.Scan
import StreamMesh.Proofs.Assoc
import StreamMesh.Proofs.Graph.WellFormed
import StreamMesh.Proofs.Failure
import StreamMesh.Proofs.Graph.Search
import StreamMesh.Proofs.Topology.Ingest
import StreamMesh.Proofs.Topology.Wiring
import StreamMesh.Proofs.Graph.OfTopology
import StreamMesh.Proofs.Compile.Plan
import StreamMesh.Proofs.Deployment
import StreamMesh.Proofs.Mesh.Block
import StreamMesh.Proofs.Compile.Stages
import StreamMesh.Proofs.Mesh.Reading
import StreamMesh.Proofs.Compile.Acceptance
import StreamMesh.Proofs.Mesh.Addressing
import StreamMesh.Proofs.Compile.StepOrder
import StreamMesh.Proofs.Mesh.Object
import StreamMesh.Proofs.Mesh.Purpose
import StreamMesh.Proofs.Compile.Objects
import StreamMesh.Proofs.Mesh.Apart
import StreamMesh.Proofs.Files.Place
import StreamMesh.Proofs.Files.Write
import StreamMesh.Proofs.Files.EmptyDirectory
import StreamMesh.Proofs.Compile.Output
import StreamMesh.Proofs.Graph.Edges
import StreamMesh.Proofs.Topology.BackReference
import StreamMesh.Proofs.Compile.Edges
import StreamMesh.Proofs.Compile.Shape
import StreamMesh.Proofs.Compile.Layout
import StreamMesh.Proofs.Compile.Sharing
import StreamMesh.Proofs.Files.Interrupted
import StreamMesh.Proofs.Files.PathText
import StreamMesh.Proofs.Files.Confinement
import StreamMesh.Proofs.Command.Arguments
import StreamMesh.Proofs.Command.Reading
import StreamMesh.Proofs.Command.Stages
import StreamMesh.Proofs.Command.Effects
import StreamMesh.Proofs.Console.Markup
import StreamMesh.Proofs.Files.NullCharacter
import StreamMesh.Proofs.Command.Escapes
import StreamMesh.Proofs.Compile.OutputSchema
import StreamMesh.Proofs.Topology.History
import StreamMesh.Proofs.Compile.Locality
import StreamMesh.Proofs.Compile.References
import StreamMesh.Proofs.Compile.RuledOut
import StreamMesh.Proofs.Graph.Construction
import StreamMesh.Proofs.Graph.Calls
import StreamMesh.Proofs.Graph.Tables
import StreamMesh.Proofs.Graph.Recursion
import StreamMesh.Proofs.Graph.Marking
import StreamMesh.Proofs.Graph.Rounds
import StreamMesh.Proofs.Yaml.Cursor
import StreamMesh.Proofs.Yaml.Plain
import StreamMesh.Proofs.Yaml.Quoted
import StreamMesh.Proofs.Yaml.Scanner
import StreamMesh.Proofs.Yaml.Spelling
import StreamMesh.Proofs.Yaml.Layout
import StreamMesh.Proofs.Yaml.Meaning
import StreamMesh.Proofs.Yaml.Parsing
import StreamMesh.Proofs.Mesh.Decoding
import StreamMesh.Proofs.Topology.Registering
import StreamMesh.Proofs.Topology.Refusal
import StreamMesh.Proofs.Graph.Legality
import StreamMesh.Proofs.Mesh.Rewiring
import StreamMesh.Proofs.Compile.Environment
import StreamMesh.Proofs.Text.Pattern
import StreamMesh.Proofs.Label.Grammar
import StreamMesh.Proofs.Schema.Report
import StreamMesh.Proofs.Label.StepName
import StreamMesh.Proofs.Console.Picture
import StreamMesh.Proofs.Console.Tag
import StreamMesh.Proofs.Console.Verbatim
import StreamMesh.Proofs.Text.Pieces
import StreamMesh.Proofs.Text.Raw
import StreamMesh.Proofs.Compile.Namespace
import StreamMesh.Proofs.Yaml.Reading
import StreamMesh.Proofs.Yaml.Place
import StreamMesh.Proofs.Spec.EnvValue
