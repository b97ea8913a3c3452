import ApiDocs.ClassTable
import ApiDocs.CommandLine
import ApiDocs.Docblock.Reading
import ApiDocs.Documentation.Json
import ApiDocs.Extractor
import ApiDocs.Json.Reader
import ApiDocs.Json.Writer
import ApiDocs.Link.Template
import ApiDocs.Live.Declaration
import ApiDocs.Live.Registry
import ApiDocs.Main
import ApiDocs.Run
import ApiDocs.Settings
import ApiDocs.Toml.Reader
import ApiDocs.Proofs.Docblock.Gathering
import ApiDocs.Proofs.Docblock.Isolation
import ApiDocs.Proofs.Docblock.Known
import ApiDocs.Proofs.Docblock.Shown
import ApiDocs.Proofs.Docblock.Spelling
import ApiDocs.Proofs.Docblock.Tolerance
import ApiDocs.Proofs.Text.Basic
import ApiDocs.Proofs.Text.Margin
import ApiDocs.Proofs.Text.Words
import ApiDocs.Proofs.Documentation.Locality
import ApiDocs.Proofs.Documentation.Methods
import ApiDocs.Proofs.Documentation.Targets
import ApiDocs.Proofs.Json.Grammar
import ApiDocs.Proofs.Json.Writing
import ApiDocs.Proofs.Documentation.Classes
import ApiDocs.Proofs.Documentation.Faithful
import ApiDocs.Proofs.Live.Agreement
import ApiDocs.Proofs.Live.History
import ApiDocs.Proofs.Live.Reported
import ApiDocs.Proofs.Live.Stability
import ApiDocs.Proofs.Live.Made
import ApiDocs.Proofs.Live.Registry
import ApiDocs.Proofs.Docblock.ReturnTypes
import ApiDocs.Proofs.Docblock.ParamTypes
import ApiDocs.Proofs.Documentation.Questions
import ApiDocs.Proofs.Delivery
import ApiDocs.Proofs.Docblock.Order
import ApiDocs.Proofs.Text.Layout
import ApiDocs.Proofs.Docblock.Trailing
import ApiDocs.Proofs.Docblock.Indentation
import ApiDocs.Proofs.Docblock.Summary
import ApiDocs.Proofs.Docblock.TagLine
import ApiDocs.Proofs.Docblock.Regular
import ApiDocs.Proofs.Documentation.Shapes
import ApiDocs.Proofs.Documentation.Lookups
import ApiDocs.Proofs.Live.Order
import ApiDocs.Proofs.Live.Inherited
import ApiDocs.Proofs.Toml
import ApiDocs.Proofs.Settings
import ApiDocs.Proofs.Docblock.Chunks
import ApiDocs.Proofs.Live.Known
import ApiDocs.Proofs.Link.Filling
import ApiDocs.Proofs.Layers
