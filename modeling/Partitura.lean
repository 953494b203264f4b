import Partitura.Catalog.Data
import Partitura.Catalog.Definition
import Partitura.Catalog.Source
import Partitura.Catalog.Standard
import Partitura.Catalog.Text
import Partitura.Category
import Partitura.Category.Set
import Partitura.Color
import Partitura.Color.Palette
import Partitura.Command
import Partitura.Command.Options
import Partitura.Data
import Partitura.Data.Equality
import Partitura.Decimal
import Partitura.Demo
import Partitura.Element
import Partitura.Element.Equality
import Partitura.Error
import Partitura.Files
import Partitura.Files.Error
import Partitura.Json.Reader
import Partitura.Json.Writer
import Partitura.Layout
import Partitura.Leaf
import Partitura.Leaf.Build
import Partitura.Leaf.Equality
import Partitura.Leaf.Kind
import Partitura.Listing
import Partitura.Main
import Partitura.Node.Change
import Partitura.Node.Reorder
import Partitura.Node.Resolution
import Partitura.Position
import Partitura.Proofs.Acceptance
import Partitura.Proofs.Catalog.Conversion
import Partitura.Proofs.Catalog.Export
import Partitura.Proofs.Catalog.Order
import Partitura.Proofs.Catalog.Prefix
import Partitura.Proofs.Catalog.Reload
import Partitura.Proofs.Catalog.Words
import Partitura.Proofs.Color.Families
import Partitura.Proofs.Command.Checking
import Partitura.Proofs.Data.Fields
import Partitura.Proofs.Files.Saved
import Partitura.Proofs.Leaf.Characters
import Partitura.Proofs.Leaf.Datum
import Partitura.Proofs.Leaf.Lines
import Partitura.Proofs.Leaf.Marked
import Partitura.Proofs.Leaf.Nesting
import Partitura.Proofs.Leaf.Parentheses
import Partitura.Proofs.Leaf.Readable
import Partitura.Proofs.Listing
import Partitura.Proofs.Node.Agreement
import Partitura.Proofs.Node.Binding
import Partitura.Proofs.Node.Built
import Partitura.Proofs.Node.Call
import Partitura.Proofs.Node.Changed
import Partitura.Proofs.Node.Content
import Partitura.Proofs.Node.Correspondence
import Partitura.Proofs.Node.Effect
import Partitura.Proofs.Node.Faults
import Partitura.Proofs.Node.Levels
import Partitura.Proofs.Node.ListCalls
import Partitura.Proofs.Node.Naming
import Partitura.Proofs.Node.Order
import Partitura.Proofs.Node.Placing
import Partitura.Proofs.Node.PlainList
import Partitura.Proofs.Node.Raised
import Partitura.Proofs.Node.Reachable
import Partitura.Proofs.Node.Reordered
import Partitura.Proofs.Node.Resolution
import Partitura.Proofs.Node.Reversed
import Partitura.Proofs.Node.Shown
import Partitura.Proofs.Node.Slots
import Partitura.Proofs.Node.Sorted
import Partitura.Proofs.Node.Valid
import Partitura.Proofs.Outcome
import Partitura.Proofs.Registry.Authority
import Partitura.Proofs.Registry.Growth
import Partitura.Proofs.Registry.Run
import Partitura.Proofs.Render.Alternation
import Partitura.Proofs.Render.Attached
import Partitura.Proofs.Render.Enclosed
import Partitura.Proofs.Render.Indentation
import Partitura.Proofs.Render.Lines
import Partitura.Proofs.Render.Occurrences
import Partitura.Proofs.Render.Parity
import Partitura.Proofs.Render.Repetition
import Partitura.Proofs.Render.Siblings
import Partitura.Proofs.Render.Words
import Partitura.Proofs.Rule.Checked
import Partitura.Proofs.Rule.Faults
import Partitura.Proofs.Rule.HelpPage
import Partitura.Proofs.Sorting
import Partitura.Proofs.Text.Columns
import Partitura.Proofs.Text.Lines
import Partitura.Proofs.Text.Tokens
import Partitura.Proofs.Text.Words
import Partitura.Proofs.Tone.Readable
import Partitura.Proofs.Tone.Spelling
import Partitura.Registry
import Partitura.Render
import Partitura.Rule
import Partitura.Rule.Check
import Partitura.Rule.HelpPage
import Partitura.Text
import Partitura.Text.Capital
import Partitura.Text.Shown
import Partitura.Tone.Pitch
import Partitura.Tone.Sound
import Partitura.Yaml.Document
import Partitura.Yaml.Lexer
import Partitura.Yaml.Node
import Partitura.Yaml.Placed
import Partitura.Yaml.Reading
import Partitura.Yaml.Scalar
import Partitura.Yaml.Scalar.Block
import Partitura.Yaml.Tag
import Partitura.Yaml.Token
import Partitura.Yaml.Word
import Partitura.Yaml.Writer
