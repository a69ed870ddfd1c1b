import Pinpoint.CommandLine.Failure
import Pinpoint.CommandLine.Folder
import Pinpoint.CommandLine.Invocation
import Pinpoint.CommandLine.Level
import Pinpoint.CommandLine.Lines
import Pinpoint.CommandLine.Replay
import Pinpoint.CommandLine.Run
import Pinpoint.CommandLine.Switch
import Pinpoint.Descriptor
import Pinpoint.Dialect
import Pinpoint.Document.Arena
import Pinpoint.Document.Attributes
import Pinpoint.Document.Basic
import Pinpoint.Document.Edit
import Pinpoint.Document.Fixture
import Pinpoint.Document.Html
import Pinpoint.Document.Markup
import Pinpoint.Selector.Match
import Pinpoint.Error
import Pinpoint.Export.Format
import Pinpoint.Export.Layout
import Pinpoint.Export.Render
import Pinpoint.Interaction.LivePreview
import Pinpoint.Interaction.Outlines
import Pinpoint.Interaction.Picker
import Pinpoint.Interaction.Session
import Pinpoint.Json.Basic
import Pinpoint.Json.Decode
import Pinpoint.Json.Printer
import Pinpoint.Json.Reader
import Pinpoint.Locator.Absolute
import Pinpoint.Locator.Structural
import Pinpoint.Main
import Pinpoint.Proofs.Document.Ancestry
import Pinpoint.Proofs.Document.Links
import Pinpoint.Proofs.Document.Attributes
import Pinpoint.Proofs.Document.Content
import Pinpoint.Proofs.Document.Numbering
import Pinpoint.Proofs.Document.Parts
import Pinpoint.Proofs.Document.Persistence
import Pinpoint.Proofs.Document.Reachable
import Pinpoint.Proofs.Document.Site
import Pinpoint.Proofs.Document.Tree
import Pinpoint.Proofs.Export.Script
import Pinpoint.Proofs.Finding
import Pinpoint.Proofs.Interaction.Independence
import Pinpoint.Proofs.Interaction.LivePreview
import Pinpoint.Proofs.Interaction.Outlines
import Pinpoint.Proofs.Interaction.Picker
import Pinpoint.Proofs.Json.Decode
import Pinpoint.Proofs.Locator.Absolute
import Pinpoint.Proofs.Locator.Literal
import Pinpoint.Proofs.Locator.Path
import Pinpoint.Proofs.Locator.ReadBack
import Pinpoint.Proofs.Locator.Readable
import Pinpoint.Proofs.Locator.Root
import Pinpoint.Proofs.Locator.Segment
import Pinpoint.Proofs.Locator.Structural
import Pinpoint.Proofs.Locator.Suffix
import Pinpoint.Proofs.Locator.TestAttribute
import Pinpoint.Proofs.Scan.Wording
import Pinpoint.Proofs.Selector.Acceptance
import Pinpoint.Proofs.Selector.Escape
import Pinpoint.Proofs.Selector.Grammar
import Pinpoint.Proofs.Selector.Lexis
import Pinpoint.Proofs.Selector.Meaning
import Pinpoint.Proofs.Selector.Offset
import Pinpoint.Proofs.Selector.Written
import Pinpoint.Proofs.Snippet.Literal
import Pinpoint.Proofs.Snippet.Quoting
import Pinpoint.Proofs.Text.Letters
import Pinpoint.Proofs.Text.Lines
import Pinpoint.Proofs.Wire.Fixture
import Pinpoint.Proofs.Wire.RoundTrip
import Pinpoint.Scan.Advice
import Pinpoint.Scan.Page
import Pinpoint.Selector.Basic
import Pinpoint.Selector.Parser
import Pinpoint.Semantics
import Pinpoint.Settings
import Pinpoint.Snippet.Action
import Pinpoint.Snippet.Basic
import Pinpoint.Snippet.Passive
import Pinpoint.Text.Lines
import Pinpoint.Text.Letters
import Pinpoint.Url.Address
import Pinpoint.Url.Alphabet
import Pinpoint.Url.Composition
import Pinpoint.Url.Direction
import Pinpoint.Url.Host
import Pinpoint.Url.Joining
import Pinpoint.Url.Mark
import Pinpoint.Url.Origin
import Pinpoint.Url.Punycode
import Pinpoint.Verb
import Pinpoint.Wire.Fixture
import Pinpoint.Wire.Values
import Pinpoint.Wire.Messages
import Pinpoint.Wire.Settings
import Pinpoint.Wire.SettingsText
import Pinpoint.Yaml.Glyph
import Pinpoint.Yaml.Layout
import Pinpoint.Yaml.Node
import Pinpoint.Yaml.Scalar
import Pinpoint.Yaml.Tag
import Pinpoint.Yaml.Token
import Pinpoint.Proofs.Locator.ClassLimit
import Pinpoint.Proofs.Document.Detachment
import Pinpoint.Proofs.Selector.Spelling
import Pinpoint.Proofs.Selector.Conjunction
import Pinpoint.Proofs.Document.Growth
import Pinpoint.Proofs.Selector.Reading
import Pinpoint.Proofs.Selector.Survival
import Pinpoint.Proofs.Locator.Stability
import Pinpoint.Proofs.Locator.Indifference
import Pinpoint.Proofs.Interaction.StoredPreview
import Pinpoint.Proofs.Json.Text
import Pinpoint.Proofs.CommandLine.Replay
import Pinpoint.Proofs.Export.Layout
import Pinpoint.Proofs.Export.Table
import Pinpoint.Proofs.Scan.Coverage
import Pinpoint.Proofs.Interaction.Restoring
import Pinpoint.Proofs.Document.Building
import Pinpoint.Proofs.Document.Html
import Pinpoint.Proofs.Scan.LetterCase
import Pinpoint.Proofs.Locator.Frame
import Pinpoint.Proofs.CommandLine.Atomicity
import Pinpoint.Proofs.Arena.Representation
import Pinpoint.Proofs.Arena.Insertion
import Pinpoint.Proofs.Arena.Marking
import Pinpoint.Proofs.Arena.Editing
import Pinpoint.Proofs.Arena.Growing
import Pinpoint.Proofs.Arena.Cutting
import Pinpoint.Proofs.Arena.Run
import Pinpoint.Proofs.Arena.Forest
import Pinpoint.Proofs.Arena.Building
