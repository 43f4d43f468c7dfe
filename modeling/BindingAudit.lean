import BindingAudit.Audit
import BindingAudit.Auditor
import BindingAudit.CommandLine.Arguments
import BindingAudit.CommandLine.Run
import BindingAudit.Configuration
import BindingAudit.Console.Action.Basic
import BindingAudit.Console.Action.Expression
import BindingAudit.Console.Action.Fault
import BindingAudit.Console.Action.Literal
import BindingAudit.Console.Action.Phrase
import BindingAudit.Console.Action.Rules
import BindingAudit.Console.Action.Token
import BindingAudit.Console.Basic
import BindingAudit.Console.Color.Basic
import BindingAudit.Console.Color.Table
import BindingAudit.Console.Highlight
import BindingAudit.Console.Markup
import BindingAudit.Console.Panel
import BindingAudit.Console.Pattern
import BindingAudit.Console.Style.Basic
import BindingAudit.Console.Style.Table
import BindingAudit.Console.StyledText
import BindingAudit.Console.Table
import BindingAudit.Console.Terminal
import BindingAudit.Data.Basic
import BindingAudit.Data.Document
import BindingAudit.Data.Moment
import BindingAudit.Data.Scalar
import BindingAudit.Diagnostic
import BindingAudit.Edit.Apply
import BindingAudit.Edit.Basic
import BindingAudit.Element.Basic
import BindingAudit.Element.Builder
import BindingAudit.Element.Scope
import BindingAudit.Event
import BindingAudit.Journal
import BindingAudit.Json.Printer
import BindingAudit.Json.Reader
import BindingAudit.Main
import BindingAudit.Model.Basic
import BindingAudit.Model.Load
import BindingAudit.Number.Binary64
import BindingAudit.Number.DigitLimit
import BindingAudit.Number.Numeral
import BindingAudit.Position
import BindingAudit.Proofs.Audit.Failures
import BindingAudit.Proofs.Audit.Steps
import BindingAudit.Proofs.CommandLine.Interchange
import BindingAudit.Proofs.CommandLine.Isolation
import BindingAudit.Proofs.CommandLine.PathArguments
import BindingAudit.Proofs.Configuration.Cleaning
import BindingAudit.Proofs.Configuration.Lists
import BindingAudit.Proofs.Configuration.Nearest
import BindingAudit.Proofs.Configuration.Vocabulary
import BindingAudit.Proofs.Console.Layout
import BindingAudit.Proofs.Console.Markup
import BindingAudit.Proofs.Console.Printer
import BindingAudit.Proofs.Console.Table
import BindingAudit.Proofs.Data.Entries
import BindingAudit.Proofs.Data.Layout
import BindingAudit.Proofs.Data.Sharing
import BindingAudit.Proofs.Edit.Order
import BindingAudit.Proofs.Edit.Rendering
import BindingAudit.Proofs.Edit.Reordering
import BindingAudit.Proofs.Edit.Substitution
import BindingAudit.Proofs.Edit.Succession
import BindingAudit.Proofs.Element.Arena
import BindingAudit.Proofs.Element.Growth
import BindingAudit.Proofs.Element.Preorder
import BindingAudit.Proofs.Element.Requests
import BindingAudit.Proofs.Element.Scope
import BindingAudit.Proofs.Element.Walk
import BindingAudit.Proofs.Model.Anchors
import BindingAudit.Proofs.Model.Grammar
import BindingAudit.Proofs.Model.Numbering
import BindingAudit.Proofs.Model.Reading
import BindingAudit.Proofs.Model.RoundTrip
import BindingAudit.Proofs.Model.Traversal
import BindingAudit.Proofs.Outcome
import BindingAudit.Proofs.Reference.Grammar
import BindingAudit.Proofs.Reference.Matching
import BindingAudit.Proofs.Reference.Spelling
import BindingAudit.Proofs.Report.Edits
import BindingAudit.Proofs.Report.Repair
import BindingAudit.Proofs.Report.Succession
import BindingAudit.Proofs.Rule.Alias
import BindingAudit.Proofs.Rule.Applicability
import BindingAudit.Proofs.Rule.Findings
import BindingAudit.Proofs.Rule.Placement
import BindingAudit.Proofs.Rule.Reapplication
import BindingAudit.Proofs.Rule.Remainder
import BindingAudit.Proofs.Rule.Rewrite
import BindingAudit.Proofs.Rule.Verdict
import BindingAudit.Proofs.Rule.Wording
import BindingAudit.Proofs.Summary.Printing
import BindingAudit.Proofs.Summary.Table
import BindingAudit.Proofs.Text.Blank
import BindingAudit.Proofs.Text.Lines
import BindingAudit.Proofs.Text.Utf8
import BindingAudit.Proofs.Text.Width
import BindingAudit.Proofs.Workspace.Storing
import BindingAudit.Reference
import BindingAudit.Registry
import BindingAudit.Repair
import BindingAudit.Rule.Basic
import BindingAudit.Rule.Verdict
import BindingAudit.Services
import BindingAudit.Settings
import BindingAudit.Span
import BindingAudit.Summary
import BindingAudit.Template
import BindingAudit.Template.Error
import BindingAudit.Template.Kind.Basic
import BindingAudit.Template.Kind.Table
import BindingAudit.Template.Layout
import BindingAudit.Template.Member
import BindingAudit.Text.Base64
import BindingAudit.Text.Blank
import BindingAudit.Text.CaseFold
import BindingAudit.Text.CaseFold.Table
import BindingAudit.Text.CharacterName
import BindingAudit.Text.CharacterName.Table
import BindingAudit.Text.Digit
import BindingAudit.Text.Emoji
import BindingAudit.Text.Emoji.Table
import BindingAudit.Text.Identifier
import BindingAudit.Text.Identifier.Table
import BindingAudit.Text.LowerCase
import BindingAudit.Text.LowerCase.Table
import BindingAudit.Text.Printable
import BindingAudit.Text.Quoted
import BindingAudit.Text.Ranges
import BindingAudit.Text.Search
import BindingAudit.Text.Slice
import BindingAudit.Text.Utf8
import BindingAudit.Text.Width
import BindingAudit.Text.Width.Table
import BindingAudit.Text.WordChar
import BindingAudit.Text.WordChar.Table
import BindingAudit.Toml.Lexeme
import BindingAudit.Toml.Reader
import BindingAudit.Workspace.Basic
import BindingAudit.Workspace.ConfigurationFile
import BindingAudit.Workspace.Path
import BindingAudit.Yaml.Cursor
import BindingAudit.Yaml.Fault
import BindingAudit.Yaml.Graph
import BindingAudit.Yaml.Merge
import BindingAudit.Yaml.Reader
import BindingAudit.Yaml.SetOrder
import BindingAudit.Yaml.Tag
import BindingAudit.Yaml.Token.Basic
import BindingAudit.Yaml.Token.Lexer
import BindingAudit.Yaml.Token.Scalar
import BindingAudit.Yaml.Token.Word
