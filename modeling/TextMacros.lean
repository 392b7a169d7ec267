import TextMacros.Text.Basic
import TextMacros.Text.CodePoint
import TextMacros.Text.Blank
import TextMacros.Bracket
import TextMacros.Token
import TextMacros.Expansion
import TextMacros.Dictionary
import TextMacros.Text.Printable
import TextMacros.Text.Quoted
import TextMacros.Scope
import TextMacros.Pattern.Basic
import TextMacros.Pattern.Reader
import TextMacros.NamePattern
import TextMacros.Json.Basic
import TextMacros.Json.Reader
import TextMacros.FilePath
import TextMacros.Disk
import TextMacros.MacroFile
import TextMacros.Journal
import TextMacros.Resolver
import TextMacros.Workspace
import TextMacros.Settings
import TextMacros.Sources
import TextMacros.Session
import TextMacros.Text.Numeral
import TextMacros.Display.Width
import TextMacros.Display.Wrap
import TextMacros.Text.Lines
import TextMacros.Display.Markup
import TextMacros.Display.Frame
import TextMacros.CommandLine.Arguments
import TextMacros.CommandLine.Help
import TextMacros.CommandLine.Command
import TextMacros.CommandLine.Usage
import TextMacros.CommandLine.Request
import TextMacros.CommandLine.Program
import TextMacros.CommandLine.Files
import TextMacros.Main
import TextMacros.Display.Emoji.Table
import TextMacros.Text.Letter
import TextMacros.Text.LowerCase
import TextMacros.Display.Colour
import TextMacros.Display.Emoji.Codes
import TextMacros.Display.Style
import TextMacros.Template.Layout
import TextMacros.Template.Number
import TextMacros.Display.Literal.Lexeme
import TextMacros.Display.Literal.Reader
import TextMacros.Proofs.Expansion.NormalForm
import TextMacros.Proofs.Expansion.Concatenation
import TextMacros.Proofs.Expansion.Cycle
import TextMacros.Proofs.Expansion.Ledger
import TextMacros.Proofs.Expansion.Growth
import TextMacros.Proofs.TokenTree.Evaluation
import TextMacros.Proofs.Bracket.Grammar
import TextMacros.Proofs.Token.Nesting
import TextMacros.Proofs.Token.Walk
import TextMacros.Proofs.Expansion.StepBound
import TextMacros.Proofs.Expansion.Escapes
import TextMacros.Proofs.Expansion.Bound
import TextMacros.Proofs.Expansion.Resumption
import TextMacros.Proofs.Expansion.Agreement
import TextMacros.Proofs.Expansion.SelfReference
import TextMacros.Proofs.Expansion.Flip
import TextMacros.Proofs.Expansion.Idempotence
import TextMacros.Proofs.Scope.Merge
import TextMacros.Proofs.Token.Written
import TextMacros.Proofs.Expansion.Quoting
import TextMacros.Proofs.Expansion.FlatText
import TextMacros.Proofs.Expansion.HiddenDefault
import TextMacros.Proofs.Resolver.Resolution
import TextMacros.Proofs.Json.Grammar
import TextMacros.Proofs.Json.Scalars
import TextMacros.Proofs.Json.Reading
import TextMacros.Proofs.Json.LineEnds
import TextMacros.Proofs.MacroFile.Loading
import TextMacros.Proofs.Sources.Precedence
import TextMacros.Proofs.MacroFile.Failures
