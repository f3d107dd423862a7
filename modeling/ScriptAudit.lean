import ScriptAudit.Analysis.Run
import ScriptAudit.CommandLine.Run
import ScriptAudit.Correction.Fix
import ScriptAudit.Correction.Patch
import ScriptAudit.Diagnostic.Basic
import ScriptAudit.Files.Path
import ScriptAudit.Files.Search
import ScriptAudit.Literal.Evaluate
import ScriptAudit.Main
import ScriptAudit.Number.Basic
import ScriptAudit.Pattern.Glob
import ScriptAudit.Pattern.Regex.Match
import ScriptAudit.Pattern.Regex.Parse
import ScriptAudit.Proofs.Syntax.Suffix
import ScriptAudit.Rule.Loader
import ScriptAudit.Rule.Name
import ScriptAudit.Rule.Registry
import ScriptAudit.Rule.Script
import ScriptAudit.Settings.Resolve
import ScriptAudit.Source.LineIndex
import ScriptAudit.Suppression.Matcher
import ScriptAudit.Suppression.Scope
import ScriptAudit.Syntax.Lexeme.Quotation
import ScriptAudit.Syntax.Lexeme.Trivia
import ScriptAudit.Syntax.Lexeme.Word
import ScriptAudit.Syntax.Parse
import ScriptAudit.Syntax.Token
import ScriptAudit.Syntax.Walk
import ScriptAudit.Text.Blank
import ScriptAudit.Text.Case
import ScriptAudit.Text.Quoted
import ScriptAudit.Text.Word
import ScriptAudit.Value.Digest
import ScriptAudit.Value.Freeze
import ScriptAudit.Value.Output
import ScriptAudit.Proofs.Syntax.Reader
import ScriptAudit.Proofs.Syntax.Layout
import ScriptAudit.Proofs.Syntax.GrammarLayout
import ScriptAudit.Proofs.Syntax.Parsed
import ScriptAudit.Proofs.Syntax.Preorder
import ScriptAudit.Proofs.Literal.Acceptance
import ScriptAudit.Proofs.Correction.Candidates
import ScriptAudit.Proofs.Correction.Sweep
import ScriptAudit.Proofs.Files.LineBreaks
import ScriptAudit.Proofs.Correction.Patch
import ScriptAudit.Proofs.Syntax.Filler
import ScriptAudit.Proofs.Syntax.LiteralLexeme
import ScriptAudit.Proofs.Syntax.Reads
import ScriptAudit.Proofs.Literal.Written
import ScriptAudit.Proofs.Literal.Denotes
import ScriptAudit.Proofs.Syntax.GrammarReads
import ScriptAudit.Proofs.Syntax.StatementReads
import ScriptAudit.Proofs.Literal.RoundTrip
import ScriptAudit.Proofs.Rule.Name
import ScriptAudit.Proofs.Rule.Selection
import ScriptAudit.Proofs.Analysis.Accounting
import ScriptAudit.Proofs.Fault.Ends
import ScriptAudit.Proofs.Literal.Values
import ScriptAudit.Proofs.Settings.Build
import ScriptAudit.Proofs.Settings.Resolve
import ScriptAudit.Proofs.Files.Tree
import ScriptAudit.Proofs.Files.DataFile
import ScriptAudit.Proofs.Settings.Agreement
import ScriptAudit.Proofs.Literal.LineBreaks
import ScriptAudit.Proofs.Literal.FirstTable
import ScriptAudit.Proofs.Settings.Plain
import ScriptAudit.Proofs.Settings.Rendered
import ScriptAudit.Proofs.Syntax.Edges
import ScriptAudit.Proofs.Syntax.Faithful
import ScriptAudit.Proofs.Settings.Pointing
import ScriptAudit.Proofs.Analysis.Cancellation
import ScriptAudit.Proofs.Rule.Active
import ScriptAudit.Proofs.Syntax.Quotation
import ScriptAudit.Proofs.Syntax.Tokens
import ScriptAudit.Proofs.Syntax.GrammarTokens
import ScriptAudit.Proofs.Syntax.Leaves
import ScriptAudit.Proofs.Syntax.Interpolation
import ScriptAudit.Proofs.Settings.Precedence
import ScriptAudit.Proofs.Literal.DistinctKeys
import ScriptAudit.Proofs.Syntax.HereString
import ScriptAudit.Proofs.Syntax.Escaping
import ScriptAudit.Proofs.Settings.Contents
import ScriptAudit.Proofs.Source.Position
import ScriptAudit.Proofs.Value.Flaw
import ScriptAudit.Proofs.Settings.Freezing
import ScriptAudit.Proofs.Settings.Determined
import ScriptAudit.Proofs.Settings.Projection
import ScriptAudit.Proofs.Value.Respelled
import ScriptAudit.Proofs.Settings.Respelling
import ScriptAudit.Proofs.Value.Paired
import ScriptAudit.Proofs.Correction.Passes
import ScriptAudit.Proofs.Correction.Reordering
import ScriptAudit.Proofs.Syntax.Numeral
import ScriptAudit.Proofs.Syntax.IntegerLiteral
import ScriptAudit.Proofs.Syntax.IntegerScript
import ScriptAudit.Proofs.Syntax.BareKey
import ScriptAudit.Proofs.Suppression.Innermost
import ScriptAudit.Proofs.Suppression.Filter
import ScriptAudit.Proofs.Rule.Registration
import ScriptAudit.Proofs.Rule.Lookup
import ScriptAudit.Proofs.Value.Dictionary
import ScriptAudit.Proofs.Value.Overlay
import ScriptAudit.Proofs.Rule.Arguments
import ScriptAudit.Proofs.Rule.Loading
import ScriptAudit.Proofs.Settings.PlainForm
import ScriptAudit.Proofs.Number.Canonical
import ScriptAudit.Proofs.Number.Quantity
import ScriptAudit.Proofs.Value.Matched
import ScriptAudit.Proofs.Value.Equality
import ScriptAudit.Proofs.Value.Hashing
import ScriptAudit.Proofs.Syntax.Occurrence
import ScriptAudit.Proofs.Text.Lowered
import ScriptAudit.Proofs.Value.Mapping
import ScriptAudit.Proofs.Suppression.Brackets
import ScriptAudit.Proofs.CommandLine.Outcome
