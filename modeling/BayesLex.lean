import BayesLex.Arguments.Basic
import BayesLex.Arguments.Draft
import BayesLex.Arguments.Reader
import BayesLex.Color
import BayesLex.Configuration
import BayesLex.Event
import BayesLex.FileTree
import BayesLex.Input
import BayesLex.Kind
import BayesLex.Lexer
import BayesLex.LexicalError
import BayesLex.Listing
import BayesLex.Main
import BayesLex.Position
import BayesLex.Program
import BayesLex.Proofs.Locality
import BayesLex.Proofs.MaximalMunch
import BayesLex.Proofs.Regex.Anchored
import BayesLex.Proofs.Regex.Backtracking
import BayesLex.Proofs.Regex.Captures
import BayesLex.Proofs.Regex.Numbering
import BayesLex.Proofs.Regex.Patterns
import BayesLex.Proofs.Regex.Search
import BayesLex.Proofs.Resumption
import BayesLex.Proofs.Rule
import BayesLex.Proofs.Scan
import BayesLex.Proofs.Scanner
import BayesLex.Proofs.StandardTable
import BayesLex.Proofs.Text.Slices
import BayesLex.Proofs.Text.Stretches
import BayesLex.Proofs.Tiling
import BayesLex.Proofs.WordMemo
import BayesLex.Regex.Automaton
import BayesLex.Regex.Basic
import BayesLex.Regex.Combinators
import BayesLex.Regex.Engine
import BayesLex.Regex.Limits
import BayesLex.Regex.Place
import BayesLex.Regex.Plan
import BayesLex.Regex.Reader
import BayesLex.Regex.SetReader
import BayesLex.Regex.Thread
import BayesLex.Regex.Weight
import BayesLex.Rule
import BayesLex.Rule.Description
import BayesLex.RuleTable
import BayesLex.Sample
import BayesLex.Scanner
import BayesLex.Session
import BayesLex.Span
import BayesLex.Text.Basic
import BayesLex.Text.Blank
import BayesLex.Text.Digit
import BayesLex.Text.Field
import BayesLex.Text.Letter
import BayesLex.Text.Number
import BayesLex.Text.Quoted
import BayesLex.Text.Ranges
import BayesLex.Text.Shown
import BayesLex.Text.Utf8
import BayesLex.Text.Word
import BayesLex.Token
import BayesLex.TokenStream
import BayesLex.Toml.Reader
import BayesLex.Toml.Scalar
import BayesLex.Toml.Strings
import BayesLex.Toml.Value
import BayesLex.Transcript
import BayesLex.Vocabulary
import BayesLex.WordMemo
import BayesLex.Proofs.Finality
import BayesLex.Proofs.PlainScan
import BayesLex.Proofs.Separators
import BayesLex.Proofs.Recovery
import BayesLex.Proofs.Layout
import BayesLex.Proofs.Text.Lines
import BayesLex.Proofs.Position
import BayesLex.Proofs.Diagnostics
import BayesLex.Proofs.Text.Numerals
import BayesLex.Proofs.Text.Quoted
import BayesLex.Proofs.Listing
import BayesLex.Proofs.Checking
import BayesLex.Proofs.Conversation
import BayesLex.Proofs.Application
import BayesLex.Proofs.Log
import BayesLex.Proofs.UnreadableFiles
import BayesLex.Proofs.Regex.Groups
import BayesLex.Proofs.HeadPattern
import BayesLex.Proofs.Coordinates
import BayesLex.Proofs.Measuring
import BayesLex.Proofs.Queue
import BayesLex.Proofs.Regex.Ungrouped
import BayesLex.Proofs.Regex.Consecutive
import BayesLex.Proofs.Regex.Nesting
import BayesLex.Proofs.Regex.GroupSequence
import BayesLex.Proofs.GroupTokens
import BayesLex.Proofs.SpanDirection
import BayesLex.Proofs.ErrorTokens
import BayesLex.Proofs.StringLiteral
import BayesLex.Proofs.Regex.Matching
import BayesLex.Proofs.Regex.Soundness
import BayesLex.Proofs.AnchoredPattern
import BayesLex.Proofs.Comments
import BayesLex.Proofs.Text.Bytes
import BayesLex.Proofs.Calls
import BayesLex.Proofs.Colors
import BayesLex.Proofs.Columns
