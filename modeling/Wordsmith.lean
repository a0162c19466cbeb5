import Wordsmith.Article
import Wordsmith.Block.Attributes
import Wordsmith.Block.Basic
import Wordsmith.Block.Repeater
import Wordsmith.Bracket
import Wordsmith.Casing
import Wordsmith.Channel.Basic
import Wordsmith.Channel.Stack
import Wordsmith.Comparison
import Wordsmith.Config.Basic
import Wordsmith.Config.Ron
import Wordsmith.Decimal.Binary
import Wordsmith.Decimal.Reading
import Wordsmith.Decimal.Shortest
import Wordsmith.Draw.Characters
import Wordsmith.Draw.Generator
import Wordsmith.Draw.Weighted
import Wordsmith.Draw.Word
import Wordsmith.Engine
import Wordsmith.Expression
import Wordsmith.Limit
import Wordsmith.Lint
import Wordsmith.Machine.Basic
import Wordsmith.Machine.Call
import Wordsmith.Machine.Coherent
import Wordsmith.Machine.Descent
import Wordsmith.Machine.Dictionary
import Wordsmith.Machine.Effect
import Wordsmith.Machine.Ensures
import Wordsmith.Machine.Frame
import Wordsmith.Machine.Perform
import Wordsmith.Machine.Run
import Wordsmith.Machine.Scene
import Wordsmith.Machine.Stage
import Wordsmith.Machine.Step
import Wordsmith.Machine.Turn
import Wordsmith.Main
import Wordsmith.Named
import Wordsmith.Numeral
import Wordsmith.Order.Basic
import Wordsmith.Order.Shared
import Wordsmith.Pattern
import Wordsmith.Playground
import Wordsmith.Proofs.Balance
import Wordsmith.Proofs.Cost
import Wordsmith.Proofs.Evaluation
import Wordsmith.Proofs.Isolation
import Wordsmith.Proofs.Likeness.Acts
import Wordsmith.Proofs.Likeness.Machines
import Wordsmith.Proofs.Likeness.Reading
import Wordsmith.Proofs.Likeness.Recall
import Wordsmith.Proofs.Likeness.Runs
import Wordsmith.Proofs.Likeness.Standard
import Wordsmith.Proofs.Likeness.Steps
import Wordsmith.Proofs.Linted
import Wordsmith.Proofs.Metapatterns
import Wordsmith.Proofs.Moves
import Wordsmith.Proofs.Nesting
import Wordsmith.Proofs.Passages
import Wordsmith.Proofs.Quoting
import Wordsmith.Proofs.Reach
import Wordsmith.Proofs.Results
import Wordsmith.Proofs.Scanning
import Wordsmith.Proofs.Solvency
import Wordsmith.Proofs.Stepping
import Wordsmith.Reader.Basic
import Wordsmith.Reader.Extent
import Wordsmith.Reader.Scope
import Wordsmith.Regex.Fault
import Wordsmith.Regex.Footprint
import Wordsmith.Regex.Meaning
import Wordsmith.Regex.Node
import Wordsmith.Regex.Parser
import Wordsmith.Regex.Program
import Wordsmith.Regex.Property
import Wordsmith.Regex.Property.Binary
import Wordsmith.Regex.Property.Break
import Wordsmith.Regex.Property.Category
import Wordsmith.Regex.Property.Script
import Wordsmith.Regex.Search
import Wordsmith.Regex.Tree
import Wordsmith.Regex.Utf8
import Wordsmith.Ron.Lexis
import Wordsmith.Ron.Quoted
import Wordsmith.Ron.Reader
import Wordsmith.Ron.Value
import Wordsmith.RunError
import Wordsmith.Subroutine
import Wordsmith.Tag.Basic
import Wordsmith.Tag.Table
import Wordsmith.Text.Age
import Wordsmith.Text.Category.Additions
import Wordsmith.Text.Category.Letters
import Wordsmith.Text.Category.Marks
import Wordsmith.Text.Category.Numbers
import Wordsmith.Text.Category.Others
import Wordsmith.Text.Category.Punctuation
import Wordsmith.Text.Category.Symbols
import Wordsmith.Text.CharSet
import Wordsmith.Text.Count
import Wordsmith.Text.LetterCase
import Wordsmith.Text.LetterCase.Folding
import Wordsmith.Text.LetterCase.FoldingTable
import Wordsmith.Text.LetterCase.Table
import Wordsmith.Text.Property
import Wordsmith.Text.Script.AtoK
import Wordsmith.Text.Script.LtoR
import Wordsmith.Text.Script.Shared
import Wordsmith.Text.Script.StoZ
import Wordsmith.Text.Slice
import Wordsmith.Text.Stride
import Wordsmith.Text.Trait.Break
import Wordsmith.Text.Trait.Case
import Wordsmith.Text.Trait.Emoji
import Wordsmith.Text.Trait.Identifier
import Wordsmith.Text.Trait.Ideograph
import Wordsmith.Text.Trait.Mark
import Wordsmith.Text.Trait.Punctuation
import Wordsmith.Token.Basic
import Wordsmith.Token.Lexer
import Wordsmith.Token.Literal
import Wordsmith.Tool.Files
import Wordsmith.Tool.PatternLint
import Wordsmith.Tool.Preview
import Wordsmith.Tool.Report
import Wordsmith.Total
import Wordsmith.Vocabulary.Basic
import Wordsmith.Vocabulary.Query
import Wordsmith.Vocabulary.Source
import Wordsmith.Proofs.Programs.Brackets
import Wordsmith.Proofs.Programs.Lines
import Wordsmith.Proofs.Programs.Running
import Wordsmith.Proofs.Programs.Substitution
import Wordsmith.Proofs.Blocks.Weights
import Wordsmith.Proofs.Blocks.Orders
import Wordsmith.Proofs.Blocks.Syntax
import Wordsmith.Proofs.Blocks.Tags
import Wordsmith.Proofs.Blocks.Jobs
import Wordsmith.Proofs.Blocks.Repetition
import Wordsmith.Proofs.Blocks.Output
import Wordsmith.Proofs.Growth
import Wordsmith.Proofs.OutputTests
import Wordsmith.Proofs.Steadiness
import Wordsmith.Proofs.Conditions
import Wordsmith.Proofs.ScopedBranches
import Wordsmith.Proofs.Visits
import Wordsmith.Proofs.Separators
import Wordsmith.Proofs.Suppression
import Wordsmith.Proofs.Caching
import Wordsmith.Proofs.Literals.Runs
import Wordsmith.Proofs.Chunks
import Wordsmith.Proofs.Positions
import Wordsmith.Proofs.Passes
import Wordsmith.Proofs.Carriers
import Wordsmith.Proofs.Articles
import Wordsmith.Proofs.Splitting
import Wordsmith.Proofs.Capitals
import Wordsmith.Proofs.Charges
import Wordsmith.Proofs.Arguments
import Wordsmith.Proofs.Markers
import Wordsmith.Proofs.Targets
import Wordsmith.Proofs.Scopes
import Wordsmith.Proofs.Spelling
import Wordsmith.Proofs.Escapes
import Wordsmith.Proofs.Comments
import Wordsmith.Proofs.Unclosed
import Wordsmith.Proofs.Openers
import Wordsmith.Proofs.Joining
import Wordsmith.Proofs.TagArguments
import Wordsmith.Proofs.Walks
import Wordsmith.Proofs.Pins
import Wordsmith.Proofs.Branching
import Wordsmith.Proofs.Rewinding
import Wordsmith.Proofs.Sharing
import Wordsmith.Proofs.Mixing
import Wordsmith.Proofs.Integers
import Wordsmith.Proofs.Characters
import Wordsmith.Proofs.Queries
import Wordsmith.Proofs.Replacing
import Wordsmith.Proofs.Grouping
import Wordsmith.Proofs.Verbal
import Wordsmith.Proofs.Grammar
import Wordsmith.Proofs.Blocks.CuedOutput
