import LineCalc.Binary64.Basic
import LineCalc.Binary64.Shortest
import LineCalc.Calendar
import LineCalc.CommandLine.Invocation
import LineCalc.CommandLine.Options
import LineCalc.CommandLine.Run
import LineCalc.Data.Conversion
import LineCalc.Data.Problem
import LineCalc.Data.Value
import LineCalc.Data.Written
import LineCalc.Display.Action
import LineCalc.Display.Color
import LineCalc.Display.Emoji
import LineCalc.Display.EmojiNames
import LineCalc.Display.Markup
import LineCalc.Display.Prompt
import LineCalc.Display.Style
import LineCalc.Display.Table
import LineCalc.Display.Tone
import LineCalc.Drawing
import LineCalc.Evaluation
import LineCalc.ExactValue
import LineCalc.Failure
import LineCalc.Journal
import LineCalc.Line
import LineCalc.Literal.Choice
import LineCalc.Literal.Escapes
import LineCalc.Literal.Expression
import LineCalc.Literal.Flaw
import LineCalc.Literal.Formatted
import LineCalc.Literal.Grammar
import LineCalc.Literal.Numerals
import LineCalc.Literal.Reading
import LineCalc.Literal.Token
import LineCalc.Main
import LineCalc.Numeral
import LineCalc.Outline
import LineCalc.Proofs.Acceptance
import LineCalc.Proofs.BadCharacters
import LineCalc.Proofs.DeepGroups
import LineCalc.Proofs.FaithfulTrees
import LineCalc.Proofs.GrammarTrees
import LineCalc.Proofs.JoinedLines
import LineCalc.Proofs.Lexing
import LineCalc.Proofs.LinePartition
import LineCalc.Proofs.LineTrees
import LineCalc.Proofs.MissingTokens
import LineCalc.Proofs.MovedTokens
import LineCalc.Proofs.NormalForm
import LineCalc.Proofs.PrintedText
import LineCalc.Proofs.Reads
import LineCalc.Proofs.SafeEvaluation
import LineCalc.Proofs.StackEvaluation
import LineCalc.Proofs.TokenReckoning
import LineCalc.Proofs.ViablePrefixes
import LineCalc.Reckoning
import LineCalc.Session
import LineCalc.Settings.Basic
import LineCalc.Settings.Level
import LineCalc.Settings.Loading
import LineCalc.Settings.Reading
import LineCalc.Settings.Section
import LineCalc.Syntax.Diagnostic
import LineCalc.Syntax.Expr
import LineCalc.Syntax.Grammar
import LineCalc.Syntax.Kind
import LineCalc.Syntax.Lexer
import LineCalc.Syntax.Operation
import LineCalc.Syntax.Parser
import LineCalc.Syntax.Printing
import LineCalc.Syntax.Partition
import LineCalc.Syntax.Rules
import LineCalc.Syntax.Shape
import LineCalc.Syntax.Token
import LineCalc.Syntax.TokenRecord
import LineCalc.Syntax.Tree
import LineCalc.Text.Blank
import LineCalc.Text.CaseRuns
import LineCalc.Text.CharName.AToB
import LineCalc.Text.CharName.Basic
import LineCalc.Text.CharName.CToD
import LineCalc.Text.CharName.EToL
import LineCalc.Text.CharName.Lookup
import LineCalc.Text.CharName.MToR
import LineCalc.Text.CharName.SToZ
import LineCalc.Text.CharRanges
import LineCalc.Text.DecimalDigit
import LineCalc.Text.LetterForms
import LineCalc.Text.Lines
import LineCalc.Text.LowerCase
import LineCalc.Text.NameChar
import LineCalc.Text.Printable
import LineCalc.Text.Quoted
import LineCalc.Text.Split
import LineCalc.Text.UpperCase
import LineCalc.Text.Width
import LineCalc.Text.WordChar
import LineCalc.Toml.Document
import LineCalc.Toml.Scalar
import LineCalc.Toml.Text
import LineCalc.Toml.Value
import LineCalc.Word
import LineCalc.Workbench
import LineCalc.Proofs.Counterparts
import LineCalc.Proofs.BlankVariants
import LineCalc.Proofs.JoinedSums
import LineCalc.Proofs.Contexts
import LineCalc.Proofs.DecimalNumerals
import LineCalc.Proofs.LineDepth
import LineCalc.Proofs.GroupSubstitution
import LineCalc.Syntax.Descent
import LineCalc.Proofs.Descent
import LineCalc.Proofs.ParserRuns
import LineCalc.Proofs.SharedLogs
import LineCalc.Proofs.SessionRuns
import LineCalc.Proofs.ValidSettings
import LineCalc.Proofs.EvaluationRounds
import LineCalc.Proofs.ExactValues
import LineCalc.Proofs.ExpressionRuns
import LineCalc.Proofs.TomlReading
import LineCalc.Proofs.TomlDocuments
import LineCalc.Proofs.UnreadableFiles
import LineCalc.Proofs.Division
import LineCalc.Proofs.SplitLexing
import LineCalc.Proofs.NumberTokens
import LineCalc.Proofs.LexerRuns
import LineCalc.Proofs.TrailingInput
import LineCalc.Proofs.CascadeBounds
import LineCalc.Proofs.NumeralGrammar
import LineCalc.Proofs.LeadingZeros
import LineCalc.Proofs.DrawnPaths
import LineCalc.Proofs.ReadableDrawings
import LineCalc.Proofs.SkippedGroups
import LineCalc.Proofs.StableSettings
import LineCalc.Proofs.Lookahead
