import Cql.Command.Report
import Cql.Command.Request
import Cql.Compile.Action
import Cql.Compile.Error
import Cql.Compile.Filter
import Cql.Compile.LiteralPlacement
import Cql.Compile.ParameterName
import Cql.Compile.Queryables
import Cql.Compile.State
import Cql.Filter.Nesting
import Cql.Filter.Parse
import Cql.Filter.Resumption
import Cql.Filter.SyntaxError
import Cql.Grammar.Definition
import Cql.Grammar.Frontier
import Cql.Grammar.Matching
import Cql.Grammar.Pattern
import Cql.Grammar.Phrase
import Cql.Grammar.Rule
import Cql.Main
import Cql.Proofs.Grammar.Derivation
import Cql.Proofs.Grammar.Language
import Cql.Proofs.Grammar.MatchStep
import Cql.Sql.Dialect
import Cql.Sql.Fragment
import Cql.Sql.Function
import Cql.Sql.Identifier
import Cql.Sql.Operand
import Cql.Temporal.Condition
import Cql.Temporal.Period
import Cql.Text.Alphanumeric
import Cql.Text.Caseless
import Cql.Text.CodeRange
import Cql.Text.Escaped
import Cql.Text.GraphemeExtend
import Cql.Text.IdentifierContinue
import Cql.Text.IdentifierStart
import Cql.Text.Json
import Cql.Text.Offset
import Cql.Text.Unprintable
import Cql.Text.WhiteSpace
import Cql.Tree.Node
import Cql.Vocabulary.Keyword
import Cql.Vocabulary.Relation
import Cql.Proofs.Compile.OperandCount
import Cql.Proofs.Compile.Translation
import Cql.Proofs.Compile.FreshName
import Cql.Proofs.Compile.FirstOffence
import Cql.Proofs.Sql.Lexeme
import Cql.Proofs.Sql.SafeDialect
import Cql.Proofs.Compile.SqlSafety
import Cql.Proofs.Compile.LiteralBlindness
import Cql.Proofs.Grammar.Placement
import Cql.Proofs.Sql.TruthValue
import Cql.Proofs.Compile.BooleanMeaning
import Cql.Proofs.Sql.PairedFragment
import Cql.Proofs.Compile.BoundLiteral
import Cql.Proofs.Compile.PairedAction
import Cql.Proofs.Compile.PairedTranslation
import Cql.Proofs.Sql.Placeholder
import Cql.Proofs.Compile.UsedParameters
import Cql.Proofs.Compile.DialectAgreement
import Cql.Proofs.Compile.Template
import Cql.Proofs.Grammar.Depth
import Cql.Proofs.Grammar.Token
import Cql.Proofs.Grammar.TokenKind
import Cql.Proofs.Grammar.Recognition
import Cql.Proofs.Grammar.Lookahead
import Cql.Proofs.Grammar.OrderedChoice
import Cql.Proofs.Grammar.Contest
import Cql.Proofs.Grammar.TokenNesting
import Cql.Proofs.Grammar.Completeness
import Cql.Proofs.Text.Boundary
import Cql.Proofs.Grammar.FailurePlace
import Cql.Proofs.Filter.ErrorReport
import Cql.Proofs.Grammar.TokenCut
import Cql.Proofs.Grammar.Layout
import Cql.Proofs.Grammar.TreeHeight
import Cql.Proofs.Compile.LiteralTemplate
import Cql.Proofs.Temporal.Folding
import Cql.Proofs.Temporal.IntervalAlgebra
import Cql.Proofs.Command.CheckAgreement
import Cql.Proofs.Grammar.LetterCase
import Cql.Proofs.Grammar.Lexeme
import Cql.Proofs.Grammar.Relayout
import Cql.Proofs.Grammar.LexemeRow
import Cql.Proofs.Filter.Respelling
import Cql.Proofs.Filter.GeometryText
import Cql.Proofs.Compile.Respelling
import Cql.Proofs.Compile.NameRun
import Cql.Proofs.Compile.ColumnName
import Cql.Proofs.Grammar.FrontierPlace
import Cql.Proofs.Filter.OffendingText
import Cql.Proofs.Grammar.BracketBalance
import Cql.Proofs.Grammar.Span
import Cql.Proofs.Filter.CorrectTail
import Cql.Proofs.Filter.WordBoundary
import Cql.Proofs.Grammar.CallChain
import Cql.Proofs.Filter.Termination
import Cql.Proofs.Filter.Regrouping
import Cql.Proofs.Compile.Regrouping
import Cql.Proofs.Sql.Conversion
import Cql.Proofs.Compile.OperandUse
import Cql.Proofs.Compile.Comparand
import Cql.Proofs.Compile.ScalarConversion
import Cql.Proofs.Filter.ReopenedNesting
import Cql.Proofs.Compile.OperandStack
