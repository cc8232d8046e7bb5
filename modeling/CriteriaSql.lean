import CriteriaSql.Adapter
import CriteriaSql.Main
import CriteriaSql.Schema.Describe
import CriteriaSql.Double.Reader
import CriteriaSql.Proofs.Text.Separated
import CriteriaSql.Proofs.Text.Pieces
import CriteriaSql.Proofs.Config.Redaction
import CriteriaSql.Proofs.Criteria.Fold
import CriteriaSql.Proofs.Sql.Numeral
import CriteriaSql.Proofs.Sql.Piece
import CriteriaSql.Proofs.Sql.Rendering
import CriteriaSql.Proofs.Sql.Quoting
import CriteriaSql.Proofs.Sql.SelectRendering
import CriteriaSql.Proofs.Criteria.Shape
import CriteriaSql.Proofs.Sql.Isolation
import CriteriaSql.Proofs.Criteria.Attributes
import CriteriaSql.Proofs.Criteria.Language
import CriteriaSql.Proofs.Criteria.Acceptance
import CriteriaSql.Proofs.Adapter.Run
import CriteriaSql.Proofs.Sql.Grammar
import CriteriaSql.Proofs.Sql.Reader
import CriteriaSql.Proofs.Sql.Lexing
import CriteriaSql.Proofs.Sql.SelectLexing
import CriteriaSql.Proofs.Sql.Meaning
import CriteriaSql.Proofs.Sql.JsonMeaning
import CriteriaSql.Proofs.Sql.SelectMeaning
import CriteriaSql.Proofs.Sql.Emptiness
import CriteriaSql.Proofs.Sql.AggregateLexing
import CriteriaSql.Proofs.Sql.AggregateColumns
import CriteriaSql.Proofs.Sql.SelectGrammar
import CriteriaSql.Proofs.Sql.InsertReading
import CriteriaSql.Proofs.Criteria.KeyOrder
import CriteriaSql.Proofs.Config.Identities
import CriteriaSql.Proofs.Criteria.Sameness
import CriteriaSql.Proofs.Sql.EqualCriteria
import CriteriaSql.Proofs.Double.Gaps
import CriteriaSql.Proofs.Sql.IntegerLiterals
import CriteriaSql.Proofs.Sql.LikePatterns
import CriteriaSql.Proofs.Sql.PatternParts
import CriteriaSql.Proofs.Sql.Places
import CriteriaSql.Proofs.Sql.RegexOperands
import CriteriaSql.Proofs.Sql.NullLiterals
import CriteriaSql.Proofs.Calendar.Days
import CriteriaSql.Proofs.Calendar.DateOrder
import CriteriaSql.Proofs.Sql.ColumnLists
import CriteriaSql.Proofs.Sql.RowCriteria
import CriteriaSql.Proofs.OrderedMap
import CriteriaSql.Proofs.Schema.Description
import CriteriaSql.Proofs.Schema.TableText
import CriteriaSql.Proofs.Sql.OutputNames
import CriteriaSql.Proofs.Text.Rendered
import CriteriaSql.Proofs.Adapter.RowTrimming
import CriteriaSql.Proofs.Cli.SelectRun
import CriteriaSql.Proofs.Schema.DefinitionSpellings
