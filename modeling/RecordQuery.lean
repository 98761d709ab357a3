import RecordQuery.Declaration.Description
import RecordQuery.Field
import RecordQuery.Main
import RecordQuery.Proofs.QueryMeaning
import RecordQuery.Proofs.PathAgreement
import RecordQuery.Proofs.Rejection
import RecordQuery.Proofs.NarrowingLaws
import RecordQuery.Proofs.Joins
import RecordQuery.Proofs.Registered
import RecordQuery.Proofs.ColumnType
import RecordQuery.Proofs.Conformance
import RecordQuery.Proofs.LoadedFixture
import RecordQuery.Proofs.CellNames
import RecordQuery.Proofs.ExpressionLaws
import RecordQuery.Proofs.LenientResolving
import RecordQuery.Proofs.Accumulation
import RecordQuery.Proofs.ListingLimits
import RecordQuery.Proofs.DisplayedValues
import RecordQuery.Proofs.RenderedCells
import RecordQuery.Proofs.AbsentValues
import RecordQuery.Proofs.ZonedLiterals
import RecordQuery.Proofs.CaselessSearch
import RecordQuery.Proofs.BracketedNumbers
import RecordQuery.Proofs.ComparisonOperators
import RecordQuery.Proofs.OrderedNarrowing
import RecordQuery.Proofs.MapHistories
import RecordQuery.Proofs.OrderNotation
import RecordQuery.Proofs.IntegerLiterals
import RecordQuery.Proofs.HiddenFields
