import PolySql.DataType.Reading
import PolySql.Schema.Change
import PolySql.Introspection
import PolySql.Settings.Load
import PolySql.Proofs.Kept
import PolySql.Proofs.WellFormed
import PolySql.Proofs.Closing
import PolySql.Proofs.Placeholders
import PolySql.Proofs.Parameters
import PolySql.Proofs.Masking
import PolySql.Proofs.Meaning
import PolySql.Proofs.Unmarked
import PolySql.Proofs.Nesting
import PolySql.Proofs.Reordering
import PolySql.Proofs.Parts
import PolySql.Proofs.Entries
import PolySql.Proofs.Literals
import PolySql.Proofs.Patterns
import PolySql.Proofs.QuotedNames
import PolySql.Proofs.Renaming
import PolySql.Proofs.ColumnNames
import PolySql.Proofs.TypeNames
import PolySql.Proofs.Rows
import PolySql.Proofs.EmptyGroups
import PolySql.Proofs.Synonyms
import PolySql.Proofs.Batches
import PolySql.Proofs.RowLimits
import PolySql.Proofs.Refusals
import PolySql.Proofs.Expansion
import PolySql.Proofs.ValidSettings
import PolySql.Proofs.Respelling
import PolySql.Proofs.NormalForms
import PolySql.Proofs.ByteOffsets
import PolySql.Proofs.TypeGrammar
import PolySql.Proofs.Registrations
