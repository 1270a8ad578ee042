import MigrationAudit.Command.Run
import MigrationAudit.Files.Sources
import MigrationAudit.Main
import MigrationAudit.Report
import MigrationAudit.Session.Basic
import MigrationAudit.Settings.Reading
import MigrationAudit.Proofs.Schema.Columns
import MigrationAudit.Proofs.Schema.Known
import MigrationAudit.Proofs.Schema.Distinct
import MigrationAudit.Proofs.Check.Renaming
import MigrationAudit.Proofs.Check.DuplicatedIndex
import MigrationAudit.Proofs.Check.IndexHistory
import MigrationAudit.Proofs.Declaration
import MigrationAudit.Proofs.Session.Course
import MigrationAudit.Proofs.Rule.Silence
import MigrationAudit.Proofs.Schema.Typing
import MigrationAudit.Proofs.Session.StandardTypes
import MigrationAudit.Proofs.Check.RowBudget
import MigrationAudit.Proofs.Session.RowBudget
import MigrationAudit.Proofs.Schema.Nullability
import MigrationAudit.Proofs.Check.Tenant
import MigrationAudit.Proofs.Rule.StandardType
import MigrationAudit.Proofs.Storage.Size
import MigrationAudit.Proofs.Storage.StandardSizes
import MigrationAudit.Proofs.Schema.Origins
import MigrationAudit.Proofs.Schema.LowerCase
import MigrationAudit.Proofs.Session.VarcharLengths
import MigrationAudit.Proofs.Session.LowerCase
import MigrationAudit.Proofs.Schema.Renamed
import MigrationAudit.Proofs.Schema.Commuting
import MigrationAudit.Proofs.Check.Places
import MigrationAudit.Proofs.Check.Locality
import MigrationAudit.Proofs.Session.Comparison
import MigrationAudit.Proofs.Session.Ignoring
import MigrationAudit.Proofs.Session.Verdicts
import MigrationAudit.Proofs.Session.Insertion
import MigrationAudit.Proofs.Check.Failures
import MigrationAudit.Proofs.Session.Failures
import MigrationAudit.Proofs.Schema.Lookups
import MigrationAudit.Proofs.Schema.Masked
import MigrationAudit.Proofs.Schema.Absence
import MigrationAudit.Proofs.Session.Draws
import MigrationAudit.Proofs.Session.Skipping
import MigrationAudit.Proofs.Session.Duplicates
import MigrationAudit.Proofs.Session.WrittenNames
import MigrationAudit.Proofs.Session.Accounts
import MigrationAudit.Proofs.Session.Grouping
import MigrationAudit.Proofs.Session.Declarers
import MigrationAudit.Proofs.Session.EmptyPath
import MigrationAudit.Proofs.Session.Resembling
import MigrationAudit.Proofs.Json.Record
import MigrationAudit.Proofs.Changelog.Reading
import MigrationAudit.Proofs.Changelog.Spelling
import MigrationAudit.Proofs.Storage.TrueSize
import MigrationAudit.Proofs.Check.RowOverflow
import MigrationAudit.Proofs.Memory.IndexKeys
import MigrationAudit.Proofs.Memory.IndexMoves
import MigrationAudit.Proofs.Check.Retyping
import MigrationAudit.Proofs.Schema.Detached
import MigrationAudit.Proofs.Schema.Undone
import MigrationAudit.Proofs.Schema.Entries
import MigrationAudit.Proofs.Schema.Declared
import MigrationAudit.Proofs.Session.Continuing
import MigrationAudit.Proofs.Session.Redeclarations
import MigrationAudit.Proofs.Session.Inserters
import MigrationAudit.Proofs.Check.TenantOrder
import MigrationAudit.Proofs.Check.KeyBudget
import MigrationAudit.Proofs.Storage.Growth
import MigrationAudit.Proofs.Check.Blame
import MigrationAudit.Proofs.Check.RowGrowth
import MigrationAudit.Proofs.Check.NewColumns
import MigrationAudit.Proofs.Rule.StandardGrammar
import MigrationAudit.Proofs.Changelog.Carried
import MigrationAudit.Proofs.Path.Respelling
import MigrationAudit.Proofs.Check.LogicalPath
import MigrationAudit.Proofs.Check.NameLengths
import MigrationAudit.Proofs.Check.Identifiers
import MigrationAudit.Proofs.Session.Forbidden
import MigrationAudit.Proofs.Report
import MigrationAudit.Proofs.Settings.Limits
import MigrationAudit.Proofs.Check.ColumnLabels
import MigrationAudit.Proofs.Schema.OrderedMap
import MigrationAudit.Proofs.Check.TypeReading
import MigrationAudit.Proofs.Declaration.Parts
