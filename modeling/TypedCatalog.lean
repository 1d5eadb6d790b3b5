import TypedCatalog.Main
import TypedCatalog.Files.Tree
import TypedCatalog.Proofs.Acceptance
import TypedCatalog.Proofs.Units
import TypedCatalog.Proofs.Delivery
import TypedCatalog.Proofs.PlainResolution
import TypedCatalog.Proofs.FieldTyping
import TypedCatalog.Proofs.Imports
import TypedCatalog.Proofs.FailedFields
import TypedCatalog.Proofs.FailedRuns
import TypedCatalog.Proofs.LowerCase
import TypedCatalog.Proofs.Stems
import TypedCatalog.Proofs.TypeNames
import TypedCatalog.Proofs.CommentEnd
import TypedCatalog.Proofs.NoteLines
import TypedCatalog.Proofs.DocBlocks
import TypedCatalog.Proofs.LiteralReading
import TypedCatalog.Proofs.Tokens
import TypedCatalog.Proofs.TypeReading
import TypedCatalog.Proofs.ResolvedTypes
import TypedCatalog.Proofs.UnitReading
import TypedCatalog.Proofs.ModelReading
import TypedCatalog.Proofs.Documents
import TypedCatalog.Proofs.ChoiceRecords
import TypedCatalog.Proofs.SnapshotContent
import TypedCatalog.Proofs.DocumentRuns
import TypedCatalog.Proofs.FieldIsolation
import TypedCatalog.Proofs.DocumentOrder
import TypedCatalog.Proofs.SinkCalls
import TypedCatalog.Proofs.Interleaving
import TypedCatalog.Proofs.StoreHistory
import TypedCatalog.Proofs.KeyColumns
import TypedCatalog.Proofs.Escapes
import TypedCatalog.Proofs.TypeText
import TypedCatalog.Proofs.IndexReading
import TypedCatalog.Proofs.RelationChecks
import TypedCatalog.Proofs.StrictExports
import TypedCatalog.Proofs.CollisionReports
import TypedCatalog.Proofs.RelationProblems
import TypedCatalog.Proofs.Refusals
import TypedCatalog.Proofs.Spellings
import TypedCatalog.Proofs.Singulars
import TypedCatalog.Proofs.ReservedWords
import TypedCatalog.Proofs.UnionLaws
import TypedCatalog.Proofs.ChoiceTypes
import TypedCatalog.Proofs.KindNames
