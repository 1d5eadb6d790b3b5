import TypedCatalog.Catalog.Validation
import TypedCatalog.Files.Fault

/-!
# Failures of a field and of a run

A field that cannot be typed fails on its own (`ResolveError`): it is declared with the type
`never` and reported in a `Diagnostic`. A run fails as a whole only for the causes of
`GenerationError`.
-/

namespace TypedCatalog

/-- Why a relation gives its field no type. -/
inductive RelationProblem where
  /-- Several relations claim the field. -/
  | claimedBy (count : Nat) (key : FieldKey)
  /-- The field's relation names no collection that it points to. -/
  | withoutRelated (key : FieldKey)
  /-- The relation of `key` points to a collection that is not in the catalog. -/
  | unknownRelated (key : FieldKey) (related : String)
  deriving DecidableEq, Repr

/-- The wording of a relation's problem. -/
def RelationProblem.message : RelationProblem → String
  | .claimedBy count key => Json.countText count ++ " relations claim '" ++ key.text ++ "'"
  | .withoutRelated key => "relation on '" ++ key.text ++ "' has no related collection"
  | .unknownRelated key related =>
    "relation on '" ++ key.text ++ "' points to unknown collection '" ++ related ++ "'"

/-- Why a field has no type. -/
inductive ResolveError where
  /-- The schema's type has no counterpart. -/
  | unsupportedKind (kind : String)
  /-- The lookup of the choices failed. -/
  | lookup (error : LookupError)
  /-- The field's relation does not say what it points to. -/
  | relation (problem : RelationProblem)
  deriving DecidableEq, Repr

namespace ResolveError

/-- The wording of an error. -/
def message : ResolveError → String
  | unsupportedKind kind => "unsupported field type '" ++ kind ++ "'"
  | lookup error => "metadata query failed: " ++ error.message
  | relation problem => "ambiguous relation: " ++ problem.message

/-- What caused an error, the nearest cause first. -/
def causes : ResolveError → List String
  | lookup error => error.message :: error.causes
  | _ => []

end ResolveError

/-- The report of a field without a type. -/
structure Diagnostic where
  /-- The field. -/
  key : FieldKey
  /-- Why it has no type. -/
  cause : ResolveError
  deriving DecidableEq, Repr

/-- The wording of a report. -/
def Diagnostic.text (diagnostic : Diagnostic) : String :=
  diagnostic.key.text ++ ": " ++ diagnostic.cause.message

/-- Why a run failed. -/
inductive GenerationError where
  /-- The snapshot could not be read. -/
  | snapshot (error : SnapshotError)
  /-- The catalog is not fit. -/
  | catalog (error : CatalogError)
  /-- A file could not be read. -/
  | file (fault : FileFault)
  /-- The unit of a collection would have the file name of the index. -/
  | indexNameClash (collection identifier indexStem : String)
  /-- The source of choices failed in a way that concerns more than the field. -/
  | metadata (key : FieldKey) (error : LookupError)
  deriving DecidableEq, Repr

namespace GenerationError

/-- The wording of an error. -/
def message : GenerationError → String
  | snapshot error => "snapshot parse error: " ++ error.message
  | catalog error => "schema error: " ++ error.message
  | file fault => "IO error: " ++ fault.message
  | indexNameClash collection identifier indexStem =>
    "collection '" ++ collection ++ "' derives '" ++ identifier ++
      "', which names the same file as index '" ++ indexStem ++ "'"
  | metadata key error => "metadata transport error in '" ++ key.text ++ "': " ++ error.message

/-- What caused an error, the nearest cause first. -/
def causes : GenerationError → List String
  | snapshot error => error.message :: error.causes
  | catalog error => error.message :: error.causes
  | file fault => [fault.message]
  | indexNameClash _ _ _ => []
  | metadata _ error => error.message :: error.causes

end GenerationError

end TypedCatalog
