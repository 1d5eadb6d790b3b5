import TypedCatalog.Generation.Error
import TypedCatalog.TypeExpr.Basic

/-!
# Types of plain fields

The type of a field that no relation claims and that has no choices depends on its kind alone.
-/

namespace TypedCatalog

/-- The type of values of a kind. Alias fields, bytes, geometries and unknown kinds have none. -/
def Kind.scalarType : Kind → Except ResolveError TypeExpr
  | .boolean => .ok .boolean
  | .integer | .bigInteger | .float | .decimal => .ok .number
  | .dateTime | .date | .time | .timestamp => .ok .string
  | .text | .string | .uuid | .hash => .ok .string
  | .json => .ok .any
  | .csv => .ok (.array .string)
  | kind => .error (.unsupportedKind kind.name)

end TypedCatalog
