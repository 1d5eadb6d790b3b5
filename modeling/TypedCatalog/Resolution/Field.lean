import TypedCatalog.Resolution.Choices
import TypedCatalog.Resolution.Relation

/-!
# The type of a field

The first of three strategies that claims a field decides its type: a relation, then choices, then
the field's kind. A field that a relation claims is not looked up, not even if the relation fails.
-/

namespace TypedCatalog

/-- All that the types of fields depend on. -/
structure Resolver where
  /-- The catalog and its relations. -/
  view : RelationView
  /-- The source of choices. -/
  source : ChoiceSource
  /-- The time limit of a lookup, in milliseconds. -/
  limit : Option Nat

/-- What becomes of a field: a type, or the reason for having none. -/
abbrev FieldResult := Except ResolveError Resolution

namespace Resolver

/-- The resolver of a catalog. -/
def ofCatalog (catalog : Catalog) (source : ChoiceSource) (limit : Option Nat) : Resolver :=
  ⟨.ofCatalog catalog, source, limit⟩

/-- The direction in which relations claim a field. -/
def direction (field : Field) : Direction :=
  if field.isAlias then .reverse else .forward

/-- The type of a field that no relation claims. -/
def unrelated (resolver : Resolver) (key : FieldKey) (kind : Kind) :
    Except GenerationError FieldResult :=
  match resolver.source.choiceType resolver.limit key with
  | .ok (some type) => .ok (.ok ⟨type, none⟩)
  | .ok none => .ok ((⟨·, none⟩) <$> kind.scalarType)
  | .error (.field error) => .ok (.error error)
  | .error (.fatal error) => .error (.metadata key error)

/-- What becomes of a field of the given collection; the outer error ends the run. -/
def resolve (resolver : Resolver) (collection : String) (field : Field) :
    Except GenerationError FieldResult :=
  match resolver.view.classify (direction field) ⟨collection, field.name⟩ field.kind with
  | .ok (some resolution) => .ok (.ok resolution)
  | .ok none => resolver.unrelated ⟨collection, field.name⟩ field.kind
  | .error error => .ok (.error error)

end Resolver

end TypedCatalog
