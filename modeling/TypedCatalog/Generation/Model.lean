import TypedCatalog.Declaration.Model
import TypedCatalog.Resolution.Field

/-!
# The model of an entity

`Resolver.outcomes` resolves the fields of an entity one after the other. What is declared, imported
and reported is then read off the outcomes: a field without a type is declared as `never`, imports
nothing and is reported.
-/

namespace TypedCatalog

/-- A field and what became of it. -/
structure FieldOutcome where
  /-- The field. -/
  field : Field
  /-- Its type, or why it has none. -/
  result : FieldResult

namespace FieldOutcome

/-- The type that the field is declared with. -/
def type (outcome : FieldOutcome) : TypeExpr :=
  match outcome.result with
  | .ok resolution =>
    if outcome.field.nullable then resolution.type.orNull else resolution.type
  | .error _ => .never

/-- The import that the field needs. -/
def needs (outcome : FieldOutcome) : Option String :=
  match outcome.result with
  | .ok resolution => resolution.needs
  | .error _ => none

/-- The report on the field, if it has no type. -/
def diagnostic? (collection : String) (outcome : FieldOutcome) : Option Diagnostic :=
  match outcome.result with
  | .ok _ => none
  | .error cause => some ⟨⟨collection, outcome.field.name⟩, cause⟩

end FieldOutcome

/-- What is generated for an entity. -/
structure Model where
  /-- The declaration. -/
  declaration : ModelDecl
  /-- The reports on fields without a type, in order. -/
  diagnostics : List Diagnostic

/-- The model of an entity whose fields had the given outcomes. -/
def Model.ofOutcomes (entity : Entity) (outcomes : List FieldOutcome) : Model where
  declaration := {
    typeName := Naming.typeIdentifier entity.collection
    imports := firstOccurrences (outcomes.filterMap FieldOutcome.needs)
    collection := entity.collection
    note := entity.note
    members := outcomes.map fun outcome => ⟨outcome.field, outcome.type⟩ }
  diagnostics := outcomes.filterMap (FieldOutcome.diagnostic? entity.collection)

namespace Resolver

/-- Resolves a field of an entity. -/
def outcome (resolver : Resolver) (collection : String) (field : Field) :
    Except GenerationError FieldOutcome :=
  (⟨field, ·⟩) <$> resolver.resolve collection field

/-- Resolves the fields of an entity in order. -/
def outcomes (resolver : Resolver) (entity : Entity) :
    Except GenerationError (List FieldOutcome) :=
  entity.fields.toList.mapM (resolver.outcome entity.collection)

/-- The model of an entity; it fails only for a reason that ends the run. -/
def model (resolver : Resolver) (entity : Entity) : Except GenerationError Model :=
  Model.ofOutcomes entity <$> resolver.outcomes entity

end Resolver

end TypedCatalog
