import Mathlib.Data.Set.Function
import TypedCatalog.Proofs.ResolvedTypes
import TypedCatalog.Proofs.Units

/-!
# Types told by their texts

A reader of types takes the text of a normal type back to the type (`TypeExpr.ofText?_text`), so no
two normal types have one text: brackets bind closer than bars, unions of items stand in
parentheses, and what a literal or a key holds stays inside its quotes. All types that the models of
an accepted catalog declare are normal (`Generator.normal_of_mem_members`), whatever relations,
choices and kinds they come from.
-/

namespace TypedCatalog

namespace Generator

variable {generator : Generator}

/-- The members of a model are declared with normal types. -/
theorem normal_of_mem_members (accepted : generator.accept = .ok ()) {entity : Entity}
    {model : Model} (h : generator.resolver.model entity = .ok model) {member : MemberDecl}
    (hmember : member ∈ model.declaration.members) : member.type.Normal := by
  obtain ⟨field, -, outcome, houtcome, rfl⟩ :=
    exists_mem_of_forall₂ (Resolver.forall₂_members h) member hmember
  obtain ⟨result, hresult, rfl⟩ := map_eq_ok.mp houtcome
  exact normal_outcome accepted hresult

end Generator

namespace TypeExpr

/-- The text of a type is unambiguous. Every normal type is read back from its text, so that no two
have one text, and whatever a model of an accepted catalog declares is normal. -/
theorem text_unambiguous :
    (∀ type : TypeExpr, type.Normal → ofText? type.text = some type) ∧
      Set.InjOn text {type | type.Normal} ∧
      ∀ (generator : Generator) (entity : Entity) (model : Model),
        generator.accept = .ok () → generator.resolver.model entity = .ok model →
          ∀ member ∈ model.declaration.members, member.type.Normal := by
  refine ⟨fun type htype => ofText?_text htype, fun type htype other hother hsame => ?_,
    fun generator entity model accepted hmodel member hmember => ?_⟩
  · exact Normal.eq_of_text_eq htype hother hsame
  · exact Generator.normal_of_mem_members accepted hmodel hmember

/-- Arrays of unions inside each other, with bars, brackets and quotes in a literal and in a key. -/
def nested : TypeExpr :=
  array (union [array (union [reference "Author", literal "a' | (b)[]"]),
    indexedAccess "Author" "x\"] | null", null])

/-- The nested type reads back, and the members of the articles are normal. -/
theorem text_unambiguous_nested :
    nested.Normal ∧
      nested.text = "((Author | 'a\\' | (b)[]')[] | Author[\"x\\\"] | null\"] | null)[]" ∧
      ofText? nested.text = some nested ∧
      ∃ model, Generator.blog.accept = .ok () ∧
        (∃ entity, entity.collection = "articles" ∧
          Generator.blog.resolver.model entity = .ok model) ∧
        model.declaration.members.map (·.type.text) =
          ["Author | Author[\"id\"] | null", "string[]", "never"] ∧
        ∀ member ∈ model.declaration.members, member.type.Normal := by
  have hauthor : IsTypeName "Author" := ⟨rfl, fun word => by cases word <;> decide⟩
  have hnested : nested.Normal :=
    ⟨by decide, ⟨rfl, by decide, ⟨rfl, hauthor⟩, ⟨rfl, trivial⟩, trivial⟩, ⟨rfl, hauthor⟩,
      ⟨rfl, trivial⟩, trivial⟩
  obtain ⟨hread, -, hmembers⟩ := text_unambiguous
  obtain ⟨entity, model, hname, hmodel, htexts⟩ :
      ∃ entity model, entity.collection = "articles" ∧
        Generator.blog.resolver.model entity = .ok model ∧
        model.declaration.members.map (·.type.text) =
          ["Author | Author[\"id\"] | null", "string[]", "never"] :=
    ⟨Generator.blog.catalog.entities.toList[1], _, rfl, rfl, by decide⟩
  exact ⟨hnested, by decide, hread nested hnested, model, rfl, ⟨entity, hname, hmodel⟩, htexts,
    hmembers Generator.blog entity model rfl hmodel⟩

end TypeExpr

end TypedCatalog
