import TypedCatalog.Proofs.DocBlocks
import TypedCatalog.Proofs.ResolvedTypes
import TypedCatalog.Proofs.UnitReading

/-!
# Reading models back

The text of a model reads back as what the model declares: its imports, its type and one member for
each field, in order, with the type that the field resolved to (`Generator.readUnit_model`). All
that a catalog must not do is to end a comment with the name of a kind or of a column's type.
-/

namespace TypedCatalog

open Naming Text

/-! ### The text in pieces -/

/-- A comment that ends where it was meant to gives no tokens. -/
theorem DocBlock.lexes {block : DocBlock} (hindent : ∀ c ∈ block.indent.toList, c = ' ')
    (h : ¬ HoldsCommentEnd block.inside) : Lexes block.text.toList [] := by
  intro rest
  have hblanks : ∀ c ∈ block.indent.toList, isBlank c = true := by
    intro c hc
    rw [hindent c hc]
    rfl
  have hbody : ¬ HoldsCommentEnd ('*' :: block.inside) := by
    rw [inside, holdsCommentEnd_star_cons (by decide)]
    exact h
  have htext : block.text.toList ++ rest = block.indent.toList ++
      '/' :: '*' :: (('*' :: block.inside) ++ '*' :: '/' :: '\n' :: rest) := by
    rw [toList_text]
    simp
  rw [htext, tokens_blanks hblanks, tokens_comment hbody, tokens_feed]
  simp

/-- What a reader is to find of a member: the name of the field, and the type. -/
def MemberDecl.reading (member : MemberDecl) : String × TypeExpr :=
  (member.field.name, member.type)

namespace ModelDecl

theorem toList_text (decl : ModelDecl) :
    decl.text.toList = (importLines decl.imports).toList ++ (decl.header.text.toList ++
      (("export type " ++ decl.typeName ++ " = \x7b\n").toList ++
        (decl.members.flatMap (fun member => member.block.text.toList ++ member.line.toList) ++
          "\x7d;\n".toList))) := by
  delta text
  simp [text_header, MemberDecl.text, MemberDecl.text_block, List.flatMap_map]

/-- The tokens of a model's text are those of what it declares. -/
theorem tokens_text {decl : ModelDecl} (hname : isIdentifier decl.typeName)
    (himports : ∀ identifier ∈ decl.imports, isIdentifier identifier)
    (hmembers : ∀ member ∈ decl.members, member.type.Normal) (hcomments : decl.CommentsEnd) :
    tokens decl.text.toList =
      some (unitTokens decl.imports decl.typeName (decl.members.map MemberDecl.reading)) := by
  have hheader : Lexes decl.header.text.toList [] := by
    refine DocBlock.lexes (by simp [header]) ?_
    exact commentsEnd_iff.mp hcomments _ (comment_mem_pieces.mpr (.inl rfl))
  have hlines : ∀ member ∈ decl.members,
      Lexes (member.block.text.toList ++ member.line.toList) (memberTokens member.reading) := by
    intro member hmember
    have hblock : Lexes member.block.text.toList [] := by
      refine DocBlock.lexes (by simp [MemberDecl.block]) ?_
      exact commentsEnd_iff.mp hcomments _ (comment_mem_pieces.mpr (.inr ⟨member, hmember, rfl⟩))
    exact hblock.append (lexes_memberLine member.field.name (hmembers member hmember))
  have hall := (lexes_importLines himports).append (hheader.append ((lexes_heading hname).append
    ((Lexes.flatMap hlines).append lexes_end)))
  rw [toList_text, hall.tokens_eq, unitTokens, List.flatMap_map, List.nil_append]

end ModelDecl

/-! ### Members and fields -/

namespace Resolver

/-- What a field is to be read back as: its name, and the type that it resolved to, with null added
if it can be null, or `never` if it did not resolve. -/
inductive Declares (resolver : Resolver) (collection : String) (field : Field) :
    String × TypeExpr → Prop where
  /-- A field with a type. -/
  | typed {resolution : Resolution}
    (h : resolver.resolve collection field = .ok (.ok resolution)) :
    Declares resolver collection field
      (field.name, if field.nullable then resolution.type.orNull else resolution.type)
  /-- A field without a type. -/
  | failed {error : ResolveError} (h : resolver.resolve collection field = .ok (.error error)) :
    Declares resolver collection field (field.name, .never)

variable {resolver : Resolver} {entity : Entity} {model : Model}

theorem declares_iff {collection : String} {field : Field} {member : String × TypeExpr} :
    resolver.Declares collection field member ↔
      ∃ result, resolver.resolve collection field = .ok result ∧
        member = (field.name, FieldOutcome.type ⟨field, result⟩) := by
  constructor
  · rintro (h | h)
    · exact ⟨_, h, rfl⟩
    · exact ⟨_, h, rfl⟩
  · rintro ⟨result, h, rfl⟩
    cases result with
    | ok resolution => exact .typed h
    | error error => exact .failed h

/-- There is one thing that a field is to be read back as. -/
theorem rightUnique_declares (collection : String) :
    Relator.RightUnique (resolver.Declares collection) := by
  intro field member other h hother
  obtain ⟨result, hresult, rfl⟩ := declares_iff.mp h
  obtain ⟨otherResult, hotherResult, rfl⟩ := declares_iff.mp hother
  rw [hresult] at hotherResult
  cases hotherResult
  rfl

theorem declares_of_outcome {collection : String} {field : Field} {outcome : FieldOutcome}
    (h : resolver.outcome collection field = .ok outcome) :
    resolver.Declares collection field (outcome.field.name, outcome.type) := by
  obtain ⟨result, hresult, rfl⟩ := map_eq_ok.mp h
  exact declares_iff.mpr ⟨result, hresult, rfl⟩

/-- The members of a model are what the fields of the entity are to be read back as, in order. -/
theorem forall₂_declares (h : resolver.model entity = .ok model) :
    List.Forall₂ (resolver.Declares entity.collection) entity.fields.toList
      (model.declaration.members.map MemberDecl.reading) := by
  refine List.forall₂_map_right_iff.mpr ((forall₂_members h).imp ?_)
  rintro field member ⟨outcome, houtcome, rfl⟩
  have hdeclares := declares_of_outcome houtcome
  rwa [field_of_outcome houtcome] at hdeclares

/-- What a model imports is what some field of it needs. -/
theorem exists_needs_of_mem_imports (h : resolver.model entity = .ok model) {identifier : String}
    (hmem : identifier ∈ model.declaration.imports) :
    ∃ field resolution, resolver.resolve entity.collection field = .ok (.ok resolution) ∧
      resolution.needs = some identifier := by
  obtain ⟨outcomes, hall, rfl⟩ := model_eq_ok.mp h
  obtain ⟨outcome, houtcome, hneeds⟩ := List.mem_filterMap.mp (mem_firstOccurrences.mp hmem)
  obtain ⟨field, -, hfield⟩ := exists_mem_of_forall₂ hall outcome houtcome
  obtain ⟨result, hresult, rfl⟩ := map_eq_ok.mp hfield
  cases result with
  | ok resolution => exact ⟨field, resolution, hresult, hneeds⟩
  | error error => cases hneeds

end Resolver

namespace Generator

variable {generator : Generator}

/-- Whatever a field of an accepted catalog is to be read back as, its type is normal. -/
theorem normal_of_declares (accepted : generator.accept = .ok ()) {collection : String}
    {field : Field} {member : String × TypeExpr}
    (h : generator.resolver.Declares collection field member) : member.2.Normal := by
  obtain ⟨result, hresult, rfl⟩ := Resolver.declares_iff.mp h
  exact normal_outcome accepted hresult

/-- The text of a model reads back. If no field of an entity of an accepted catalog has the end of
a comment in the name of its kind or of its column's type, a reader that skips comments and takes
literals for what they stand for finds in the text of the entity's model exactly its imports, each
from its own path, its type, and one member for each field, in order, named by the field and with
the type that the field resolved to. -/
theorem readUnit_model (accepted : generator.accept = .ok ()) {entity : Entity}
    (h : entity ∈ generator.catalog.entities.toList)
    (hfields : ∀ field ∈ entity.fields.toList, ¬ HoldsCommentEnd field.kind.name.toList ∧
      ∀ type, field.databaseType = some type → ¬ HoldsCommentEnd type.toList)
    {model : Model} (hmodel : generator.resolver.model entity = .ok model) :
    ∃ members, List.Forall₂ (generator.resolver.Declares entity.collection) entity.fields.toList
        members ∧
      readUnit model.declaration.text = some {
        imports := model.declaration.imports.map fun identifier =>
          (identifier, importPath identifier)
        typeName := typeIdentifier entity.collection
        members := members } := by
  have hdeclares := Resolver.forall₂_declares hmodel
  have hnormal : ∀ member ∈ model.declaration.members.map MemberDecl.reading, member.2.Normal :=
    forall_mem_of_forall₂ (P := fun member : String × TypeExpr => member.2.Normal)
      (fun _ _ => normal_of_declares accepted) hdeclares
  have himports : ∀ identifier ∈ model.declaration.imports, isIdentifier identifier := by
    intro identifier hmem
    obtain ⟨field, resolution, hresolve, hneeds⟩ :=
      Resolver.exists_needs_of_mem_imports hmodel hmem
    exact ((isReadable_of_resolve accepted hresolve).needs identifier hneeds).isIdentifier
  have hcomments : model.declaration.CommentsEnd := by
    refine (ModelDecl.commentsEnd_iff_of_header
      (not_holdsCommentEnd_header accepted h hmodel)).mpr fun member hmember => ?_
    rw [← Resolver.map_field_members hmodel, List.forall_mem_map] at hfields
    exact hfields member hmember
  have hname := Resolver.typeName_of_model hmodel
  have htokens : tokens model.declaration.text.toList = some (unitTokens model.declaration.imports
      entity.typeName (model.declaration.members.map MemberDecl.reading)) := by
    rw [ModelDecl.tokens_text (hname ▸ isIdentifier_typeName accepted h) himports
      (fun member hmember => hnormal _ (List.mem_map_of_mem hmember)) hcomments, hname]
  exact ⟨_, hdeclares, readUnit_of_tokens htokens hnormal⟩

/-- Quotes in names and ends of comments in notes do not keep a model from reading back. -/
theorem readUnit_model_blog :
    ∃ entity model, blog.accept = .ok () ∧ entity ∈ blog.catalog.entities.toList ∧
      entity.collection = "articles" ∧ blog.resolver.model entity = .ok model ∧
      readUnit model.declaration.text = some {
        imports := [("Author", "./Author")]
        typeName := "Article"
        members := [
          ("author", .union [.reference "Author", .indexedAccess "Author" "id", .null]),
          ("it's \"so\"", .array .string),
          ("shape", .never)] } := by
  obtain ⟨entity, model, h, hname, hmodel, hfields, himports, htype, hdeclared⟩ :
      ∃ entity model, entity ∈ blog.catalog.entities.toList ∧ entity.collection = "articles" ∧
        blog.resolver.model entity = .ok model ∧
        (∀ field ∈ entity.fields.toList,
          ¬ HoldsCommentEnd field.kind.name.toList ∧ field.databaseType = none) ∧
        model.declaration.imports = ["Author"] ∧ typeIdentifier entity.collection = "Article" ∧
        List.Forall₂ (blog.resolver.Declares entity.collection) entity.fields.toList [
          ("author", .union [.reference "Author", .indexedAccess "Author" "id", .null]),
          ("it's \"so\"", .array .string),
          ("shape", .never)] := by
    refine ⟨_, _, List.mem_cons_of_mem _ List.mem_cons_self, rfl, rfl, ?_, rfl, rfl, ?_⟩
    · change ∀ field ∈ [_, _, _], _
      simp [Field.ofKind, Kind.name, holdsCommentEnd_cons]
    · refine .cons ?_ (.cons ?_ (.cons ?_ .nil))
      all_goals exact Resolver.declares_iff.mpr ⟨_, rfl, rfl⟩
  have accepted : blog.accept = .ok () := rfl
  obtain ⟨members, hdeclares, hread⟩ := readUnit_model accepted h (fun field hfield => by
    obtain ⟨hkind, hcolumn⟩ := hfields field hfield
    exact ⟨hkind, fun type htype => by simp [hcolumn] at htype⟩) hmodel
  obtain rfl := List.right_unique_forall₂' (Resolver.rightUnique_declares _) hdeclares hdeclared
  rw [himports, htype] at hread
  exact ⟨entity, model, accepted, h, hname, hmodel, hread⟩

end Generator

end TypedCatalog
