import TypedCatalog.Proofs.Acceptance
import TypedCatalog.Proofs.CommentEnd
import TypedCatalog.Proofs.TypeNames
import TypedCatalog.Proofs.Units

/-!
# The comments of a model

The text of a model is code with comments in between (`ModelDecl.join_pieces`). The comment of the
model always ends where it was meant to, since a collection with a type identifier has no star in
its name. The comment of a member holds the schema type and the database type as they are, and
ends where it was meant to exactly if neither holds the end of a comment
(`Generator.commentsEnd_iff`).
-/

namespace TypedCatalog

/-- A comment of several lines. -/
structure DocBlock where
  /-- The blanks before every line. -/
  indent : String
  /-- The lines between the first and the last. -/
  body : String
  deriving DecidableEq, Repr

namespace DocBlock

/-- The text of a comment, with a line for the opening and one for the closing mark. -/
def text (block : DocBlock) : String :=
  block.indent ++ "/**\n" ++ block.body ++ block.indent ++ " */\n"

/-- What stands between the opening and the closing mark. -/
def inside (block : DocBlock) : List Char :=
  '\n' :: (block.body.toList ++ (block.indent.toList ++ [' ']))

theorem toList_text (block : DocBlock) :
    block.text.toList =
      block.indent.toList ++ '/' :: '*' :: '*' :: (block.inside ++ ['*', '/', '\n']) := by
  simp [text, inside]

/-- Whether a comment ends at its own closing mark if it stands before the given text: from its
opening mark on, no end of a comment comes earlier. -/
def EndsBefore (block : DocBlock) (after : List Char) : Prop :=
  cutComment (block.inside ++ '*' :: '/' :: '\n' :: after) = some (block.inside, '\n' :: after)

theorem endsBefore_iff {block : DocBlock} {after : List Char} :
    block.EndsBefore after ↔ ¬ HoldsCommentEnd block.inside :=
  cutComment_append block.inside ('\n' :: after)

/-- Blanks around the lines of a comment add no end of it. -/
theorem holdsCommentEnd_inside {block : DocBlock} (hindent : ∀ c ∈ block.indent.toList, c = ' ') :
    HoldsCommentEnd block.inside ↔ HoldsCommentEnd block.body.toList := by
  have hspaces : ∀ c ∈ block.indent.toList ++ [' '], c = ' ' := by
    intro c hmem
    rcases List.mem_append.mp hmem with hmem | hmem
    · exact hindent c hmem
    · exact List.mem_singleton.mp hmem
  obtain ⟨c, rest, hsplit⟩ := List.exists_cons_of_ne_nil
    (show block.indent.toList ++ [' '] ≠ [] by simp)
  rw [hsplit, List.forall_mem_cons] at hspaces
  obtain ⟨rfl, hrest⟩ := hspaces
  rw [inside, holdsCommentEnd_feed_cons, hsplit, holdsCommentEnd_append_space,
    or_iff_left (not_holdsCommentEnd_of_spaces hrest)]

end DocBlock

/-! ### The comment of a member -/

namespace MemberDecl

/-- The comment of a member, as a block. -/
def block (member : MemberDecl) : DocBlock where
  indent := "  "
  body := comment "  " (member.field.note.getD noNote) ++ "   *\n" ++
    "   * Schema type: " ++ member.field.kind.name ++ "\n" ++
    "   * Database type: " ++ member.field.databaseType.getD noColumn ++ "\n"

theorem text_block (member : MemberDecl) : member.block.text = member.commentBlock := by
  delta commentBlock
  simp [block, DocBlock.text, ← String.toList_inj]

/-- The note of a member cannot end its comment, but its types can. -/
theorem holdsCommentEnd_block (member : MemberDecl) :
    HoldsCommentEnd member.block.inside ↔
      HoldsCommentEnd member.field.kind.name.toList ∨
        HoldsCommentEnd (member.field.databaseType.getD noColumn).toList := by
  have hindent : ∀ c ∈ "  ".toList, c = ' ' := by simp
  rw [DocBlock.holdsCommentEnd_inside hindent]
  have hbody : member.block.body.toList =
      (comment "  " (member.field.note.getD noNote)).toList ++
        ("   *\n   * Schema type:".toList ++ ' ' :: (member.field.kind.name.toList ++ '\n' ::
          ("   * Database type:".toList ++
            ' ' :: ((member.field.databaseType.getD noColumn).toList ++ '\n' :: [])))) := by
    simp [block]
  have hkind : ¬ HoldsCommentEnd "   *\n   * Schema type:".toList := by simp [holdsCommentEnd_cons]
  have hcolumn : ¬ HoldsCommentEnd "   * Database type:".toList := by simp [holdsCommentEnd_cons]
  rw [hbody, holdsCommentEnd_comment_append hindent,
    holdsCommentEnd_append_space, holdsCommentEnd_append_feed, holdsCommentEnd_append_space,
    holdsCommentEnd_append_feed,
    or_iff_right hkind, or_iff_right hcolumn, or_iff_left not_holdsCommentEnd_nil]

/-- The text for a field without a column ends no comment. -/
theorem holdsCommentEnd_databaseType (member : MemberDecl) :
    HoldsCommentEnd (member.field.databaseType.getD noColumn).toList ↔
      ∃ type, member.field.databaseType = some type ∧ HoldsCommentEnd type.toList := by
  cases member.field.databaseType with
  | none => simp [noColumn, holdsCommentEnd_cons]
  | some type => simp

end MemberDecl

/-! ### The comments in the text of a model -/

/-- A piece of a text. -/
inductive Piece where
  /-- Code. -/
  | code (text : String)
  /-- A comment. -/
  | comment (block : DocBlock)
  deriving DecidableEq, Repr

/-- The text of a piece. -/
def Piece.text : Piece → String
  | code text => text
  | comment block => block.text

/-- The text of several pieces. -/
def Piece.joined (pieces : List Piece) : String := String.join (pieces.map Piece.text)

theorem Piece.joined_cons (piece : Piece) (rest : List Piece) :
    joined (piece :: rest) = piece.text ++ joined rest := String.join_cons

theorem Piece.joined_append (before after : List Piece) :
    joined (before ++ after) = joined before ++ joined after := by
  simp [joined]

namespace ModelDecl

/-- The comment of a model, as a block. -/
def header (decl : ModelDecl) : DocBlock where
  indent := ""
  body := (match decl.note with
    | some note => comment "" note ++ " *\n"
    | none => "") ++ " * Generated from the `" ++ decl.collection ++ "` collection.\n"

theorem text_header (decl : ModelDecl) : decl.header.text = decl.commentBlock := by
  delta commentBlock
  cases hnote : decl.note <;> simp [header, hnote, DocBlock.text, ← String.toList_inj]

/-- Only the name of the collection could end the comment of a model. -/
theorem holdsCommentEnd_header (decl : ModelDecl) :
    HoldsCommentEnd decl.header.inside ↔ HoldsCommentEnd decl.collection.toList := by
  have hindent : ∀ c ∈ "".toList, c = ' ' := by simp
  have hfirst : ¬ HoldsCommentEnd " * Generated from the".toList := by simp [holdsCommentEnd_cons]
  have hlast : ¬ HoldsCommentEnd " collection.\n".toList := by simp [holdsCommentEnd_cons]
  have hline : HoldsCommentEnd
      (" * Generated from the `" ++ decl.collection ++ "` collection.\n").toList ↔
        HoldsCommentEnd decl.collection.toList := by
    have hsplit : (" * Generated from the `" ++ decl.collection ++ "` collection.\n").toList =
        " * Generated from the".toList ++ ' ' :: '`' ::
          (decl.collection.toList ++ '`' :: " collection.\n".toList) := by simp
    rw [hsplit, holdsCommentEnd_append_space, or_iff_right hfirst,
      holdsCommentEnd_cons_of_ne (by decide),
      holdsCommentEnd_append_cons (by decide) (by decide), or_iff_left hlast]
  rw [DocBlock.holdsCommentEnd_inside hindent, ← hline]
  cases hnote : decl.note with
  | none => simp [header, hnote]
  | some note =>
    have hbody : decl.header.body.toList = (comment "" note).toList ++ ' ' :: '*' :: '\n' ::
        (" * Generated from the `" ++ decl.collection ++ "` collection.\n").toList := by
      simp [header, hnote]
    rw [hbody, holdsCommentEnd_comment_append hindent, holdsCommentEnd_cons_of_ne (by decide),
      holdsCommentEnd_star_feed_cons]

/-- A model in pieces: its imports, its comment, and every member after a comment of its own. -/
def pieces (decl : ModelDecl) : List Piece :=
  .code (importLines decl.imports) :: .comment decl.header ::
    .code ("export type " ++ decl.typeName ++ " = \x7b\n") ::
    (decl.members.flatMap (fun member => [.comment member.block, .code member.line]) ++
      [.code "\x7d;\n"])

/-- The pieces make up the text. -/
theorem joined_pieces (decl : ModelDecl) : Piece.joined decl.pieces = decl.text := by
  have hmembers : Piece.joined (decl.members.flatMap fun member =>
      [.comment member.block, .code member.line]) =
        String.join (decl.members.map MemberDecl.text) := by
    induction decl.members with
    | nil => rfl
    | cons member rest ih =>
      rw [List.flatMap_cons, Piece.joined_append, ih, List.map_cons, String.join_cons]
      simp [Piece.joined, Piece.text, MemberDecl.text_block, MemberDecl.text]
  rw [pieces, Piece.joined_cons, Piece.joined_cons, Piece.joined_cons, Piece.joined_append, hmembers]
  simp [Piece.joined, Piece.text, text_header, text, String.append_assoc]

/-- Whether every comment in the text ends at its own closing mark. -/
def CommentsEnd (decl : ModelDecl) : Prop :=
  ∀ before block after, decl.pieces = before ++ .comment block :: after →
    block.EndsBefore (Piece.joined after).toList

theorem commentsEnd_iff {decl : ModelDecl} :
    decl.CommentsEnd ↔ ∀ block, .comment block ∈ decl.pieces → ¬ HoldsCommentEnd block.inside := by
  constructor
  · intro h block hmem
    obtain ⟨before, after, hsplit⟩ := List.append_of_mem hmem
    exact DocBlock.endsBefore_iff.mp (h before block after hsplit)
  · intro h before block after hsplit
    exact DocBlock.endsBefore_iff.mpr (h block (by simp [hsplit]))

theorem comment_mem_pieces {decl : ModelDecl} {block : DocBlock} :
    .comment block ∈ decl.pieces ↔
      block = decl.header ∨ ∃ member ∈ decl.members, block = member.block := by
  simp [pieces]

/-- If the comment of the model ends where it was meant to, the others do exactly if no member has
the end of a comment in the name of its kind or of its column's type. -/
theorem commentsEnd_iff_of_header {decl : ModelDecl}
    (hheader : ¬ HoldsCommentEnd decl.header.inside) :
    decl.CommentsEnd ↔ ∀ member ∈ decl.members,
      ¬ HoldsCommentEnd member.field.kind.name.toList ∧
        ∀ type, member.field.databaseType = some type → ¬ HoldsCommentEnd type.toList := by
  have hblock : ∀ member : MemberDecl, ¬ HoldsCommentEnd member.block.inside ↔
      ¬ HoldsCommentEnd member.field.kind.name.toList ∧
        ∀ type, member.field.databaseType = some type → ¬ HoldsCommentEnd type.toList := by
    intro member
    rw [member.holdsCommentEnd_block, not_or, member.holdsCommentEnd_databaseType]
    simp
  rw [commentsEnd_iff]
  constructor
  · intro h member hmember
    exact (hblock member).mp (h _ (comment_mem_pieces.mpr (.inr ⟨member, hmember, rfl⟩)))
  · intro h block hmem
    rcases comment_mem_pieces.mp hmem with rfl | ⟨member, hmember, rfl⟩
    · exact hheader
    · exact (hblock member).mpr (h member hmember)

end ModelDecl

/-! ### Which comments end early -/

namespace Generator

/-- The comment of a model ends where it was meant to, since a collection with a star in its name
is not accepted. -/
theorem not_holdsCommentEnd_header {generator : Generator} (accepted : generator.accept = .ok ())
    {entity : Entity} (h : entity ∈ generator.catalog.entities.toList) {model : Model}
    (hmodel : generator.resolver.model entity = .ok model) :
    ¬ HoldsCommentEnd model.declaration.header.inside := by
  rw [ModelDecl.holdsCommentEnd_header, Resolver.collection_of_model hmodel]
  exact not_holdsCommentEnd_of_not_mem
    (Naming.not_mem_of_isIdentifier (isIdentifier_typeName accepted h))

/-- The comments of a model against the schema. The text of the model is its pieces, and the
comment in front always ends at its own closing mark. All comments do exactly if no field has the
end of a comment in the name of its kind or of its column's type. -/
theorem commentsEnd_iff_forall_field {generator : Generator} (accepted : generator.accept = .ok ())
    {entity : Entity} (h : entity ∈ generator.catalog.entities.toList) {model : Model}
    (hmodel : generator.resolver.model entity = .ok model) :
    Piece.joined model.declaration.pieces = model.declaration.text ∧
      (∀ after, model.declaration.header.EndsBefore after) ∧
      (model.declaration.CommentsEnd ↔
        ∀ field ∈ entity.fields.toList, ¬ HoldsCommentEnd field.kind.name.toList ∧
          ∀ type, field.databaseType = some type → ¬ HoldsCommentEnd type.toList) := by
  have hheader := not_holdsCommentEnd_header accepted h hmodel
  refine ⟨model.declaration.joined_pieces, fun after => DocBlock.endsBefore_iff.mpr hheader, ?_⟩
  rw [ModelDecl.commentsEnd_iff_of_header hheader, ← Resolver.map_field_members hmodel,
    List.forall_mem_map]

/-- Notes with the end of a comment in them end no comment. -/
theorem commentsEnd_blog :
    ∃ entity model, blog.accept = .ok () ∧ entity ∈ blog.catalog.entities.toList ∧
      entity.collection = "articles" ∧ blog.resolver.model entity = .ok model ∧
      model.declaration.CommentsEnd := by
  obtain ⟨entity, model, h, hname, hmodel, hfields⟩ :
      ∃ entity model, entity ∈ blog.catalog.entities.toList ∧ entity.collection = "articles" ∧
        blog.resolver.model entity = .ok model ∧
        ∀ field ∈ entity.fields.toList,
          ¬ HoldsCommentEnd field.kind.name.toList ∧ field.databaseType = none := by
    refine ⟨_, _, List.mem_cons_of_mem _ List.mem_cons_self, rfl, rfl, ?_⟩
    change ∀ field ∈ [_, _, _], _
    simp [Field.ofKind, Kind.name, holdsCommentEnd_cons]
  have accepted : blog.accept = .ok () := rfl
  have hcomments := (commentsEnd_iff_forall_field accepted h hmodel).2.2
  refine ⟨entity, model, accepted, h, hname, hmodel, hcomments.mpr fun field hfield => ?_⟩
  obtain ⟨hkind, hcolumn⟩ := hfields field hfield
  exact ⟨hkind, fun type htype => by simp [hcolumn] at htype⟩

/-- A catalog with a field of a kind that is not known and has the end of a comment for a name. -/
def strayMark : Generator where
  catalog := {
    entities := .ofList [
      { Entity.ofName "tags" with fields := .ofList [.ofKind "id" (.unknown "*/")] }]
    relations := [] }
  source := .none
  settings := .standard

/-- The name of a kind can end a comment. -/
theorem not_commentsEnd_strayMark :
    ∃ entity model, strayMark.accept = .ok () ∧ entity ∈ strayMark.catalog.entities.toList ∧
      strayMark.resolver.model entity = .ok model ∧ ¬ model.declaration.CommentsEnd := by
  refine ⟨_, _, rfl, List.mem_cons_self, rfl, fun h => ?_⟩
  have hblock := ModelDecl.commentsEnd_iff.mp h _
    (ModelDecl.comment_mem_pieces.mpr (.inr ⟨_, List.mem_cons_self, rfl⟩))
  refine hblock ((MemberDecl.holdsCommentEnd_block _).mpr (.inl ?_))
  decide

end Generator

end TypedCatalog
