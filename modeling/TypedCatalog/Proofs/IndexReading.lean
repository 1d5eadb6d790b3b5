import TypedCatalog.Proofs.Imports
import TypedCatalog.Proofs.UnitReading

/-!
# Reading the index back

The text of an index reads back as what the index declares (`IndexDecl.tokens_text`). For a catalog
whose type identifiers can be written this is one member for each collection, under the name of the
collection as it stands, and one import for each type identifier, however many collections have it
(`IndexDecl.exists_readUnit`).
-/

namespace TypedCatalog

open Naming

/-- The place of the first collection with a type identifier. -/
def Catalog.firstWith (catalog : Catalog) (identifier : String) : Nat :=
  catalog.entities.toList.findIdx (typeIdentifier ·.collection == identifier)

/-- A unit is read as the index of a catalog. -/
structure UnitReading.IsIndexOf (reading : UnitReading) (catalog : Catalog) (typeName : String) :
    Prop where
  /-- It declares the name of the index. -/
  typeName_eq : reading.typeName = typeName
  /-- It has a member for every collection, in order: the name as it stands, and the type of the
  collection's records. -/
  members_eq : reading.members = catalog.entities.toList.map fun entity =>
    (entity.collection, .reference (typeIdentifier entity.collection))
  /-- No two members have one name. -/
  distinct_members : (reading.members.map Prod.fst).Nodup
  /-- Every type is imported from its own unit. -/
  path_eq : ∀ entry ∈ reading.imports, entry.2 = importPath entry.1
  /-- What is imported are the type identifiers of the collections. -/
  mem_imports : ∀ name, name ∈ reading.imports.map Prod.fst ↔
    ∃ entity ∈ catalog.entities.toList, typeIdentifier entity.collection = name
  /-- Nothing is imported twice. -/
  distinct_imports : (reading.imports.map Prod.fst).Nodup
  /-- The imports come in the order of the first collections that need them. -/
  imports_ordered : (reading.imports.map Prod.fst).Pairwise fun first second =>
    catalog.firstWith first < catalog.firstWith second
  /-- The type of every member is imported. -/
  imported : ∀ member ∈ reading.members,
    ∃ name ∈ reading.imports.map Prod.fst, member.2 = .reference name

namespace IndexDecl

/-! ### The text -/

/-- What a reader is to find of a member: the collection, and a reference to its type. -/
def memberReading (member : String × String) : String × TypeExpr :=
  (member.1, .reference member.2)

/-- What a reader is to find in the text of an index. -/
def reading (decl : IndexDecl) : UnitReading where
  imports := decl.imports.map fun identifier => (identifier, importPath identifier)
  typeName := decl.typeName
  members := decl.members.map memberReading

theorem toList_text (decl : IndexDecl) :
    decl.text.toList = (importLines decl.imports).toList ++
      (("export type " ++ decl.typeName ++ " = \x7b\n").toList ++
        (decl.members.flatMap (fun member => (memberLine member).toList) ++ "\x7d;\n".toList)) := by
  delta text
  simp [List.flatMap_map]

section Text

variable {decl : IndexDecl} (hname : isIdentifier decl.typeName)
  (himports : ∀ identifier ∈ decl.imports, isIdentifier identifier)
  (hmembers : ∀ member ∈ decl.members, IsTypeName member.2)
include hname himports hmembers

/-- The tokens of an index are those of what it declares. -/
theorem tokens_text :
    tokens decl.text.toList =
      some (unitTokens decl.imports decl.typeName (decl.members.map memberReading)) := by
  have hlines : ∀ member ∈ decl.members,
      Lexes (memberLine member).toList (memberTokens (memberReading member)) := by
    intro member hmember
    have hnormal : (TypeExpr.reference member.2).Normal := hmembers member hmember
    have hline := lexes_memberLine member.1 hnormal
    rwa [TypeExpr.text] at hline
  have hall := (lexes_importLines himports).append ((lexes_heading hname).append
    ((Lexes.flatMap hlines).append lexes_end))
  rw [toList_text, hall.tokens_eq, unitTokens, List.flatMap_map]

/-- An index reads back from its text. -/
theorem readUnit_text : readUnit decl.text = some decl.reading := by
  refine readUnit_of_tokens (tokens_text hname himports hmembers) ?_
  rw [List.forall_mem_map]
  exact hmembers

end Text

/-! ### The index of a catalog -/

/-- The imports of an index come in the order of the first collections that need them. -/
theorem pairwise_imports (catalog : Catalog) (typeName : String) :
    (ofCatalog catalog typeName).imports.Pairwise fun first second =>
      catalog.firstWith first < catalog.firstWith second := by
  have hordered := pairwise_firstOccurrences_filterMap
    (fun entity : Entity => some (typeIdentifier entity.collection)) catalog.entities.toList
  have hmap : catalog.entities.toList.filterMap
      (fun entity => some (typeIdentifier entity.collection)) =
        catalog.entities.toList.map Entity.typeName := by
    rw [← List.filterMap_eq_map]
    rfl
  rwa [hmap] at hordered

/-- What is to be found in the text of the index of a catalog. -/
theorem isIndexOf_reading (catalog : Catalog) (typeName : String) :
    (ofCatalog catalog typeName).reading.IsIndexOf catalog typeName := by
  have himports : (ofCatalog catalog typeName).reading.imports.map Prod.fst =
      (ofCatalog catalog typeName).imports := by
    rw [reading, List.map_map]
    exact List.map_id _
  have hmembers : (ofCatalog catalog typeName).reading.members =
      catalog.entities.toList.map fun entity =>
        (entity.collection, .reference (typeIdentifier entity.collection)) := by
    rw [reading, ofCatalog, List.map_map]
    rfl
  refine ⟨rfl, hmembers, ?_, ?_, ?_, ?_, ?_, ?_⟩
  · rw [hmembers, List.map_map]
    exact catalog.entities.distinct
  · rw [reading, List.forall_mem_map]
    exact fun _ _ => rfl
  · rw [himports]
    exact fun _ => mem_imports_ofCatalog
  · rw [himports]
    exact nodup_firstOccurrences _
  · rw [himports]
    exact pairwise_imports catalog typeName
  · rw [hmembers, List.forall_mem_map, himports]
    exact fun entity hentity => ⟨_, mem_imports_ofCatalog.mpr ⟨entity, hentity, rfl⟩, rfl⟩

/-- The index of a catalog reads back. If the type identifiers of all collections can be written,
and the name of the index can, then a reader that takes literals for what they stand for finds in
its text one import for each type identifier, in the order of the collections that first have it,
the name of the index, and one member for each collection, in order, whose name is that of the
collection, whatever characters it holds, and whose type is the collection's and imported. -/
theorem exists_readUnit {catalog : Catalog} {typeName : String}
    (hidentifiers : ∀ entity ∈ catalog.entities.toList,
      isIdentifier (typeIdentifier entity.collection))
    (hname : isIdentifier typeName) :
    ∃ reading, readUnit (ofCatalog catalog typeName).text = some reading ∧
      reading.IsIndexOf catalog typeName := by
  have himports : ∀ identifier ∈ (ofCatalog catalog typeName).imports,
      isIdentifier identifier := by
    intro identifier h
    obtain ⟨entity, hentity, rfl⟩ := mem_imports_ofCatalog.mp h
    exact hidentifiers entity hentity
  have hmembers : ∀ member ∈ (ofCatalog catalog typeName).members, IsTypeName member.2 := by
    rw [ofCatalog, List.forall_mem_map]
    exact fun entity hentity => isTypeName_typeIdentifier (hidentifiers entity hentity)
  exact ⟨_, readUnit_text hname himports hmembers, isIndexOf_reading catalog typeName⟩

/-- Three collections of one type identifier, two with separators that have to be escaped, and one
of another. -/
def labels : Catalog :=
  ⟨.ofList [.ofName "tag\u2028list", .ofName "note", .ofName "tag_list", .ofName "Tag\tLists"], []⟩

/-- The index of the labels: four members under their own names, and two imports. -/
theorem exists_readUnit_labels :
    ∃ reading, (∀ entity ∈ labels.entities.toList,
        isIdentifier (typeIdentifier entity.collection) = true) ∧
      isIdentifier "Labels" = true ∧ readUnit (ofCatalog labels "Labels").text = some reading ∧
      reading.typeName = "Labels" ∧
      reading.members = [("tag\u2028list", .reference "TagList"), ("note", .reference "Note"),
        ("tag_list", .reference "TagList"), ("Tag\tLists", .reference "TagList")] ∧
      (∀ name, name ∈ reading.imports.map Prod.fst ↔ name = "TagList" ∨ name = "Note") ∧
      (reading.imports.map Prod.fst).Nodup ∧
      labels.firstWith "TagList" < labels.firstWith "Note" := by
  have hidentifiers : ∀ entity ∈ labels.entities.toList,
      isIdentifier (typeIdentifier entity.collection) = true := by decide
  obtain ⟨reading, hread, hindex⟩ :=
    exists_readUnit hidentifiers (rfl : isIdentifier "Labels" = true)
  refine ⟨reading, hidentifiers, rfl, hread, hindex.typeName_eq, hindex.members_eq.trans rfl,
    fun name => ?_, hindex.distinct_imports, by decide⟩
  have hnames : labels.entities.toList.map (typeIdentifier ·.collection) =
      ["TagList", "Note", "TagList", "TagList"] := rfl
  refine (hindex.mem_imports name).trans (List.mem_map.symm.trans ?_)
  rw [hnames]
  simp only [List.mem_cons, List.not_mem_nil, or_false]
  tauto

end IndexDecl

end TypedCatalog
