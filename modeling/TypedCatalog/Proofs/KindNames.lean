import Mathlib.Logic.Function.Defs
import TypedCatalog.Declaration.Model
import TypedCatalog.Proofs.UnionMembers
import TypedCatalog.Roster
import TypedCatalog.Snapshot.Basic

/-!
# The names of kinds

A schema's name for a type denotes a kind in one of three ways (`Kind.Denotes`): it stands in the
table of names, or it begins with the mark of geometries that have a subtype, or it is not known.
The ways exclude each other (`Kind.ofName_eq_iff`), and each of them keeps the name. So no two names
denote one kind, and the only kinds that their own names do not denote are the unknown ones with a
name that is known. Fifteen names denote kinds with a type of values (`typedNames`), and any other
name is the reason why its kind has none (`Kind.names_exact`).
-/

namespace TypedCatalog

namespace Kind

/-! ### What a name denotes -/

theorem geometrySubtype?_eq_some {name subtype : String} :
    geometrySubtype? name = some subtype ↔ name = geometryMark ++ subtype := by
  rw [← String.toList_inj, String.toList_append, geometrySubtype?, ← String.length_toList]
  constructor
  · intro h
    split at h
    · rename_i hmark
      obtain ⟨rest, hrest⟩ := List.isPrefixOf_iff_prefix.mp hmark
      rw [← hrest, List.drop_left, Option.some_inj] at h
      rw [← hrest, ← h, String.toList_ofList]
    · cases h
  · intro h
    rw [h, if_pos (List.isPrefixOf_iff_prefix.mpr (List.prefix_append _ _)), List.drop_left,
      String.ofList_toList]

theorem geometrySubtype?_eq_none {name : String} :
    geometrySubtype? name = none ↔ ¬ geometryMark.toList <+: name.toList := by
  rw [geometrySubtype?, ← List.isPrefixOf_iff_prefix]
  split <;> simp_all

/-- The kind that a name denotes, by the rule that the name falls under. -/
inductive Denotes (name : String) : Kind → Prop where
  /-- The name stands in the table. -/
  | named {kind : Kind} (hmem : (kind, name) ∈ Kind.named) : Denotes name kind
  /-- The name is that of a geometry with a subtype. -/
  | geometry {subtype : String} (hname : name = geometryMark ++ subtype) :
    Denotes name (Kind.geometry (some subtype))
  /-- The name is neither. -/
  | unknown (hnamed : ∀ entry ∈ Kind.named, entry.2 ≠ name)
    (hmark : ¬ geometryMark.toList <+: name.toList) : Denotes name (Kind.unknown name)

theorem denotes_ofName (name : String) : Denotes name (ofName name) := by
  unfold ofName
  split
  · rename_i kind known hfind
    have hname : known = name := by simpa using List.find?_some hfind
    exact .named (hname ▸ List.mem_of_find?_eq_some hfind)
  · rename_i hfind
    split
    · rename_i subtype hsubtype
      exact .geometry (geometrySubtype?_eq_some.mp hsubtype)
    · rename_i hsubtype
      exact .unknown (by simpa using hfind) (geometrySubtype?_eq_none.mp hsubtype)

/-- The rules exclude each other, so a name denotes no other kind. -/
theorem ofName_eq_iff {name : String} {kind : Kind} : ofName name = kind ↔ Denotes name kind := by
  constructor
  · rintro rfl
    exact denotes_ofName name
  · intro h
    cases h with
    | named hmem =>
      have hdistinct : (Kind.named.map Prod.snd).Nodup := by decide
      have hfind : Kind.named.find? (·.2 == name) = some (kind, name) :=
        (find?_eq_some_iff_of_nodup hdistinct).mpr ⟨hmem, rfl⟩
      rw [ofName, hfind]
    | geometry hname =>
      have hmarks : ∀ entry ∈ Kind.named, ¬ geometryMark.toList <+: entry.2.toList := by decide
      have hfind : Kind.named.find? (·.2 == name) = none := by
        refine List.find?_eq_none.mpr fun entry hentry hsame => hmarks entry hentry ?_
        rw [eq_of_beq hsame, hname, String.toList_append]
        exact List.prefix_append _ _
      rw [ofName, hfind]
      simp only [geometrySubtype?_eq_some.mpr hname]
    | unknown hnamed hmark =>
      have hfind : Kind.named.find? (·.2 == name) = none :=
        List.find?_eq_none.mpr fun entry hentry hsame => hnamed entry hentry (eq_of_beq hsame)
      rw [ofName, hfind]
      simp only [geometrySubtype?_eq_none.mpr hmark]

/-! ### Names of kinds and kinds of names -/

/-- A kind keeps the name that denotes it. -/
theorem Denotes.name_eq {name : String} {kind : Kind} (h : Denotes name kind) :
    kind.name = name := by
  cases h with
  | named hmem => exact name_of_mem_named hmem
  | geometry hname => exact hname.symm
  | unknown _ _ => rfl

theorem name_ofName (name : String) : (ofName name).name = name :=
  (denotes_ofName name).name_eq

theorem ofName_injective : Function.Injective ofName :=
  Function.LeftInverse.injective name_ofName

/-- The name of a kind denotes it, unless the kind is unknown and its name is known. -/
theorem ofName_name_iff {kind : Kind} :
    ofName kind.name = kind ↔
      ¬ ∃ text, kind = unknown text ∧
        (text ∈ named.map Prod.snd ∨ geometryMark.toList <+: text.toList) := by
  rw [ofName_eq_iff]
  constructor
  · rintro h ⟨text, rfl, hknown⟩
    cases h with
    | named hmem => exact absurd hmem (by simp [Kind.named])
    | unknown hnamed hmark =>
      refine hknown.elim (fun hmem => ?_) hmark
      obtain ⟨entry, hentry, hsame⟩ := List.mem_map.mp hmem
      exact hnamed entry hentry hsame
  · intro h
    cases kind with
    | unknown text =>
      refine .unknown (fun entry hentry hsame => h ⟨text, rfl, .inl ?_⟩) fun hmark =>
        h ⟨text, rfl, .inr hmark⟩
      exact List.mem_map.mpr ⟨entry, hentry, hsame⟩
    | geometry subtype =>
      cases subtype with
      | none => exact .named (by decide)
      | some subtype => exact .geometry rfl
    | _ => exact .named (by decide)

/-! ### Types of values -/

/-- The names of the kinds that have a type of values, with the type. -/
def typedNames : List (String × TypeExpr) := [
  ("boolean", .boolean), ("integer", .number), ("bigInteger", .number), ("float", .number),
  ("decimal", .number), ("dateTime", .string), ("date", .string), ("time", .string),
  ("timestamp", .string), ("text", .string), ("string", .string), ("uuid", .string),
  ("hash", .string), ("json", .any), ("csv", .array .string)]

theorem mem_typedNames_of_scalarType {kind : Kind} {type : TypeExpr}
    (h : kind.scalarType = .ok type) : (kind.name, type) ∈ typedNames := by
  unfold scalarType at h
  split at h
  all_goals cases h
  all_goals simp [typedNames, name]

/-- A name denotes a kind with a type of values exactly if it stands in the table of them. -/
theorem scalarType_ofName_eq_ok {name : String} {type : TypeExpr} :
    (ofName name).scalarType = .ok type ↔ (name, type) ∈ typedNames := by
  constructor
  · intro h
    have hmem := mem_typedNames_of_scalarType h
    rwa [name_ofName] at hmem
  · have hall : ∀ entry ∈ typedNames, (ofName entry.1).scalarType = .ok entry.2 := by
      simp only [typedNames, List.forall_mem_cons, List.not_mem_nil, false_implies, implies_true,
        and_true]
      and_intros <;> rfl
    exact hall (name, type)

/-- Any other name is the reason why its kind has no type of values. -/
theorem scalarType_ofName_eq_error {name : String} {error : ResolveError} :
    (ofName name).scalarType = .error error ↔
      error = .unsupportedKind name ∧ name ∉ typedNames.map Prod.fst := by
  constructor
  · intro h
    refine ⟨?_, fun hmem => ?_⟩
    · rw [scalarType_eq_error h, name_ofName]
    · obtain ⟨entry, hentry, rfl⟩ := List.mem_map.mp hmem
      rw [scalarType_ofName_eq_ok.mpr hentry] at h
      cases h
  · rintro ⟨rfl, hname⟩
    cases hscalar : (ofName name).scalarType with
    | error error => rw [scalarType_eq_error hscalar, name_ofName]
    | ok type =>
      exact absurd (List.mem_map_of_mem (scalarType_ofName_eq_ok.mp hscalar)) hname

theorem isNumeric_iff {kind : Kind} : kind.isNumeric ↔ kind.scalarType = .ok .number := by
  cases kind <;> simp [isNumeric, scalarType]

theorem scalarType_of_isTemporal {kind : Kind} (h : kind.isTemporal) :
    kind.scalarType = .ok .string := by
  cases kind <;> simp_all [isTemporal, scalarType]

end Kind

open Snapshot

/-- The comment of a field of a snapshot shows the name of its type as it is, behind the label. -/
theorem MemberDecl.infix_commentBlock (entry : FieldEntry) (type : TypeExpr) :
    ("\n   * Schema type: " ++ entry.type ++ "\n").toList <:+:
      (MemberDecl.mk entry.toField type).commentBlock.toList := by
  refine ⟨("  /**\n" ++ comment "  " (entry.note.getD noNote) ++ "   *").toList,
    ("   * Database type: " ++ entry.toField.databaseType.getD noColumn ++ "\n" ++
      "   */\n").toList, ?_⟩
  delta commentBlock
  simp [FieldEntry.toField, Kind.name_ofName]

namespace Kind

/-- Kinds keep the schema's names. A kind has the name that denotes it, so no two names denote one
kind, and the name of a kind denotes it unless the kind is unknown and its name is known. A name
denotes a kind with a type of values exactly if it is one of fifteen, and any other name is the
reason why there is no type; the numeric kinds are those of numbers, and the temporal ones are
among those of strings. Comments and errors show the name as a snapshot has it. -/
theorem names_exact :
    (∀ name, (ofName name).name = name) ∧ Function.Injective ofName ∧
      (∀ kind, ofName kind.name = kind ↔
        ¬ ∃ text, kind = unknown text ∧
          (text ∈ named.map Prod.snd ∨ geometryMark.toList <+: text.toList)) ∧
      (typedNames.map Prod.fst).Nodup ∧ typedNames.length = 15 ∧
      (∀ name type, (ofName name).scalarType = .ok type ↔ (name, type) ∈ typedNames) ∧
      (∀ name error, (ofName name).scalarType = .error error ↔
        error = .unsupportedKind name ∧ name ∉ typedNames.map Prod.fst) ∧
      (∀ name, (ofName name).isNumeric ↔ (name, TypeExpr.number) ∈ typedNames) ∧
      (∀ name, (ofName name).isTemporal → (name, TypeExpr.string) ∈ typedNames) ∧
      (∀ (entry : FieldEntry) (type : TypeExpr),
        ("\n   * Schema type: " ++ entry.type ++ "\n").toList <:+:
          (MemberDecl.mk entry.toField type).commentBlock.toList) ∧
      ∀ (entry : FieldEntry) (error : ResolveError),
        entry.toField.kind.scalarType = .error error →
          error.message = "unsupported field type '" ++ entry.type ++ "'" := by
  refine ⟨name_ofName, ofName_injective, fun _ => ofName_name_iff, by decide, rfl,
    fun _ _ => scalarType_ofName_eq_ok, fun _ _ => scalarType_ofName_eq_error, fun name => ?_,
    fun name h => ?_, MemberDecl.infix_commentBlock, fun entry error h => ?_⟩
  · rw [isNumeric_iff, scalarType_ofName_eq_ok]
  · exact scalarType_ofName_eq_ok.mp (scalarType_of_isTemporal h)
  · obtain ⟨rfl, -⟩ := scalarType_ofName_eq_error.mp h
    rfl

/-- A field with the end of a comment for the subtype of its geometry. -/
def areaEntry : FieldEntry := ⟨"maps", "area", "geometry.*/", none, none, none⟩

/-- Names with a capital letter too many, with an empty subtype and with an odd one, and an unknown
kind of a known name. -/
theorem names_exact_area :
    (ofName "Integer").scalarType = .error (.unsupportedKind "Integer") ∧
      ofName "geometry." ≠ ofName "geometry" ∧ ofName (unknown "csv").name ≠ unknown "csv" ∧
      (ofName "date").isTemporal ∧ (ofName "date").scalarType = .ok .string ∧
      areaEntry.toField.kind.scalarType = .error (.unsupportedKind "geometry.*/") ∧
      (ResolveError.unsupportedKind "geometry.*/").message =
        "unsupported field type 'geometry.*/'" := by
  obtain ⟨-, hinjective, hunknown, -, -, htyped, huntyped, -, htemporal, -, hmessage⟩ :=
    names_exact
  have harea : areaEntry.toField.kind.scalarType = .error (.unsupportedKind "geometry.*/") :=
    (huntyped "geometry.*/" _).mpr ⟨rfl, by decide⟩
  refine ⟨(huntyped _ _).mpr ⟨rfl, by decide⟩, hinjective.ne (by decide), fun h => ?_, rfl,
    (htyped _ _).mpr (htemporal _ rfl), harea, hmessage areaEntry _ harea⟩
  exact (hunknown _).mp h ⟨"csv", rfl, .inl (by decide)⟩

end Kind

end TypedCatalog
