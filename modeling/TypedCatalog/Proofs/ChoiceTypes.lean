import Mathlib.Data.List.Nodup
import TypedCatalog.Proofs.UnionLaws

/-!
# The types of choices

A field with choices has a union of literals for a type, one for each text that its choices have
(`choicesType_eq_some`). The texts come in the order of the choices that have them first
(`isTextsOf_firstOccurrences`), and nothing else about the choices counts, be it the kind of a value
or a label.
-/

namespace TypedCatalog

/-- Whether texts are those of choices: all of them and no others, each once, in the order of the
first choices that have them. -/
structure IsTextsOf (choices : List Choice) (texts : List String) : Prop where
  /-- The texts are those of the choices. -/
  mem_iff : ∀ text, text ∈ texts ↔ ∃ choice ∈ choices, choice.literal = text
  /-- No text comes twice. -/
  nodup : texts.Nodup
  /-- The first choice of an earlier text comes earlier. -/
  ordered : texts.Pairwise fun first second =>
    choices.findIdx (·.literal == first) < choices.findIdx (·.literal == second)

theorem isTextsOf_firstOccurrences (choices : List Choice) :
    IsTextsOf choices (firstOccurrences (choices.map Choice.literal)) := by
  refine ⟨fun text => ?_, nodup_firstOccurrences _, ?_⟩
  · rw [mem_firstOccurrences, List.mem_map]
  · have hordered := pairwise_firstOccurrences_filterMap (some ∘ Choice.literal) choices
    rw [List.filterMap_eq_map] at hordered
    simpa using hordered

namespace IsTextsOf

variable {choices : List Choice} {texts : List String} (h : IsTextsOf choices texts)
include h

theorem ne_nil (hne : choices ≠ []) : texts ≠ [] := by
  obtain ⟨choice, rest, rfl⟩ := List.exists_cons_of_ne_nil hne
  exact List.ne_nil_of_mem ((h.mem_iff _).mpr ⟨choice, List.mem_cons_self, rfl⟩)

/-- The text of every choice comes once. -/
theorem count_eq_one {choice : Choice} (hchoice : choice ∈ choices) :
    texts.count choice.literal = 1 :=
  List.count_eq_one_of_mem h.nodup ((h.mem_iff _).mpr ⟨choice, hchoice, rfl⟩)

/-- Choices of one text have that text alone. -/
theorem eq_singleton (hne : choices ≠ []) {text : String}
    (hsame : ∀ choice ∈ choices, choice.literal = text) : texts = [text] := by
  obtain ⟨choice, rest, rfl⟩ := List.exists_cons_of_ne_nil hne
  refine List.Perm.eq_singleton ((List.perm_ext_iff_of_nodup h.nodup (List.nodup_singleton _)).mpr
    fun other => ?_)
  rw [h.mem_iff, List.mem_singleton]
  constructor
  · rintro ⟨choice, hchoice, rfl⟩
    exact hsame choice hchoice
  · rintro rfl
    exact ⟨choice, List.mem_cons_self, hsame choice List.mem_cons_self⟩

end IsTextsOf

/-! ### The union of literals -/

/-- Choices have the union of the literals of their texts for a type. -/
theorem choicesType_eq_some {choices : List Choice} (hne : choices ≠ []) :
    choicesType choices =
      some (.ofMembers ((firstOccurrences (choices.map Choice.literal)).map .literal)) := by
  have htexts := (isTextsOf_firstOccurrences choices).ne_nil hne
  rw [choicesType_eq]
  split
  · rename_i hnil
    exact absurd hnil htexts
  · rfl

theorem choicesType_eq_none {choices : List Choice} :
    choicesType choices = none ↔ choices = [] := by
  constructor
  · intro h
    by_contra hne
    rw [choicesType_eq_some hne] at h
    cases h
  · rintro rfl
    rfl

/-- Only the values of choices count for their type. -/
theorem choicesType_congr {choices others : List Choice}
    (h : choices.map Choice.value = others.map Choice.value) :
    choicesType choices = choicesType others := by
  have hliterals : ∀ list : List Choice, list.map Choice.literal =
      (list.map Choice.value).map fun value => Choice.literal ⟨value, none⟩ := by
    intro list
    rw [List.map_map]
    rfl
  rw [choicesType, choicesType, hliterals, hliterals others, h]

/-- Literals are no unions, so those of texts are the members of their union, and it is flat. -/
theorem members_ofMembers_map_literal (texts : List String) :
    (TypeExpr.ofMembers (texts.map .literal)).members = texts.map .literal ∧
      (TypeExpr.ofMembers (texts.map .literal)).IsFlat := by
  have hplain : ∀ type ∈ texts.map TypeExpr.literal, type.isUnion = false := by
    intro type htype
    obtain ⟨text, -, rfl⟩ := List.mem_map.mp htype
    rfl
  exact ⟨TypeExpr.members_ofMembers hplain, TypeExpr.isFlat_ofMembers hplain⟩

/-- A lookup gives no type exactly if it succeeds and there is nothing to choose from. -/
theorem LookupResult.choiceType_eq_none {result : LookupResult} :
    result.choiceType = .ok none ↔
      result = .ok none ∨ result = .ok (some ⟨none⟩) ∨ result = .ok (some ⟨some []⟩) := by
  rcases result with error | - | ⟨- | choices⟩
  · simp [choiceType]
  · simp [choiceType]
  · simp [choiceType]
  · simp [choiceType, choicesType_eq_none]

/-- Choices lose and invent nothing. A lookup gives no type exactly if it finds no record, no
choices or an empty list of them. Otherwise a lookup that finds choices gives the union of the
literals of their texts: all of them, each once, in the order of first occurrence. A single text is
the literal itself, and every union has two members or more. A lookup that fails gives the failure,
and choices with the same values have the same type whatever their labels are. -/
theorem choiceType_exact (source : ChoiceSource) (limit : Option Nat) (key : FieldKey) :
    (source.choiceType limit key = .ok none ↔
      (source key).within limit = .ok none ∨ (source key).within limit = .ok (some ⟨none⟩) ∨
        (source key).within limit = .ok (some ⟨some []⟩)) ∧
      (∀ choices, choices ≠ [] → (source key).within limit = .ok (some ⟨some choices⟩) →
        ∃ type texts, source.choiceType limit key = .ok (some type) ∧ IsTextsOf choices texts ∧
          type.members = texts.map .literal ∧ type.members.Nodup ∧
          (∀ choice ∈ choices, texts.count choice.literal = 1) ∧
          (∀ text, (∀ choice ∈ choices, choice.literal = text) → type = .literal text) ∧
          ∀ types, type = .union types → 2 ≤ types.length) ∧
      (∀ error, (source key).within limit = .error error →
        source.choiceType limit key = .error (.ofLookup error)) ∧
      ∀ (other : ChoiceSource) (otherLimit : Option Nat) (otherKey : FieldKey) choices others,
        (source key).within limit = .ok (some ⟨some choices⟩) →
        (other otherKey).within otherLimit = .ok (some ⟨some others⟩) →
        choices.map Choice.value = others.map Choice.value →
        source.choiceType limit key = other.choiceType otherLimit otherKey := by
  refine ⟨LookupResult.choiceType_eq_none, fun choices hne h => ?_, fun error h => ?_,
    fun other otherLimit otherKey choices others h hother hvalues => ?_⟩
  · have htexts := isTextsOf_firstOccurrences choices
    obtain ⟨hmembers, hflat⟩ :=
      members_ofMembers_map_literal (firstOccurrences (choices.map Choice.literal))
    refine ⟨_, _, ?_, htexts, hmembers, ?_, fun _ => htexts.count_eq_one, fun text hsame => ?_,
      fun types htypes => ?_⟩
    · rw [ChoiceSource.choiceType, h]
      exact congrArg Except.ok (choicesType_eq_some hne)
    · rw [hmembers]
      exact htexts.nodup.map fun _ _ => TypeExpr.literal.inj
    · rw [htexts.eq_singleton hne hsame]
      rfl
    · rw [htypes] at hmembers hflat
      have hone : types.length ≠ 1 := hflat.2
      have hzero : types ≠ [] := by
        rintro rfl
        exact htexts.ne_nil hne (List.map_eq_nil_iff.mp hmembers.symm)
      have := List.length_pos_iff.mpr hzero
      omega
  · rw [ChoiceSource.choiceType, h]
    rfl
  · rw [ChoiceSource.choiceType, ChoiceSource.choiceType, h, hother]
    exact congrArg Except.ok (choicesType_congr hvalues)

/-- A source that takes three milliseconds to answer with the same choices always. -/
def slowSource (choices : List Choice) : ChoiceSource :=
  fun _ => ⟨some 3, .ok (some ⟨some choices⟩)⟩

/-- The positions of a switch, one of which is there as a truth value and as a text. -/
def switchChoices : List Choice :=
  [⟨.boolean true, some "On"⟩, ⟨.text "false", none⟩, ⟨.text "true", some "Still on"⟩]

/-- The positions of a switch are two, with labels or without, unless they are not waited for. -/
theorem choiceType_exact_switch :
    (slowSource switchChoices).choiceType (some 5) ⟨"lamps", "power"⟩ =
        .ok (some (.union [.literal "true", .literal "false"])) ∧
      (∃ (type : TypeExpr) (texts : List String),
        (slowSource switchChoices).choiceType (some 5) ⟨"lamps", "power"⟩ = .ok (some type) ∧
          type.members = texts.map .literal ∧ texts.count "true" = 1) ∧
      (slowSource switchChoices).choiceType (some 5) ⟨"lamps", "power"⟩ =
        (slowSource (switchChoices.map fun choice => ⟨choice.value, none⟩)).choiceType none
          ⟨"fans", "power"⟩ ∧
      (slowSource switchChoices).choiceType (some 2) ⟨"lamps", "power"⟩ =
        .error (.field (.lookup (.timeout 2))) := by
  obtain ⟨-, hchoices, -, hlabels⟩ :=
    choiceType_exact (slowSource switchChoices) (some 5) ⟨"lamps", "power"⟩
  obtain ⟨type, texts, htype, -, hmembers, -, hcount, -⟩ :=
    hchoices switchChoices (by decide) rfl
  obtain ⟨-, -, hfails, -⟩ :=
    choiceType_exact (slowSource switchChoices) (some 2) ⟨"lamps", "power"⟩
  exact ⟨rfl, ⟨type, texts, htype, hmembers, hcount _ List.mem_cons_self⟩,
    hlabels _ none _ switchChoices _ rfl rfl rfl, hfails _ rfl⟩

end TypedCatalog
