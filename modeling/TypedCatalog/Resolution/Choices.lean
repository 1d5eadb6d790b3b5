import TypedCatalog.Generation.Error
import TypedCatalog.TypeExpr.Basic

/-!
# Types of fields with choices

A field with choices has the union of their literals for a type, each literal once and in the order
in which it first comes.
-/

namespace TypedCatalog

/-- The list without the items that came before. -/
def firstOccurrences : List String → List String
  | [] => []
  | s :: rest => s :: (firstOccurrences rest).filter (· != s)

theorem mem_firstOccurrences {s : String} {list : List String} :
    s ∈ firstOccurrences list ↔ s ∈ list := by
  induction list with
  | nil => simp [firstOccurrences]
  | cons first rest ih =>
    by_cases h : s = first <;> simp [firstOccurrences, h, ih]

theorem nodup_firstOccurrences (list : List String) : (firstOccurrences list).Nodup := by
  induction list with
  | nil => simp [firstOccurrences]
  | cons first rest ih =>
    rw [firstOccurrences, List.nodup_cons]
    exact ⟨by simp, List.Pairwise.filter _ ih⟩

/-- What is picked from a list comes in the order of the first items that it is picked from. -/
theorem pairwise_firstOccurrences_filterMap {α : Type} (f : α → Option String) (list : List α) :
    (firstOccurrences (list.filterMap f)).Pairwise fun first second =>
      list.findIdx (f · == some first) < list.findIdx (f · == some second) := by
  induction list with
  | nil => exact .nil
  | cons a rest ih =>
    -- Whatever is not picked from `a` comes first one place further on than in `rest`.
    have hnext : ∀ s, f a ≠ some s →
        (a :: rest).findIdx (f · == some s) = rest.findIdx (f · == some s) + 1 := by
      intro s hs
      rw [List.findIdx_cons, beq_eq_false_iff_ne.mpr hs]
      rfl
    cases ha : f a with
    | none =>
      rw [List.filterMap_cons_none ha]
      refine ih.imp fun {first second} hlt => ?_
      rw [hnext first (by simp [ha]), hnext second (by simp [ha])]
      exact Nat.succ_lt_succ hlt
    | some s =>
      rw [List.filterMap_cons_some ha, firstOccurrences, List.pairwise_cons]
      have hother : ∀ t ∈ (firstOccurrences (rest.filterMap f)).filter (· != s), f a ≠ some t := by
        intro t ht hat
        rw [ha, Option.some.injEq] at hat
        exact absurd hat.symm (by simpa using (List.mem_filter.mp ht).2)
      constructor
      · intro t ht
        rw [hnext t (hother t ht), List.findIdx_cons, ha, beq_self_eq_true]
        exact Nat.succ_pos _
      · refine (ih.filter _).imp_of_mem fun {first second} hfirst hsecond hlt => ?_
        rw [hnext first (hother first hfirst), hnext second (hother second hsecond)]
        exact Nat.succ_lt_succ hlt

/-- A lookup of choices that gives no type. -/
inductive ChoiceFailure where
  /-- Only the field is concerned. -/
  | field (error : ResolveError)
  /-- The run is concerned. -/
  | fatal (error : LookupError)
  deriving DecidableEq, Repr

/-- The failure that a failed lookup amounts to. -/
def ChoiceFailure.ofLookup (error : LookupError) : ChoiceFailure :=
  if error.isFatal then .fatal error else .field (.lookup error)

/-- The type for a list of choices; `none` if the list is empty. -/
def choicesType (choices : List Choice) : Option TypeExpr :=
  match firstOccurrences (choices.map Choice.literal) with
  | [] => none
  | literals => some (.unionOf (literals.map .literal))

/-- The type that the result of a lookup gives; `none` without a record, without choices in it or
with an empty list of them. -/
def LookupResult.choiceType : LookupResult → Except ChoiceFailure (Option TypeExpr)
  | .error error => .error (.ofLookup error)
  | .ok metadata => .ok ((metadata.bind (·.choices)).bind choicesType)

/-- The type that a source's choices give a field, under a time limit for the lookup. -/
def ChoiceSource.choiceType (source : ChoiceSource) (limit : Option Nat) (key : FieldKey) :
    Except ChoiceFailure (Option TypeExpr) :=
  LookupResult.choiceType ((source key).within limit)

end TypedCatalog
