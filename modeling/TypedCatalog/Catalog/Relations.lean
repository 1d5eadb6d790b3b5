import TypedCatalog.Catalog.Basic

/-!
# Relations by field

`RelationIndex` groups the relations of a catalog under the fields that they claim: in the forward
direction the field that holds the key, in the reverse direction the alias field. A look-up in it
tells whether none, one or several relations claim a field.
-/

namespace TypedCatalog

/-- Relations grouped under pairwise different keys. -/
abbrev RelationGroups := List (FieldKey × List Relation)

namespace RelationGroups

/-- The groups with `relation` added at the end of the group under `key`. -/
def add (key : FieldKey) (relation : Relation) : RelationGroups → RelationGroups
  | [] => [(key, [relation])]
  | (other, group) :: rest =>
    if other = key then (other, group ++ [relation]) :: rest
    else (other, group) :: add key relation rest

/-- The group under `key`. -/
def get (groups : RelationGroups) (key : FieldKey) : List Relation :=
  ((groups.find? (·.1 == key)).map (·.2)).getD []

/-- The keys with more than one relation. -/
def ambiguous (groups : RelationGroups) : List FieldKey :=
  (groups.filter (1 < ·.2.length)).map (·.1)

/-- After an addition the key's own group is longer by the relation, the others are unchanged. -/
theorem get_add (groups : RelationGroups) (key other : FieldKey) (relation : Relation) :
    get (add key relation groups) other =
      if key = other then get groups other ++ [relation] else get groups other := by
  induction groups with
  | nil => by_cases h : key = other <;> simp [add, get, h]
  | cons first rest ih =>
    obtain ⟨firstKey, group⟩ := first
    simp only [get] at ih
    by_cases h : firstKey = key
    · by_cases ho : key = other <;> simp [add, get, h, ho]
    · by_cases hf : firstKey = other
      · have : ¬ key = other := fun e => h (hf.trans e.symm)
        rw [add, if_neg h, if_neg this]
        simp [get, hf]
      · simp [add, get, h, hf, ih]

end RelationGroups

/-- The relations of a catalog by the fields that they claim. -/
structure RelationIndex where
  /-- By the field that holds the key. -/
  forward : RelationGroups
  /-- By the alias field, for relations with a complete one-side. -/
  reverse : RelationGroups
  deriving Repr

/-- The two ways to look at a relation. -/
inductive Direction where
  /-- From the field that holds the key. -/
  | forward
  /-- From the alias field. -/
  | reverse
  deriving DecidableEq, Repr

/-- What claims a field. -/
inductive Claim where
  /-- Exactly one relation. -/
  | found (relation : Relation)
  /-- Several relations. -/
  | ambiguous (count : Nat)
  /-- No relation. -/
  | missing
  deriving DecidableEq, Repr

/-- What a group of relations amounts to. -/
def Claim.ofGroup : List Relation → Claim
  | [] => .missing
  | [relation] => .found relation
  | group => .ambiguous group.length

namespace RelationIndex

/-- The index without relations. -/
def empty : RelationIndex := ⟨[], []⟩

/-- The index with one more relation. -/
def add (index : RelationIndex) (relation : Relation) : RelationIndex where
  forward := RelationGroups.add relation.forwardKey relation index.forward
  reverse :=
    match relation.reverseKey? with
    | some key => RelationGroups.add key relation index.reverse
    | none => index.reverse

/-- The index of a list of relations. -/
def ofRelations (relations : List Relation) : RelationIndex :=
  relations.foldl add empty

/-- The groups of a direction. -/
def groups (index : RelationIndex) : Direction → RelationGroups
  | .forward => index.forward
  | .reverse => index.reverse

/-- What claims a field in the given direction. -/
def claim (index : RelationIndex) (direction : Direction) (key : FieldKey) : Claim :=
  Claim.ofGroup ((index.groups direction).get key)

/-- The fields that several relations claim in the given direction. -/
def ambiguous (index : RelationIndex) (direction : Direction) : List FieldKey :=
  (index.groups direction).ambiguous

end RelationIndex

end TypedCatalog
