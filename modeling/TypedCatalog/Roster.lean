/-!
# Rosters

A roster is a list of items with pairwise different names, kept in the order in which the names
first came. Entities of a catalog, fields of an entity and units of a store are rosters.
The lemmas say what each operation does to the names and to a look-up.
-/

namespace TypedCatalog

/-- Where keys are pairwise different, a look-up by key finds exactly the item that has the key. -/
theorem find?_eq_some_iff_of_nodup {α κ : Type} [BEq κ] [LawfulBEq κ] {key : α → κ}
    {items : List α} (distinct : (items.map key).Nodup) {k : κ} {item : α} :
    items.find? (key · == k) = some item ↔ item ∈ items ∧ key item = k := by
  constructor
  · intro h
    exact ⟨List.mem_of_find?_eq_some h, by simpa using List.find?_some h⟩
  · rintro ⟨hmem, rfl⟩
    induction items with
    | nil => cases hmem
    | cons other rest ih =>
      rw [List.map_cons, List.nodup_cons] at distinct
      rcases List.mem_cons.mp hmem with rfl | hrest
      · simp
      · have hne : key other ≠ key item := fun e => distinct.1 (e ▸ List.mem_map_of_mem hrest)
        rw [List.find?_cons, beq_eq_false_iff_ne.mpr hne]
        exact ih distinct.2 hrest

/-- Where keys are pairwise different, a filter by the key of an item leaves that item alone. -/
theorem filter_eq_singleton_of_nodup {α κ : Type} [BEq κ] [LawfulBEq κ] {key : α → κ}
    {items : List α} (distinct : (items.map key).Nodup) {item : α} (h : item ∈ items) :
    items.filter (key · == key item) = [item] := by
  induction items with
  | nil => cases h
  | cons other rest ih =>
    rw [List.map_cons, List.nodup_cons] at distinct
    have hlater : ∀ later ∈ rest, key later ≠ key other := fun later hmem hsame =>
      distinct.1 (hsame ▸ List.mem_map_of_mem hmem)
    rcases List.mem_cons.mp h with rfl | hrest
    · have hnone : rest.filter (key · == key item) = [] :=
        List.filter_eq_nil_iff.mpr fun later hmem => by simpa using hlater later hmem
      rw [List.filter_cons, beq_self_eq_true, if_pos rfl, hnone]
    · rw [List.filter_cons_of_neg (by simpa using Ne.symm (hlater item hrest)),
        ih distinct.2 hrest]

/-- Items that carry a name. -/
class Named (α : Type) where
  /-- The name of an item. -/
  name : α → String

/-- Items with pairwise different names, in order. -/
structure Roster (α : Type) [Named α] where
  /-- The items, in order. -/
  toList : List α
  /-- No two items share a name. -/
  distinct : (toList.map Named.name).Nodup

namespace Roster

variable {α : Type} [Named α]

instance [BEq α] : BEq (Roster α) where
  beq a b := a.toList == b.toList

instance [Repr α] : Repr (Roster α) where
  reprPrec roster n := reprPrec roster.toList n

/-- The roster without items. -/
def empty : Roster α := ⟨[], List.nodup_nil⟩

instance : Inhabited (Roster α) := ⟨empty⟩

/-- The names, in order. -/
def names (roster : Roster α) : List String := roster.toList.map Named.name

/-- The number of items. -/
def size (roster : Roster α) : Nat := roster.toList.length

/-- Whether there is no item. -/
def isEmpty (roster : Roster α) : Bool := roster.toList.isEmpty

/-- The item of the given name. -/
def find? (roster : Roster α) (name : String) : Option α :=
  roster.toList.find? (Named.name · == name)

/-- Whether some item has the given name. -/
def contains (roster : Roster α) (name : String) : Bool :=
  roster.toList.any (Named.name · == name)

/-- The list with `item` in the place of the item of its name, or at the end. -/
def put (item : α) : List α → List α
  | [] => [item]
  | other :: rest =>
    if Named.name other = Named.name item then item :: rest else other :: put item rest

/-- Putting an item in changes the names only if its name is new, and then adds it at the end. -/
theorem map_name_put (item : α) (items : List α) :
    (put item items).map Named.name =
      if Named.name item ∈ items.map Named.name then items.map Named.name
      else items.map Named.name ++ [Named.name item] := by
  induction items with
  | nil => simp [put]
  | cons other rest ih =>
    by_cases h : Named.name other = Named.name item
    · simp [put, h]
    · have h' : Named.name item ≠ Named.name other := fun e => h e.symm
      by_cases hr : Named.name item ∈ rest.map Named.name
      · rw [if_pos hr] at ih
        rw [put, if_neg h, List.map_cons, List.map_cons, ih, if_pos (List.mem_cons_of_mem _ hr)]
      · rw [if_neg hr] at ih
        rw [put, if_neg h, List.map_cons, List.map_cons, ih,
          if_neg (by rw [List.mem_cons]; exact not_or.mpr ⟨h', hr⟩), List.cons_append]

/-- The roster with `item` in the place of the item of its name, or at the end if the name is
new. -/
def insert (roster : Roster α) (item : α) : Roster α where
  toList := put item roster.toList
  distinct := by
    rw [map_name_put]
    split
    · exact roster.distinct
    · rename_i h
      rw [List.nodup_append]
      refine ⟨roster.distinct, by simp, fun a ha b hb hab => h ?_⟩
      rw [List.mem_singleton] at hb
      exact hb ▸ hab ▸ ha

/-- The roster of the items, each taking the place of an earlier one of its name. -/
def ofList (items : List α) : Roster α :=
  items.foldl insert empty

/-! ### Names and look-ups -/

@[simp] theorem names_empty : (empty : Roster α).names = [] := rfl

@[simp] theorem toList_empty : (empty : Roster α).toList = [] := rfl

@[simp] theorem toList_insert (roster : Roster α) (item : α) :
    (roster.insert item).toList = put item roster.toList := rfl

/-- A new name comes last and a known one keeps its place. -/
theorem names_insert (roster : Roster α) (item : α) :
    (roster.insert item).names =
      if Named.name item ∈ roster.names then roster.names
      else roster.names ++ [Named.name item] :=
  map_name_put item roster.toList

theorem contains_eq_true {roster : Roster α} {name : String} :
    roster.contains name = true ↔ name ∈ roster.names := by
  simp [contains, names]

/-- A look-up finds an item exactly if the name is there. -/
theorem isSome_find? (roster : Roster α) (name : String) :
    (roster.find? name).isSome = roster.contains name :=
  List.isSome_find?

private theorem find?_put (item : α) (items : List α) (name : String) :
    (put item items).find? (Named.name · == name) =
      if Named.name item = name then some item else items.find? (Named.name · == name) := by
  induction items with
  | nil => by_cases h : Named.name item = name <;> simp [put, h]
  | cons other rest ih =>
    by_cases h : Named.name other = Named.name item
    · by_cases hn : Named.name item = name <;> simp [put, h, hn]
    · by_cases ho : Named.name other = name
      · have : ¬ Named.name item = name := fun e => h (ho.trans e.symm)
        rw [put, if_neg h, if_neg this, List.find?_cons, List.find?_cons]
        simp [ho]
      · simp [put, h, ho, ih]

/-- After an insertion the item's own name finds it, and any other name finds what it found. -/
theorem find?_insert (roster : Roster α) (item : α) (name : String) :
    (roster.insert item).find? name =
      if Named.name item = name then some item else roster.find? name :=
  find?_put item roster.toList name

@[simp] theorem find?_empty (name : String) : (empty : Roster α).find? name = none := rfl

/-- What a look-up finds is an item of that name. -/
theorem mem_of_find? {roster : Roster α} {name : String} {item : α}
    (h : roster.find? name = some item) : item ∈ roster.toList ∧ Named.name item = name :=
  (find?_eq_some_iff_of_nodup roster.distinct).mp h

/-- Every item is found under its name. -/
theorem find?_of_mem {roster : Roster α} {item : α} (h : item ∈ roster.toList) :
    roster.find? (Named.name item) = some item :=
  (find?_eq_some_iff_of_nodup roster.distinct).mpr ⟨h, rfl⟩

/-! ### Items put in -/

/-- An item of a new name comes at the end. -/
theorem put_of_not_mem {item : α} :
    ∀ {items : List α}, Named.name item ∉ items.map Named.name → put item items = items ++ [item]
  | [], _ => rfl
  | other :: rest, h => by
    rw [List.map_cons, List.mem_cons, not_or] at h
    rw [put, if_neg (Ne.symm h.1), put_of_not_mem h.2, List.cons_append]

/-- An item of a known name takes the place of the one that has it. -/
theorem put_of_mem {item : α} {items : List α} (distinct : (items.map Named.name).Nodup)
    (h : Named.name item ∈ items.map Named.name) :
    put item items =
      items.map fun other => if Named.name other = Named.name item then item else other := by
  induction items with
  | nil => cases h
  | cons other rest ih =>
    rw [List.map_cons, List.nodup_cons] at distinct
    by_cases hsame : Named.name other = Named.name item
    · have hrest : ∀ later ∈ rest,
          (if Named.name later = Named.name item then item else later) = later := by
        intro later hlater
        refine if_neg fun e => distinct.1 ?_
        rw [hsame, ← e]
        exact List.mem_map_of_mem hlater
      rw [put, if_pos hsame, List.map_cons, if_pos hsame, List.map_congr_left hrest,
        List.map_id']
    · have hmem := (List.mem_cons.mp h).resolve_left (Ne.symm hsame)
      rw [put, if_neg hsame, List.map_cons, if_neg hsame, ih distinct.2 hmem]

/-- Items with names of their own come at the end, in order. -/
theorem toList_foldl_insert (roster : Roster α) {items : List α}
    (h : (roster.names ++ items.map Named.name).Nodup) :
    (items.foldl insert roster).toList = roster.toList ++ items := by
  induction items generalizing roster with
  | nil => simp
  | cons item rest ih =>
    rw [List.map_cons, ← List.singleton_append, ← List.append_assoc] at h
    have hnew : Named.name item ∉ roster.names := by
      have := (List.nodup_append.mp (List.nodup_append.mp h).1).2.2
      intro hmem
      exact this _ hmem _ (by simp) rfl
    have hlist : (roster.insert item).toList = roster.toList ++ [item] := put_of_not_mem hnew
    have hnames : (roster.insert item).names = roster.names ++ [Named.name item] := by
      rw [names_insert, if_neg hnew]
    rw [List.foldl_cons, ih _ (by rw [hnames]; exact h), hlist, List.append_assoc,
      List.singleton_append]

/-- Items with pairwise different names are the items of their roster. -/
theorem toList_ofList {items : List α} (h : (items.map Named.name).Nodup) :
    (ofList items).toList = items := by
  rw [ofList, toList_foldl_insert _ (by rwa [names_empty, List.nil_append]), toList_empty,
    List.nil_append]

/-- A roster is told by its items. -/
theorem eq_of_toList_eq {roster other : Roster α} (h : roster.toList = other.toList) :
    roster = other := by
  cases roster
  cases other
  cases h
  rfl

theorem ofList_append_singleton (items : List α) (item : α) :
    ofList (items ++ [item]) = (ofList items).insert item := by
  rw [ofList, List.foldl_append]
  rfl

theorem mem_names_insert {roster : Roster α} {item : α} {name : String} :
    name ∈ (roster.insert item).names ↔ name ∈ roster.names ∨ name = Named.name item := by
  rw [names_insert]
  split
  · rename_i h
    exact ⟨.inl, Or.rec id fun e => e ▸ h⟩
  · rw [List.mem_append, List.mem_singleton]

theorem mem_names_foldl_insert {roster : Roster α} {items : List α} {name : String} :
    name ∈ (items.foldl insert roster).names ↔
      name ∈ roster.names ∨ name ∈ items.map Named.name := by
  induction items generalizing roster with
  | nil => simp
  | cons item rest ih =>
    rw [List.foldl_cons, ih, mem_names_insert, List.map_cons, List.mem_cons, or_assoc]

/-- The names of a roster are those of the items that it is made of. -/
theorem mem_names_ofList {items : List α} {name : String} :
    name ∈ (ofList items).names ↔ name ∈ items.map Named.name := by
  rw [ofList, mem_names_foldl_insert, names_empty]
  simp

/-- After several insertions a name finds the last item put in under it, or what it found before. -/
theorem find?_foldl_insert (roster : Roster α) (items : List α) (name : String) :
    (items.foldl insert roster).find? name =
      ((items.filter (Named.name · == name)).getLast?).or (roster.find? name) := by
  induction items generalizing roster with
  | nil => rfl
  | cons item rest ih =>
    rw [List.foldl_cons, ih, find?_insert, List.filter_cons]
    by_cases h : Named.name item = name
    · rw [if_pos h, if_pos (beq_iff_eq.mpr h), List.getLast?_cons]
      cases (rest.filter (Named.name · == name)).getLast? <;> rfl
    · rw [if_neg h, if_neg (by simpa using h)]

/-- Insertions under known names change neither the names nor their order. -/
theorem names_foldl_insert_of_mem {roster : Roster α} {items : List α}
    (h : ∀ item ∈ items, Named.name item ∈ roster.names) :
    (items.foldl insert roster).names = roster.names := by
  induction items generalizing roster with
  | nil => rfl
  | cons item rest ih =>
    rw [List.forall_mem_cons] at h
    have hnames : (roster.insert item).names = roster.names := by rw [names_insert, if_pos h.1]
    rw [List.foldl_cons, ih (by rw [hnames]; exact h.2), hnames]

/-- A roster is its names with what they find. -/
theorem toList_eq_filterMap (roster : Roster α) :
    roster.toList = roster.names.filterMap roster.find? := by
  have hpart : ∀ items : List α, (∀ item ∈ items, item ∈ roster.toList) →
      (items.map Named.name).filterMap roster.find? = items := by
    intro items h
    induction items with
    | nil => rfl
    | cons item rest ih =>
      rw [List.forall_mem_cons] at h
      rw [List.map_cons, List.filterMap_cons_some (find?_of_mem h.1), ih h.2]
  exact (hpart roster.toList fun _ h => h).symm

/-- Putting the same items in again changes nothing. -/
theorem foldl_insert_foldl_insert (roster : Roster α) (items : List α) :
    items.foldl insert (items.foldl insert roster) = items.foldl insert roster := by
  -- Where items share a name the rosters in between differ from the one at the end, so the ends are
  -- compared by their names and look-ups and not one insertion after the other.
  have hnames : (items.foldl insert (items.foldl insert roster)).names =
      (items.foldl insert roster).names :=
    names_foldl_insert_of_mem fun item h =>
      mem_names_foldl_insert.mpr (.inr (List.mem_map_of_mem h))
  have hfind : (items.foldl insert (items.foldl insert roster)).find? =
      (items.foldl insert roster).find? := by
    funext name
    rw [find?_foldl_insert, find?_foldl_insert, ← Option.or_assoc, Option.or_self]
  refine eq_of_toList_eq ?_
  rw [toList_eq_filterMap, toList_eq_filterMap (items.foldl insert roster), hnames, hfind]

end Roster

end TypedCatalog
