import Mathlib.Data.List.Perm.Basic

/-!
# Computations that can fail

When a computation in several steps gives a result: exactly if every step does. A traversal gives
one result for every item, in order (`mapM_eq_ok`), or the error of the first step that fails
(`error?_mapM`). A loop that judges each item by the ones before it stops at the first problem
(`foldlM_eq_firstProblem`).
-/

namespace TypedCatalog

variable {α β γ ε : Type}

theorem bind_eq_ok {x : Except ε α} {f : α → Except ε β} {b : β} :
    (x >>= f) = .ok b ↔ ∃ a, x = .ok a ∧ f a = .ok b := by
  cases x <;> simp [bind, Except.bind]

theorem map_eq_ok {x : Except ε α} {f : α → β} {b : β} :
    f <$> x = .ok b ↔ ∃ a, x = .ok a ∧ f a = b := by
  cases x <;> simp

theorem pure_eq_ok {a b : α} : (pure a : Except ε α) = .ok b ↔ a = b :=
  ⟨Except.ok.inj, fun h => h ▸ rfl⟩

/-- A traversal succeeds exactly if every step does, with the results in order. -/
theorem mapM_eq_ok {f : α → Except ε β} {list : List α} {results : List β} :
    list.mapM f = .ok results ↔ List.Forall₂ (fun a b => f a = .ok b) list results := by
  induction list generalizing results with
  | nil => rw [List.mapM_nil, pure_eq_ok, List.forall₂_nil_left_iff, eq_comm]
  | cons a list ih =>
    rw [List.mapM_cons, bind_eq_ok, List.forall₂_cons_left_iff]
    refine exists_congr fun b => ?_
    rw [bind_eq_ok]
    constructor
    · rintro ⟨ha, rest, hrest, hresults⟩
      exact ⟨rest, ha, ih.mp hrest, (pure_eq_ok.mp hresults).symm⟩
    · rintro ⟨rest, ha, hrest, hresults⟩
      exact ⟨ha, rest, ih.mpr hrest, pure_eq_ok.mpr hresults.symm⟩

/-- Steps that agree on the items of a list make traversals that agree. -/
theorem mapM_congr {f g : α → Except ε β} {list : List α} (h : ∀ a ∈ list, f a = g a) :
    list.mapM f = list.mapM g := by
  induction list with
  | nil => rfl
  | cons a list ih =>
    rw [List.forall_mem_cons] at h
    rw [List.mapM_cons, List.mapM_cons, h.1, ih h.2]

/-- The results of items in another order are the results in another order. -/
theorem perm_of_mapM {f : α → Except ε β} {list others : List α} {results otherResults : List β}
    (h : list.Perm others) (hlist : list.mapM f = .ok results)
    (hothers : others.mapM f = .ok otherResults) : results.Perm otherResults := by
  obtain ⟨reordered, hreordered, hperm⟩ := List.perm_comp_forall₂ h (mapM_eq_ok.mp hothers)
  obtain rfl := Except.ok.inj (hlist.symm.trans (mapM_eq_ok.mpr hreordered))
  exact hperm

/-! ### Errors -/

/-- The error of a computation that failed. -/
def error? : Except ε α → Option ε
  | .ok _ => none
  | .error error => some error

theorem error?_eq_some {x : Except ε α} {error : ε} : error? x = some error ↔ x = .error error := by
  cases x <;> simp [error?]

theorem error?_eq_none {x : Except ε α} : error? x = none ↔ ∃ a, x = .ok a := by
  cases x <;> simp [error?]

theorem bind_eq_error {x : Except ε α} {f : α → Except ε β} {error : ε} :
    (x >>= f) = .error error ↔ x = .error error ∨ ∃ a, x = .ok a ∧ f a = .error error := by
  cases x <;> simp [bind, Except.bind]

theorem error?_map (f : α → β) (x : Except ε α) : error? (f <$> x) = error? x := by
  cases x <;> rfl

theorem error?_bind_pure (f : α → β) (x : Except ε α) :
    error? (x >>= fun a => pure (f a)) = error? x := by
  cases x <;> rfl

/-- A traversal fails with the error of the first step that does. -/
theorem error?_mapM (f : α → Except ε β) (list : List α) :
    error? (list.mapM f) = list.findSome? fun a => error? (f a) := by
  induction list with
  | nil => rfl
  | cons a list ih =>
    rw [List.mapM_cons, List.findSome?_cons, ← ih]
    cases f a with
    | error error => rfl
    | ok b => cases list.mapM f <;> rfl

/-- The first hit in lists one after the other is the first of the first hits in each. -/
theorem findSome?_flatMap (f : α → List β) (g : β → Option γ) (list : List α) :
    (list.flatMap f).findSome? g = list.findSome? fun a => (f a).findSome? g := by
  simp only [← List.head?_filterMap, List.filterMap_flatMap, List.head?_flatMap]

/-! ### Scans -/

/-- The first problem along a list, where an item is judged by the items before it; `before` is what
has been passed already. -/
def firstProblem (problem? : List α → α → Option ε) (before : List α) : List α → Option ε
  | [] => none
  | a :: rest => (problem? before a).or (firstProblem problem? (before ++ [a]) rest)

/-- A loop whose state depends on the items passed, and whose step stops at a problem, stops at the
first problem or comes to the state of the whole list. -/
theorem foldlM_eq_firstProblem {step : β → α → Except ε β} {problem? : List α → α → Option ε}
    (state : List α → β)
    (hstep : ∀ before a, step (state before) a =
      (problem? before a).elim (.ok (state (before ++ [a]))) .error)
    (before list : List α) :
    list.foldlM step (state before) =
      (firstProblem problem? before list).elim (.ok (state (before ++ list))) .error := by
  induction list generalizing before with
  | nil => rw [List.append_nil]; rfl
  | cons a rest ih =>
    rw [List.foldlM_cons, hstep, firstProblem]
    cases problem? before a with
    | some error => rfl
    | none =>
      have hnext := ih (before ++ [a])
      rw [List.append_assoc, List.singleton_append] at hnext
      exact hnext

/-- A computation goes on after a loop that found no problem. -/
theorem elim_bind (problem : Option ε) (a : α) (f : α → Except ε β) :
    (problem.elim (.ok a) .error >>= f) = problem.elim (f a) .error := by
  cases problem <;> rfl

/-- The problems of a list come before those of what follows it. -/
theorem firstProblem_append {problem? : List α → α → Option ε} {before list rest : List α} :
    firstProblem problem? before (list ++ rest) =
      (firstProblem problem? before list).or (firstProblem problem? (before ++ list) rest) := by
  induction list generalizing before with
  | nil => simp [firstProblem]
  | cons a list ih =>
    rw [List.cons_append, firstProblem, firstProblem, ih, Option.or_assoc, List.append_assoc,
      List.singleton_append]

/-- A change of the items that no judgement depends on leaves the first problem as it is. -/
theorem firstProblem_map {problem? : List α → α → Option ε} {f : α → α}
    (h : ∀ before a, problem? (before.map f) (f a) = problem? before a) (before list : List α) :
    firstProblem problem? (before.map f) (list.map f) = firstProblem problem? before list := by
  induction list generalizing before with
  | nil => rfl
  | cons a rest ih =>
    have hnext := ih (before ++ [a])
    rw [List.map_append, List.map_singleton] at hnext
    rw [List.map_cons, firstProblem, firstProblem, h, hnext]

/-- The first problem is that of an item before which there is none. -/
theorem firstProblem_eq_some {problem? : List α → α → Option ε} {before list : List α} {error : ε} :
    firstProblem problem? before list = some error ↔ ∃ earlier a later,
      list = earlier ++ a :: later ∧ firstProblem problem? before earlier = none ∧
        problem? (before ++ earlier) a = some error := by
  constructor
  · induction list generalizing before with
    | nil => exact nofun
    | cons a rest ih =>
      rw [firstProblem, Option.or_eq_some_iff]
      rintro (hfirst | ⟨hnone, hrest⟩)
      · exact ⟨[], a, rest, rfl, rfl, by rwa [List.append_nil]⟩
      · obtain ⟨earlier, b, later, rfl, hpassed, hproblem⟩ := ih hrest
        refine ⟨a :: earlier, b, later, rfl, ?_, ?_⟩
        · rw [firstProblem, hnone, Option.none_or, hpassed]
        · rwa [List.append_assoc, List.singleton_append] at hproblem
  · rintro ⟨earlier, a, later, rfl, hpassed, hproblem⟩
    rw [firstProblem_append, hpassed, Option.none_or, firstProblem, hproblem, Option.some_or]

/-- A list in which each item is judged by itself has no problem exactly if each is good. -/
theorem firstProblem_eq_none {problem? : List α → α → Option ε} {good : α → Prop}
    (h : ∀ before a, problem? before a = none ↔ good a) (before list : List α) :
    firstProblem problem? before list = none ↔ ∀ a ∈ list, good a := by
  induction list generalizing before with
  | nil => simp [firstProblem]
  | cons a rest ih => rw [firstProblem, Option.or_eq_none_iff, h, ih, List.forall_mem_cons]

/-- A list in which each item is judged by itself, and must be new, has no problem exactly if each
is good and no two are the same. -/
theorem firstProblem_eq_none_iff_nodup {problem? : List α → α → Option ε} {good : α → Prop}
    {key : α → γ} (h : ∀ before a, problem? before a = none ↔ good a ∧ key a ∉ before.map key)
    (before list : List α) :
    firstProblem problem? before list = none ↔
      (∀ a ∈ list, good a) ∧ (list.map key).Nodup ∧ ∀ a ∈ list, key a ∉ before.map key := by
  induction list generalizing before with
  | nil => simp [firstProblem]
  | cons a rest ih =>
    have hlater : (∀ later ∈ rest, key later ∉ (before ++ [a]).map key) ↔
        (∀ later ∈ rest, key later ∉ before.map key) ∧ key a ∉ rest.map key := by
      simp only [List.map_append, List.map_singleton, List.mem_append, List.mem_singleton, not_or,
        List.mem_map (b := key a), not_exists, not_and, forall_and]
    rw [firstProblem, Option.or_eq_none_iff, h, ih, hlater, List.forall_mem_cons,
      List.forall_mem_cons, List.map_cons, List.nodup_cons]
    tauto

/-! ### Results side by side -/

/-- Values that agree pairwise along two lists agree as lists. -/
theorem map_eq_map_of_forall₂ {f : α → γ} {g : β → γ} :
    ∀ {list : List α} {others : List β}, List.Forall₂ (fun a b => g b = f a) list others →
      others.map g = list.map f
  | _, _, .nil => rfl
  | _, _, .cons h hall => by rw [List.map_cons, List.map_cons, h, map_eq_map_of_forall₂ hall]

/-- Values that agree pairwise along two lists are picked from both alike. -/
theorem filterMap_eq_filterMap_of_forall₂ {f : α → Option γ} {g : β → Option γ} {list : List α}
    {others : List β} (h : List.Forall₂ (fun a b => g b = f a) list others) :
    others.filterMap g = list.filterMap f := by
  have hmap := congrArg (List.filterMap id) (map_eq_map_of_forall₂ h)
  rwa [List.filterMap_map, List.filterMap_map, Function.id_comp, Function.id_comp] at hmap

/-- What is picked from a list comes from the items that something is picked from, in order. -/
theorem forall₂_filterMap (f : α → Option β) (list : List α) :
    List.Forall₂ (fun a b => f a = some b) (list.filter fun a => (f a).isSome)
      (list.filterMap f) := by
  induction list with
  | nil => exact .nil
  | cons a rest ih =>
    cases ha : f a with
    | none => rwa [List.filterMap_cons_none ha, List.filter_cons_of_neg (by simp [ha])]
    | some b =>
      rw [List.filterMap_cons_some ha, List.filter_cons_of_pos (by simp [ha])]
      exact .cons ha ih

/-- A property that agrees pairwise along two lists holds somewhere in both or in neither. -/
theorem exists_mem_iff_of_forall₂ {P : α → Prop} {Q : β → Prop} :
    ∀ {list : List α} {others : List β}, List.Forall₂ (fun a b => Q b ↔ P a) list others →
      ((∃ b ∈ others, Q b) ↔ ∃ a ∈ list, P a)
  | _, _, .nil => by simp
  | _, _, .cons h hall => by
    rw [List.exists_mem_cons_iff, List.exists_mem_cons_iff, h, exists_mem_iff_of_forall₂ hall]

/-- What follows from being paired, for items of the first list, holds along both lists. -/
theorem forall₂_imp_of_mem {R S : α → β → Prop} {list : List α} {others : List β}
    (h : ∀ a ∈ list, ∀ b, R a b → S a b) (hall : List.Forall₂ R list others) :
    List.Forall₂ S list others :=
  ((List.forall₂_and_left list others).mpr ⟨h, hall⟩).imp fun _ b ⟨hS, hR⟩ => hS b hR

/-- Two lists that are paired with one list are paired with each other. -/
theorem forall₂_of_common {R : α → β → Prop} {S : α → γ → Prop} {T : β → γ → Prop} :
    ∀ {list : List α} {others : List β} {results : List γ},
      (∀ a ∈ list, ∀ b c, R a b → S a c → T b c) → List.Forall₂ R list others →
        List.Forall₂ S list results → List.Forall₂ T others results
  | _, _, _, _, .nil, .nil => .nil
  | _, _, _, h, .cons hR hothers, .cons hS hresults => by
    rw [List.forall_mem_cons] at h
    exact .cons (h.1 _ _ hR hS) (forall₂_of_common h.2 hothers hresults)

/-- Every item of the second list is paired with one of the first. -/
theorem exists_mem_of_forall₂ {R : α → β → Prop} :
    ∀ {list : List α} {others : List β}, List.Forall₂ R list others →
      ∀ b ∈ others, ∃ a ∈ list, R a b
  | _, _, .nil => by simp
  | _, _, .cons hab hall => by
    rw [List.forall_mem_cons]
    refine ⟨⟨_, List.mem_cons_self, hab⟩, fun b hb => ?_⟩
    obtain ⟨a, ha, h⟩ := exists_mem_of_forall₂ hall b hb
    exact ⟨a, List.mem_cons_of_mem _ ha, h⟩

/-- What follows from being paired holds of every item of the second list. -/
theorem forall_mem_of_forall₂ {R : α → β → Prop} {P : β → Prop} (h : ∀ a b, R a b → P b)
    {list : List α} {others : List β} (hall : List.Forall₂ R list others) : ∀ b ∈ others, P b := by
  intro b hb
  obtain ⟨a, -, hab⟩ := exists_mem_of_forall₂ hall b hb
  exact h a b hab

end TypedCatalog
