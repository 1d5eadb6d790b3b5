/-!
# Paths

A path is a text whose parts stand between slashes. Empty parts and `.` lead nowhere, except that a
path that ends in one of them must lead to a directory. `Path.ancestors` lists the paths that have
to be directories before a path can be one.
-/

namespace TypedCatalog.Path

/-- The parts of a text between slashes. -/
def splitSlashes : List Char → List (List Char)
  | [] => [[]]
  | '/' :: rest => [] :: splitSlashes rest
  | c :: rest =>
    match splitSlashes rest with
    | [] => [[c]]
    | part :: parts => (c :: part) :: parts

/-- The parts of a path between slashes. -/
def parts (path : String) : List String :=
  (splitSlashes path.toList).map String.ofList

/-- Whether a path begins at the root. -/
def isAbsolute (path : String) : Bool :=
  path.toList.head? == some '/'

/-- Whether a part leads nowhere. -/
def isIdle (part : String) : Bool :=
  part == "" || part == "."

/-- The path of `name` below `root`; an absolute name stands for itself. -/
def join (root name : String) : String :=
  if isAbsolute name then name
  else if root.isEmpty || root.toList.getLast? == some '/' then root ++ name
  else root ++ "/" ++ name

/-- The parts of a path that lead somewhere. A `.` counts where a relative path begins. -/
def steps (path : String) : List String :=
  match parts path with
  | "." :: rest => "." :: rest.filter (!isIdle ·)
  | all => all.filter (!isIdle ·)

/-- The path along the given steps. -/
def ofSteps (absolute : Bool) (steps : List String) : String :=
  (if absolute then "/" else "") ++ "/".intercalate steps

/-- The beginnings of a list, from the longest that is shorter than the list down to the one that is
`least` long. -/
def shorterPrefixes (least : Nat) (steps : List String) : List (List String) :=
  (List.range steps.length).reverse.filterMap fun n =>
    if least ≤ n then some (steps.take n) else none

/-- The path itself and the paths above it, from the bottom up. The root is the last one above an
absolute path; a relative path ends with its first step. -/
def ancestors (path : String) : List String :=
  let absolute := isAbsolute path
  path :: (shorterPrefixes (if absolute then 0 else 1) (steps path)).map (ofSteps absolute)

/-! ### Parts between slashes -/

theorem splitSlashes_ne_nil (text : List Char) : splitSlashes text ≠ [] := by
  fun_cases splitSlashes text <;> simp

/-- Nothing is lost: the parts with slashes between them are the text. -/
theorem intercalate_splitSlashes (text : List Char) :
    ['/'].intercalate (splitSlashes text) = text := by
  fun_induction splitSlashes text with
  | case1 => rfl
  | case2 rest ih =>
    obtain ⟨part, parts, h⟩ := List.exists_cons_of_ne_nil (splitSlashes_ne_nil rest)
    rw [h] at ih ⊢
    simpa [List.intercalate, List.intersperse] using ih
  | case3 c rest _ h => exact absurd h (splitSlashes_ne_nil rest)
  | case4 c rest _ part parts h ih =>
    rw [h] at ih
    cases parts <;> simp_all [List.intercalate, List.intersperse]

/-- No part holds a slash. -/
theorem not_mem_splitSlashes {text part : List Char} (h : part ∈ splitSlashes text) :
    '/' ∉ part := by
  fun_induction splitSlashes text generalizing part with
  | case1 => simp_all
  | case2 rest ih => rcases List.mem_cons.mp h with rfl | h <;> simp_all
  | case3 c rest _ hrest => exact absurd hrest (splitSlashes_ne_nil rest)
  | case4 c rest hc first parts hrest ih =>
    rw [hrest] at ih
    rcases List.mem_cons.mp h with rfl | h
    · have hfirst : '/' ∉ first := ih (List.mem_cons_self ..)
      simp only [List.mem_cons, not_or]
      exact ⟨fun e => hc e.symm, hfirst⟩
    · exact ih (List.mem_cons_of_mem _ h)

end TypedCatalog.Path
