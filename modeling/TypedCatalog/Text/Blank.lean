/-!
# White space and lines

`isBlank` is Unicode's property `White_Space`. `trimEnd` cuts it off the end of a text, and
`lines` splits a text at its line feeds. The lemmas say what a trimmed text ends in and that no
line holds a line feed.
-/

namespace TypedCatalog.Text

/-- Whether `c` has the property `White_Space`. -/
def isBlank (c : Char) : Bool :=
  let n := c.toNat
  (0x9 ≤ n && n ≤ 0xD) || n == 0x20 || n == 0x85 || n == 0xA0 || n == 0x1680 ||
    (0x2000 ≤ n && n ≤ 0x200A) || n == 0x2028 || n == 0x2029 || n == 0x202F || n == 0x205F ||
    n == 0x3000

/-- Whether `c` is a control character: general category `Cc`. -/
def isControl (c : Char) : Bool :=
  let n := c.toNat
  n ≤ 0x1F || (0x7F ≤ n && n ≤ 0x9F)

/-- The text without the white space at its end. -/
def trimEnd (text : List Char) : List Char :=
  (text.reverse.dropWhile isBlank).reverse

/-- The lines of a text. A line feed ends a line and takes one carriage return before it along;
what follows the last line feed is a line unless it is empty. -/
def lines : List Char → List (List Char)
  | [] => []
  | '\n' :: rest => [] :: lines rest
  | '\r' :: '\n' :: rest => [] :: lines rest
  | c :: rest =>
    match lines rest with
    | [] => [[c]]
    | line :: more => (c :: line) :: more

/-! ### What the cuts leave -/

/-- Core's white space is white space. -/
theorem isBlank_of_isWhitespace {c : Char} (h : c.isWhitespace) : isBlank c := by
  simp only [Char.isWhitespace, Bool.or_eq_true, decide_eq_true_eq] at h
  rcases h with ((rfl | rfl) | rfl) | rfl <;> decide

/-- A trimmed text is the text up to some white space. -/
theorem exists_trimEnd_append (text : List Char) :
    ∃ blanks : List Char, (∀ c ∈ blanks, isBlank c) ∧ trimEnd text ++ blanks = text := by
  refine ⟨(text.reverse.takeWhile isBlank).reverse, fun c hc => ?_, ?_⟩
  · exact List.all_eq_true.mp List.all_takeWhile c (List.mem_reverse.mp hc)
  · rw [trimEnd, ← List.reverse_append, List.takeWhile_append_dropWhile, List.reverse_reverse]

/-- No line holds a line feed. -/
theorem not_mem_lines {text line : List Char} (h : line ∈ lines text) : '\n' ∉ line := by
  fun_induction lines text generalizing line with
  | case1 => simp at h
  | case2 rest ih => rcases List.mem_cons.mp h with rfl | h <;> simp_all
  | case3 rest ih => rcases List.mem_cons.mp h with rfl | h <;> simp_all
  | case4 c rest hfeed _ _ _ =>
    obtain rfl := List.mem_singleton.mp h
    exact fun hc => hfeed (List.mem_singleton.mp hc).symm
  | case5 c rest hfeed _ first more hrest ih =>
    rcases List.mem_cons.mp h with rfl | h
    · have : '\n' ∉ first := ih (by simp [hrest])
      simp only [List.mem_cons, not_or]
      exact ⟨fun h => hfeed h.symm, this⟩
    · exact ih (by simp [hrest, h])

end TypedCatalog.Text
