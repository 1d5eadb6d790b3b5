import TypedCatalog.Declaration.Model

/-!
# Where a comment ends

A comment ends at the first star with a slash behind it. `cutComment` cuts a text there, and finds
the end that was meant exactly if the body does not hold one (`cutComment_append`). The lines of a
note never do, whatever the note (`holdsCommentEnd_comment_append`): a star and a slash in it are
kept apart, and every line stands between blanks.
-/

namespace TypedCatalog

/-- Whether a text holds what ends a comment. -/
def HoldsCommentEnd (text : List Char) : Prop := ['*', '/'] <:+: text

instance (text : List Char) : Decidable (HoldsCommentEnd text) :=
  inferInstanceAs (Decidable (['*', '/'] <:+: text))

/-- The text before the first end of a comment and the text after it. -/
def cutComment : List Char → Option (List Char × List Char)
  | [] => none
  | '*' :: '/' :: rest => some ([], rest)
  | c :: rest => (cutComment rest).map fun (body, after) => (c :: body, after)

/-! ### Parts of a text -/

@[simp] theorem not_holdsCommentEnd_nil : ¬ HoldsCommentEnd [] := by decide

theorem holdsCommentEnd_cons {c : Char} {rest : List Char} :
    HoldsCommentEnd (c :: rest) ↔ (c = '*' ∧ rest.head? = some '/') ∨ HoldsCommentEnd rest := by
  unfold HoldsCommentEnd
  rw [List.infix_cons_iff, List.cons_prefix_cons]
  refine or_congr ⟨?_, ?_⟩ Iff.rfl
  · rintro ⟨rfl, more, rfl⟩
    exact ⟨rfl, rfl⟩
  · rintro ⟨rfl, h⟩
    obtain ⟨more, rfl⟩ := List.head?_eq_some_iff.mp h
    exact ⟨rfl, more, rfl⟩

theorem holdsCommentEnd_cons_of_ne {c : Char} (h : c ≠ '*') {rest : List Char} :
    HoldsCommentEnd (c :: rest) ↔ HoldsCommentEnd rest := by
  rw [holdsCommentEnd_cons]
  exact or_iff_right fun hc => h hc.1

theorem holdsCommentEnd_star_cons {c : Char} (h : c ≠ '/') {rest : List Char} :
    HoldsCommentEnd ('*' :: c :: rest) ↔ HoldsCommentEnd (c :: rest) := by
  rw [holdsCommentEnd_cons]
  exact or_iff_right fun hc => h (Option.some.inj hc.2)

/-- No end of a comment lies across a character that is neither a star nor a slash. -/
theorem holdsCommentEnd_append_cons {c : Char} (hstar : c ≠ '*') (hslash : c ≠ '/')
    (before : List Char) {after : List Char} :
    HoldsCommentEnd (before ++ c :: after) ↔ HoldsCommentEnd before ∨ HoldsCommentEnd after := by
  induction before with
  | nil => simp [holdsCommentEnd_cons_of_ne hstar]
  | cons d rest ih =>
    rw [List.cons_append, holdsCommentEnd_cons, holdsCommentEnd_cons, ih, or_assoc]
    refine or_congr (and_congr Iff.rfl ?_) Iff.rfl
    cases rest with
    | nil => simp [hslash]
    | cons e more => simp

theorem holdsCommentEnd_append_space (before : List Char) {after : List Char} :
    HoldsCommentEnd (before ++ ' ' :: after) ↔ HoldsCommentEnd before ∨ HoldsCommentEnd after :=
  holdsCommentEnd_append_cons (by decide) (by decide) before

theorem holdsCommentEnd_append_feed (before : List Char) {after : List Char} :
    HoldsCommentEnd (before ++ '\n' :: after) ↔ HoldsCommentEnd before ∨ HoldsCommentEnd after :=
  holdsCommentEnd_append_cons (by decide) (by decide) before

theorem holdsCommentEnd_feed_cons {rest : List Char} :
    HoldsCommentEnd ('\n' :: rest) ↔ HoldsCommentEnd rest :=
  holdsCommentEnd_cons_of_ne (by decide)

theorem holdsCommentEnd_star_space_cons {rest : List Char} :
    HoldsCommentEnd ('*' :: ' ' :: rest) ↔ HoldsCommentEnd rest := by
  rw [holdsCommentEnd_star_cons (by decide), holdsCommentEnd_cons_of_ne (by decide)]

theorem holdsCommentEnd_star_feed_cons {rest : List Char} :
    HoldsCommentEnd ('*' :: '\n' :: rest) ↔ HoldsCommentEnd rest := by
  rw [holdsCommentEnd_star_cons (by decide), holdsCommentEnd_feed_cons]

/-- A text without stars holds no end of a comment. -/
theorem not_holdsCommentEnd_of_not_mem {text : List Char} (h : '*' ∉ text) :
    ¬ HoldsCommentEnd text :=
  fun hend => h (hend.subset List.mem_cons_self)

/-- Spaces in front of a text neither end a comment nor help to. -/
theorem holdsCommentEnd_spaces_append {spaces : List Char} (h : ∀ c ∈ spaces, c = ' ')
    {rest : List Char} : HoldsCommentEnd (spaces ++ rest) ↔ HoldsCommentEnd rest := by
  induction spaces with
  | nil => rfl
  | cons c spaces ih =>
    rw [List.forall_mem_cons] at h
    rw [List.cons_append, holdsCommentEnd_cons_of_ne (h.1 ▸ by decide), ih h.2]

theorem not_holdsCommentEnd_of_spaces {text : List Char} (h : ∀ c ∈ text, c = ' ') :
    ¬ HoldsCommentEnd text := by
  refine not_holdsCommentEnd_of_not_mem fun hmem => ?_
  exact absurd (h '*' hmem) (by decide)

/-- A comment is cut at the end that was meant exactly if its body holds none. -/
theorem cutComment_append (body rest : List Char) :
    cutComment (body ++ '*' :: '/' :: rest) = some (body, rest) ↔ ¬ HoldsCommentEnd body := by
  induction body with
  | nil => simp [cutComment]
  | cons c body ih =>
    rw [holdsCommentEnd_cons, List.cons_append]
    by_cases hend : c = '*' ∧ (body ++ '*' :: '/' :: rest).head? = some '/'
    · obtain ⟨rfl, hhead⟩ := hend
      obtain ⟨more, hmore⟩ := List.head?_eq_some_iff.mp hhead
      have hbody : body.head? = some '/' := by
        cases body with
        | nil => simp at hhead
        | cons d body => simpa using hhead
      simp [hmore, cutComment, hbody]
    · have hcut : cutComment (c :: (body ++ '*' :: '/' :: rest)) =
          (cutComment (body ++ '*' :: '/' :: rest)).map
            fun (part, after) => (c :: part, after) := by
        rw [cutComment]
        rintro more rfl hmore
        exact hend ⟨rfl, by rw [hmore]; rfl⟩
      have hbody : ¬ (c = '*' ∧ body.head? = some '/') := by
        rintro ⟨rfl, hhead⟩
        obtain ⟨more, rfl⟩ := List.head?_eq_some_iff.mp hhead
        exact hend ⟨rfl, rfl⟩
      rw [hcut, or_iff_right hbody, ← ih]
      cases cutComment (body ++ '*' :: '/' :: rest) with
      | none => simp
      | some cut => simp [Prod.ext_iff]

/-! ### The lines of a note -/

theorem head?_breakCommentEnd (text : List Char) :
    (breakCommentEnd text).head? = text.head? := by
  fun_cases breakCommentEnd text <;> rfl

/-- A text is free of ends once they have been broken up. -/
theorem not_holdsCommentEnd_breakCommentEnd (text : List Char) :
    ¬ HoldsCommentEnd (breakCommentEnd text) := by
  fun_induction breakCommentEnd text with
  | case1 => exact not_holdsCommentEnd_nil
  | case2 rest ih =>
    rw [holdsCommentEnd_star_cons (by decide), holdsCommentEnd_cons_of_ne (by decide),
      holdsCommentEnd_cons_of_ne (by decide)]
    exact ih
  | case3 c rest hend ih =>
    rw [holdsCommentEnd_cons, head?_breakCommentEnd]
    rintro (⟨rfl, h⟩ | h)
    · obtain ⟨more, rfl⟩ := List.head?_eq_some_iff.mp h
      exact hend more rfl rfl
    · exact ih h

theorem not_holdsCommentEnd_noteLine (line : List Char) : ¬ HoldsCommentEnd (noteLine line) :=
  not_holdsCommentEnd_breakCommentEnd (Text.trimEnd line)

/-- A line of a comment adds no end, neither by itself nor with what comes after it. -/
theorem holdsCommentEnd_commentLine_append {indent line : List Char}
    (hindent : ∀ c ∈ indent, c = ' ') (hline : ¬ HoldsCommentEnd line) (rest : List Char) :
    HoldsCommentEnd (commentLine indent line ++ rest) ↔ HoldsCommentEnd rest := by
  unfold commentLine
  split
  · rw [List.append_assoc, holdsCommentEnd_spaces_append hindent, List.cons_append,
      holdsCommentEnd_cons_of_ne (by decide), List.cons_append, List.singleton_append,
      holdsCommentEnd_star_feed_cons]
  · have hsplit : indent ++ [' ', '*', ' '] ++ line ++ ['\n'] ++ rest =
        indent ++ ' ' :: ('*' :: ' ' :: (line ++ '\n' :: rest)) := by simp
    rw [hsplit, holdsCommentEnd_spaces_append hindent, holdsCommentEnd_cons_of_ne (by decide),
      holdsCommentEnd_star_space_cons, holdsCommentEnd_append_feed, or_iff_right hline]

/-- The lines of a note add no end of a comment, whatever stands in the note. -/
theorem holdsCommentEnd_comment_append {indent : String} (hindent : ∀ c ∈ indent.toList, c = ' ')
    (note : String) (rest : List Char) :
    HoldsCommentEnd ((comment indent note).toList ++ rest) ↔ HoldsCommentEnd rest := by
  rw [comment, String.toList_ofList, commentText]
  induction Text.lines note.toList with
  | nil => rfl
  | cons line lines ih =>
    rw [List.flatMap_cons, List.append_assoc,
      holdsCommentEnd_commentLine_append hindent (not_holdsCommentEnd_noteLine line), ih]

end TypedCatalog
