import Mathlib.Data.List.Forall2
import TypedCatalog.Proofs.CommentEnd

/-!
# The lines of a note in a comment

A note is written line by line: for each of its lines (`SplitsInto`) there is one in the comment
(`IsNoteLine`), which begins with a star and holds the line without the white space at its end and
without an end of the comment (`Respells`). Nothing of a note is lost but that: the lines of the
comment can be read back (`lines_commentText`), and notes are written alike exactly if their lines
are (`comment_exact`).
-/

namespace TypedCatalog

namespace Text

/-! ### Lines -/

/-- A line without the carriage return that stands before its line feed. -/
def dropReturn (line : List Char) : List Char :=
  if line.getLast? = some '\r' then line.dropLast else line

/-- The lines that a text splits into at its line feeds. -/
inductive SplitsInto : List Char → List (List Char) → Prop where
  /-- The empty text has no line. -/
  | nil : SplitsInto [] []
  /-- A text without line feed is a line. -/
  | last {line : List Char} (hne : line ≠ []) (hline : '\n' ∉ line) : SplitsInto line [line]
  /-- A line feed ends a line. -/
  | feed {line rest : List Char} {more : List (List Char)} (hline : '\n' ∉ line)
    (hrest : SplitsInto rest more) :
    SplitsInto (line ++ '\n' :: rest) (dropReturn line :: more)

/-- A character that neither ends a line nor goes with the end of one begins its line. -/
theorem lines_cons {c : Char} {text line : List Char} {more : List (List Char)} (hfeed : c ≠ '\n')
    (hreturn : c = '\r' → text.head? ≠ some '\n') (h : lines text = line :: more) :
    lines (c :: text) = (c :: line) :: more := by
  rw [lines, h]
  · exact hfeed
  · rintro rest rfl rfl
    exact hreturn rfl rfl

theorem lines_of_not_mem {line : List Char} (hne : line ≠ []) (hline : '\n' ∉ line) :
    lines line = [line] := by
  induction line with
  | nil => exact absurd rfl hne
  | cons c line ih =>
    rw [List.mem_cons, not_or] at hline
    have hhead : line.head? ≠ some '\n' := fun h => hline.2 (List.mem_of_head? h)
    cases line with
    | nil =>
      rw [lines, lines]
      · exact Ne.symm hline.1
      · exact fun _ _ h => by cases h
    | cons d line =>
      exact lines_cons (Ne.symm hline.1) (fun _ => hhead) (ih (List.cons_ne_nil d line) hline.2)

theorem dropReturn_cons {c : Char} {line : List Char} (h : ¬(c = '\r' ∧ line = [])) :
    dropReturn (c :: line) = c :: dropReturn line := by
  unfold dropReturn
  cases line with
  | nil =>
    have hreturn : c ≠ '\r' := fun hc => h ⟨hc, rfl⟩
    simp [hreturn]
  | cons d line =>
    rw [List.getLast?_cons_cons, List.dropLast_cons_cons]
    split <;> rfl

theorem lines_append_feed {line : List Char} (hline : '\n' ∉ line) (rest : List Char) :
    lines (line ++ '\n' :: rest) = dropReturn line :: lines rest := by
  induction line with
  | nil => rfl
  | cons c line ih =>
    rw [List.mem_cons, not_or] at hline
    by_cases hlast : c = '\r' ∧ line = []
    · obtain ⟨rfl, rfl⟩ := hlast
      rfl
    · rw [List.cons_append, dropReturn_cons hlast]
      refine lines_cons (Ne.symm hline.1) (fun hreturn => ?_) (ih hline.2)
      cases line with
      | nil => exact absurd ⟨hreturn, rfl⟩ hlast
      | cons d line =>
        rw [List.cons_append, List.head?_cons, ne_eq, Option.some_inj]
        exact fun hd => hline.2 (hd ▸ List.mem_cons_self)

theorem splitsInto_lines (text : List Char) : SplitsInto text (lines text) := by
  by_cases hfeed : '\n' ∈ text
  · obtain ⟨line, rest, rfl, hline⟩ := List.eq_append_cons_of_mem hfeed
    rw [lines_append_feed hline]
    exact .feed hline (splitsInto_lines rest)
  · by_cases hne : text = []
    · rw [hne]
      exact .nil
    · rw [lines_of_not_mem hne hfeed]
      exact .last hne hfeed
termination_by text.length

/-- A text splits into its lines and no others. -/
theorem splitsInto_iff {text : List Char} {list : List (List Char)} :
    SplitsInto text list ↔ list = lines text := by
  constructor
  · intro h
    induction h with
    | nil => rfl
    | last hne hline => rw [lines_of_not_mem hne hline]
    | feed hline _ ih => rw [lines_append_feed hline, ih]
  · rintro rfl
    exact splitsInto_lines text

/-- Lines that are ended by line feeds are read back, if none ends in a carriage return. -/
theorem lines_flatMap_feed {list : List (List Char)}
    (h : ∀ line ∈ list, '\n' ∉ line ∧ line.getLast? ≠ some '\r') :
    lines (list.flatMap (· ++ ['\n'])) = list := by
  induction list with
  | nil => rfl
  | cons line list ih =>
    rw [List.forall_mem_cons] at h
    rw [List.flatMap_cons, List.append_assoc, List.singleton_append, lines_append_feed h.1.1,
      ih h.2, dropReturn, if_neg h.1.2]

/-- A trimmed text does not end in white space. -/
theorem isBlank_of_getLast?_trimEnd {text : List Char} {c : Char}
    (h : (trimEnd text).getLast? = some c) : isBlank c = false := by
  have hhead := List.head?_dropWhile_not isBlank text.reverse
  rw [trimEnd, List.getLast?_reverse] at h
  rw [h] at hhead
  simpa using hhead

end Text

open Text

/-! ### Ends of comments in a note -/

/-- How a text is spelled with every `*/` in it as `*\/`, and with nothing else changed. -/
inductive Respells : List Char → List Char → Prop where
  /-- Without an end of a comment the text is kept. -/
  | kept {text : List Char} (h : ¬ HoldsCommentEnd text) : Respells text text
  /-- The first end of a comment is broken up. -/
  | broken {before after spelled : List Char} (h : ¬ HoldsCommentEnd before)
    (hafter : Respells after spelled) :
    Respells (before ++ '*' :: '/' :: after) (before ++ '*' :: '\\' :: '/' :: spelled)

theorem breakCommentEnd_cons {c : Char} {text : List Char}
    (h : ¬(c = '*' ∧ text.head? = some '/')) :
    breakCommentEnd (c :: text) = c :: breakCommentEnd text := by
  rw [breakCommentEnd]
  rintro rest rfl rfl
  exact h ⟨rfl, rfl⟩

theorem breakCommentEnd_of_not_holdsCommentEnd {text : List Char} (h : ¬ HoldsCommentEnd text) :
    breakCommentEnd text = text := by
  induction text with
  | nil => rfl
  | cons c text ih =>
    rw [holdsCommentEnd_cons, not_or] at h
    rw [breakCommentEnd_cons h.1, ih h.2]

theorem breakCommentEnd_append {before : List Char} (h : ¬ HoldsCommentEnd before)
    (after : List Char) :
    breakCommentEnd (before ++ '*' :: '/' :: after) =
      before ++ '*' :: '\\' :: '/' :: breakCommentEnd after := by
  induction before with
  | nil => rfl
  | cons c before ih =>
    rw [holdsCommentEnd_cons, not_or] at h
    rw [List.cons_append, breakCommentEnd_cons, ih h.2, List.cons_append]
    rintro ⟨rfl, hhead⟩
    refine h.1 ⟨rfl, ?_⟩
    cases before with
    | nil => cases hhead
    | cons d before => exact hhead

theorem Respells.cons {c : Char} {text spelled : List Char}
    (hfirst : ¬(c = '*' ∧ text.head? = some '/')) (h : Respells text spelled) :
    Respells (c :: text) (c :: spelled) := by
  cases h with
  | kept h =>
    refine .kept ?_
    rw [holdsCommentEnd_cons, not_or]
    exact ⟨hfirst, h⟩
  | @broken before after spelled h hafter =>
    refine @Respells.broken (c :: before) _ _ ?_ hafter
    rw [holdsCommentEnd_cons, not_or]
    refine ⟨?_, h⟩
    rintro ⟨rfl, hhead⟩
    refine hfirst ⟨rfl, ?_⟩
    obtain ⟨rest, rfl⟩ := List.head?_eq_some_iff.mp hhead
    rfl

theorem respells_breakCommentEnd (text : List Char) : Respells text (breakCommentEnd text) := by
  fun_induction breakCommentEnd text with
  | case1 => exact .kept not_holdsCommentEnd_nil
  | case2 rest ih => exact @Respells.broken [] _ _ not_holdsCommentEnd_nil ih
  | case3 c rest hend ih =>
    refine ih.cons ?_
    rintro ⟨rfl, hhead⟩
    obtain ⟨more, rfl⟩ := List.head?_eq_some_iff.mp hhead
    exact hend more rfl rfl

/-- A text has one such spelling. -/
theorem respells_iff {text spelled : List Char} :
    Respells text spelled ↔ spelled = breakCommentEnd text := by
  constructor
  · intro h
    induction h with
    | kept h => rw [breakCommentEnd_of_not_holdsCommentEnd h]
    | broken h _ ih => rw [breakCommentEnd_append h, ih]
  · rintro rfl
    exact respells_breakCommentEnd text

theorem getLast?_breakCommentEnd (text : List Char) :
    (breakCommentEnd text).getLast? = text.getLast? := by
  fun_induction breakCommentEnd text with
  | case1 => rfl
  | case2 rest ih => simp [List.getLast?_cons, ih]
  | case3 c rest _ ih => rw [List.getLast?_cons, List.getLast?_cons, ih]

/-- Breaking up ends of comments breaks no line. -/
theorem feed_not_mem_breakCommentEnd {text : List Char} (h : '\n' ∉ text) :
    '\n' ∉ breakCommentEnd text := by
  fun_induction breakCommentEnd text with
  | case1 => exact h
  | case2 rest ih => simp_all
  | case3 c rest _ ih => simp_all

/-! ### The lines of a comment -/

/-- A line of a comment without the line feed at its end. -/
def starredLine (indent text : List Char) : List Char :=
  indent ++ [' ', '*'] ++ if text = [] then [] else ' ' :: text

theorem commentLine_eq (indent text : List Char) :
    commentLine indent text = starredLine indent text ++ ['\n'] := by
  cases text <;> simp [commentLine, starredLine]

theorem starredLine_injective (indent : List Char) : Function.Injective (starredLine indent) := by
  intro text other h
  have hrest := List.append_cancel_left h
  cases text <;> cases other <;> simp_all

/-- What a line of a note is to be written as, in a comment with the given indent. -/
structure IsNoteLine (indent line written : List Char) : Prop where
  /-- The written line begins with the indent and a star. -/
  starts : indent ++ [' ', '*'] <+: written
  /-- It is one line. -/
  feed : '\n' ∉ written
  /-- It does not end in white space. -/
  ends : ∀ c, written.getLast? = some c → isBlank c = false
  /-- Behind the star it holds the line up to the white space at its end, with every end of a
  comment broken up. -/
  holds : ∃ kept blanks spelled, kept ++ blanks = line ∧ (∀ c ∈ blanks, isBlank c) ∧
    (∀ c, kept.getLast? = some c → isBlank c = false) ∧ Respells kept spelled ∧
    written = starredLine indent spelled

theorem getLast?_starredLine (indent text : List Char) :
    (starredLine indent text).getLast? = some (text.getLast?.getD '*') := by
  cases text with
  | nil => simp [starredLine]
  | cons c text => simp [starredLine, List.getLast?_cons]

theorem isNoteLine_starredLine {indent line : List Char} (hindent : ∀ c ∈ indent, c = ' ')
    (hline : '\n' ∉ line) : IsNoteLine indent line (starredLine indent (noteLine line)) where
  starts := List.prefix_append _ _
  feed := by
    obtain ⟨blanks, -, happend⟩ := exists_trimEnd_append line
    have htrimmed : '\n' ∉ trimEnd line := fun h =>
      hline (happend ▸ List.mem_append_left blanks h)
    have hspelled : '\n' ∉ noteLine line := feed_not_mem_breakCommentEnd htrimmed
    have hspaces : '\n' ∉ indent := fun h => absurd (hindent _ h) (by decide)
    unfold starredLine
    split <;> simp [hspaces, hspelled]
  ends c h := by
    rw [getLast?_starredLine, Option.some_inj, noteLine, getLast?_breakCommentEnd] at h
    cases hlast : (trimEnd line).getLast? with
    | none =>
      rw [hlast, Option.getD_none] at h
      exact h ▸ by decide
    | some d =>
      rw [hlast, Option.getD_some] at h
      exact h ▸ isBlank_of_getLast?_trimEnd hlast
  holds := by
    obtain ⟨blanks, hblanks, happend⟩ := exists_trimEnd_append line
    exact ⟨trimEnd line, blanks, noteLine line, happend, hblanks,
      fun c => isBlank_of_getLast?_trimEnd, respells_iff.mpr rfl, rfl⟩

theorem commentText_eq (indent note : List Char) :
    commentText indent note =
      ((lines note).map fun line => starredLine indent (noteLine line)).flatMap (· ++ ['\n']) := by
  rw [commentText, List.flatMap_map]
  simp only [commentLine_eq]

theorem forall₂_isNoteLine {indent : List Char} (hindent : ∀ c ∈ indent, c = ' ')
    (note : List Char) :
    List.Forall₂ (IsNoteLine indent) (lines note)
      ((lines note).map fun line => starredLine indent (noteLine line)) := by
  rw [List.forall₂_map_right_iff, List.forall₂_same]
  exact fun line hline => isNoteLine_starredLine hindent (not_mem_lines hline)

/-- The lines of a note can be read back from the comment. -/
theorem lines_commentText {indent : List Char} (hindent : ∀ c ∈ indent, c = ' ')
    (note : List Char) :
    lines (commentText indent note) =
      (lines note).map fun line => starredLine indent (noteLine line) := by
  rw [commentText_eq]
  refine lines_flatMap_feed fun written hwritten => ?_
  obtain ⟨line, hline, rfl⟩ := List.mem_map.mp hwritten
  have hnote := isNoteLine_starredLine hindent (not_mem_lines hline)
  exact ⟨hnote.feed, fun h => absurd (hnote.ends _ h) (by decide)⟩

/-- Neither do the opening mark of a comment and the lines of a note end the comment together. -/
theorem holdsCommentEnd_opened_append {indent : String} (hindent : ∀ c ∈ indent.toList, c = ' ')
    (note : String) (after : List Char) :
    HoldsCommentEnd ((indent ++ "/**\n" ++ comment indent note).toList ++ after) ↔
      HoldsCommentEnd after := by
  have hsplit : (indent ++ "/**\n" ++ comment indent note).toList ++ after =
      indent.toList ++ '/' :: '*' :: '*' :: '\n' :: ((comment indent note).toList ++ after) := by
    simp
  rw [hsplit, holdsCommentEnd_spaces_append hindent, holdsCommentEnd_cons_of_ne (by decide),
    holdsCommentEnd_star_cons (by decide), holdsCommentEnd_star_feed_cons,
    holdsCommentEnd_comment_append hindent]

/-- The lines of a note in a comment. They hold no end of the comment, neither by themselves nor
with the opening mark before them and the empty line after them, whatever else comes after. There is
one for each line of the note, which begins with the indent and a star, does not end in white space
and holds the line, but for the white space at its end and for the ends of comments in it, which are
broken up. Two notes are written alike exactly if their lines agree but for these. -/
theorem comment_exact {indent : String} (hindent : ∀ c ∈ indent.toList, c = ' ') (note : String) :
    ¬ HoldsCommentEnd (comment indent note).toList ∧
      (∀ after, HoldsCommentEnd ((indent ++ "/**\n" ++ comment indent note).toList ++ after) ↔
        HoldsCommentEnd after) ∧
      ¬ HoldsCommentEnd (indent ++ "/**\n" ++ comment indent note ++ indent ++ " *\n").toList ∧
      (∃ list written, SplitsInto note.toList list ∧
        List.Forall₂ (IsNoteLine indent.toList) list written ∧
        SplitsInto (comment indent note).toList written ∧
        (comment indent note).toList = written.flatMap (· ++ ['\n'])) ∧
      ∀ other : String, comment indent note = comment indent other ↔
        (lines note.toList).map noteLine = (lines other.toList).map noteLine := by
  have hopened := holdsCommentEnd_opened_append hindent note
  refine ⟨?_, hopened, ?_, ⟨lines note.toList, _, splitsInto_lines _,
    forall₂_isNoteLine hindent _, ?_, ?_⟩, fun other => ?_⟩
  · have halone := holdsCommentEnd_comment_append hindent note []
    rw [List.append_nil] at halone
    exact halone.not.mpr not_holdsCommentEnd_nil
  · rw [String.toList_append, String.toList_append, List.append_assoc, hopened,
      holdsCommentEnd_spaces_append hindent]
    decide
  · rw [splitsInto_iff, comment, String.toList_ofList, lines_commentText hindent]
  · rw [comment, String.toList_ofList, commentText_eq]
  · rw [comment, comment, String.ofList_inj]
    constructor
    · intro h
      have hlines := congrArg lines h
      rw [lines_commentText hindent, lines_commentText hindent] at hlines
      refine List.map_injective_iff.mpr (starredLine_injective indent.toList) ?_
      rw [List.map_map, List.map_map]
      exact hlines
    · intro h
      have hwritten := congrArg (List.map (starredLine indent.toList)) h
      rw [List.map_map, List.map_map] at hwritten
      rw [commentText_eq, commentText_eq]
      exact congrArg _ hwritten

/-- A note with an end of a comment before white space, with another across two of its lines, and
with a carriage return that ends none. -/
theorem comment_exact_marks :
    comment "  " "a**/ \r\n*\n/b\r" = "   * a**\\/\n   * *\n   * /b\n" ∧
      ¬ HoldsCommentEnd (comment "  " "a**/ \r\n*\n/b\r").toList ∧
      comment "  " "a**/ \r\n*\n/b\r" = comment "  " "a**\\/\n*\u2003\r\n/b" := by
  have hindent : ∀ c ∈ "  ".toList, c = ' ' := by simp
  obtain ⟨hends, -, -, -, hsame⟩ := comment_exact hindent "a**/ \r\n*\n/b\r"
  exact ⟨by decide +kernel, hends, (hsame _).mpr (by decide +kernel)⟩

end TypedCatalog
