import TypedCatalog.Proofs.CommentEnd
import TypedCatalog.Proofs.LiteralReading
import TypedCatalog.Proofs.TypeNames

/-!
# Tokens

`tokens` cuts the text of a declaration into words, literals and marks. White space and comments
only separate them. `Lexes` says that a text gives certain tokens whatever comes after it, and
`LexesBefore` that it does before anything that does not go on with a word. The lemmas about them
put the tokens of a long text together from those of its parts.
-/

namespace TypedCatalog

open Naming Text

/-- A punctuation mark. -/
inductive Mark where
  /-- The mark that opens members. -/
  | openBrace
  /-- The mark that closes members. -/
  | closeBrace
  /-- The mark that opens a key or makes an array. -/
  | openBracket
  /-- The mark that closes a key or makes an array. -/
  | closeBracket
  /-- The mark that opens a group. -/
  | openGroup
  /-- The mark that closes a group. -/
  | closeGroup
  /-- The mark between members of a union. -/
  | bar
  /-- The mark between a name and a type. -/
  | colon
  /-- The mark at the end of a part. -/
  | semicolon
  /-- The mark between a declared name and its type. -/
  | equals
  deriving DecidableEq, Repr

/-- The mark that a character is. -/
def Mark.ofChar? : Char → Option Mark
  | '\x7b' => some openBrace
  | '\x7d' => some closeBrace
  | '[' => some openBracket
  | ']' => some closeBracket
  | '(' => some openGroup
  | ')' => some closeGroup
  | '|' => some bar
  | ':' => some colon
  | ';' => some semicolon
  | '=' => some equals
  | _ => none

/-- A part of a declaration's text. -/
inductive Token where
  /-- A name or a keyword. -/
  | word (name : String)
  /-- A literal and what it stands for. -/
  | quoted (quote : Char) (text : String)
  /-- A punctuation mark. -/
  | mark (mark : Mark)
  deriving DecidableEq, Repr

/-- What comes after a comment, which is read after its slash. -/
def afterComment : List Char → Option (List Char)
  | '*' :: rest => (cutComment rest).map Prod.snd
  | _ => none

theorem length_cutComment {text body rest : List Char} (h : cutComment text = some (body, rest)) :
    rest.length < text.length := by
  fun_induction cutComment text generalizing body with
  | case1 => cases h
  | case2 => cases h; simp only [List.length_cons]; omega
  | case3 c text hend ih =>
    obtain ⟨⟨inner, more⟩, hinner, hpair⟩ := Option.map_eq_some_iff.mp h
    cases hpair
    have := ih hinner
    simp only [List.length_cons]
    omega

theorem length_afterComment {text rest : List Char} (h : afterComment text = some rest) :
    rest.length < text.length := by
  unfold afterComment at h
  split at h
  · obtain ⟨⟨body, after⟩, hcut, rfl⟩ := Option.map_eq_some_iff.mp h
    have := length_cutComment hcut
    simp only [List.length_cons]
    omega
  · cases h

/-- Cuts a text into tokens; `none` if it holds anything else. -/
def tokens (text : List Char) : Option (List Token) :=
  match text with
  | [] => some []
  | c :: rest =>
    if isBlank c then tokens rest
    else if c = '/' then
      match _h : afterComment rest with
      | some after => tokens after
      | none => none
    else if isQuote c then
      match _h : literalBody c rest with
      | some (body, after) => (tokens after).map (.quoted c (String.ofList body) :: ·)
      | none => none
    else if isIdentifierStart c then
      (tokens (rest.dropWhile isIdentifierPart)).map
        (.word (String.ofList (c :: rest.takeWhile isIdentifierPart)) :: ·)
    else
      match Mark.ofChar? c with
      | some mark => (tokens rest).map (.mark mark :: ·)
      | none => none
termination_by text.length
decreasing_by
  · simp
  · have := length_afterComment _h
    simp only [List.length_cons]
    omega
  · have := length_literalBody _h
    simp only [List.length_cons]
    omega
  · have := (List.dropWhile_suffix (l := rest) isIdentifierPart).length_le
    simp only [List.length_cons]
    omega
  · simp

/-! ### One token -/

theorem tokens_nil : tokens [] = some [] := by
  rw [tokens.eq_def]

theorem tokens_blank {c : Char} (h : isBlank c) (rest : List Char) :
    tokens (c :: rest) = tokens rest := by
  rw [tokens.eq_def]
  dsimp only
  rw [if_pos h]

theorem tokens_space (rest : List Char) : tokens (' ' :: rest) = tokens rest := tokens_blank rfl rest

theorem tokens_feed (rest : List Char) : tokens ('\n' :: rest) = tokens rest := tokens_blank rfl rest

theorem tokens_blanks {blanks : List Char} (h : ∀ c ∈ blanks, isBlank c = true)
    (rest : List Char) : tokens (blanks ++ rest) = tokens rest := by
  induction blanks with
  | nil => rfl
  | cons c blanks ih =>
    rw [List.forall_mem_cons] at h
    rw [List.cons_append, tokens_blank h.1, ih h.2]

/-- A comment separates what is around it. -/
theorem tokens_comment {body : List Char} (h : ¬ HoldsCommentEnd body) (rest : List Char) :
    tokens ('/' :: '*' :: (body ++ '*' :: '/' :: rest)) = tokens rest := by
  have hafter : afterComment ('*' :: (body ++ '*' :: '/' :: rest)) = some rest := by
    rw [afterComment, (cutComment_append body rest).mpr h]
    rfl
  rw [tokens.eq_def]
  dsimp only
  rw [if_neg (by decide), if_pos rfl]
  split
  · rename_i after hsome
    rw [hafter] at hsome
    cases hsome
    rfl
  · rename_i hnone
    rw [hafter] at hnone
    cases hnone

/-- A literal is one token, whatever it stands for. -/
theorem tokens_quoted {quote : Char} (hquote : isQuote quote) (text : String) (rest : List Char) :
    tokens (quote :: ((escaped text quote).toList ++ quote :: rest)) =
      (tokens rest).map (.quoted quote text :: ·) := by
  have hbody : literalBody quote ((escaped text quote).toList ++ quote :: rest) =
      some (text.toList, rest) := by
    rw [toList_escaped]
    exact literalBody_escapedText hquote text.toList rest
  have hkind : isBlank quote = false ∧ quote ≠ '/' := by
    rcases eq_of_isQuote hquote with rfl | rfl <;> exact ⟨rfl, by decide⟩
  rw [tokens.eq_def]
  dsimp only
  rw [if_neg (by simp [hkind.1]), if_neg hkind.2, if_pos hquote]
  split
  · rename_i body after hsome
    rw [hbody] at hsome
    cases hsome
    rw [String.ofList_toList]
  · rename_i hnone
    rw [hbody] at hnone
    cases hnone

/-- What a text begins with does not go on with a word before it. -/
def EndsWord (text : List Char) : Prop := ∀ c ∈ text.head?, isIdentifierPart c = false

theorem endsWord_cons {c : Char} (h : isIdentifierPart c = false) (rest : List Char) :
    EndsWord (c :: rest) := by
  rintro d ⟨⟩
  exact h

theorem endsWord_space (rest : List Char) : EndsWord (' ' :: rest) := endsWord_cons rfl rest

theorem isIdentifierPart_of_isIdentifierStart {c : Char} (h : isIdentifierStart c) :
    isIdentifierPart c := by
  simp only [isIdentifierStart, isIdentifierPart, Char.isAlphanum, Bool.or_eq_true] at h ⊢
  exact h.imp_left (Or.imp_left Or.inl)

theorem toNat_lt_of_isIdentifierPart {c : Char} (h : isIdentifierPart c) : c.toNat < 0x80 := by
  delta isIdentifierPart Char.isAlphanum Char.isAlpha Char.isUpper Char.isDigit at h
  simp only [Bool.or_eq_true, Bool.and_eq_true, decide_eq_true_eq, isLower_eq_true,
    UInt32.le_iff_toNat_le, beq_iff_eq] at h
  rcases h with (((⟨-, h⟩ | ⟨-, h⟩) | ⟨-, h⟩) | rfl) | rfl
  · exact Nat.lt_of_le_of_lt h (by decide)
  · omega
  · exact Nat.lt_of_le_of_lt h (by decide)
  · decide
  · decide

/-- What a word begins with is neither blank nor opens a comment or a literal. -/
theorem isIdentifierStart_cases {c : Char} (h : isIdentifierStart c) :
    isBlank c = false ∧ c ≠ '/' ∧ isQuote c = false :=
  forall_ascii (P := fun c => isIdentifierStart c = true →
    isBlank c = false ∧ c ≠ '/' ∧ isQuote c = false) (by decide)
    (toNat_lt_of_isIdentifierPart (isIdentifierPart_of_isIdentifierStart h)) h

/-- A word is cut off where it ends. -/
theorem tokens_word {name : String} (hname : isIdentifier name) {rest : List Char}
    (hrest : EndsWord rest) :
    tokens (name.toList ++ rest) = (tokens rest).map (.word name :: ·) := by
  rw [isIdentifier] at hname
  cases hlist : name.toList with
  | nil =>
    rw [hlist] at hname
    cases hname
  | cons c part =>
    simp only [hlist, isIdentifierText, Bool.and_eq_true, List.all_eq_true] at hname
    obtain ⟨hstart, hparts⟩ := hname
    have hstop : rest.takeWhile isIdentifierPart = [] ∧ rest.dropWhile isIdentifierPart = rest := by
      cases rest with
      | nil => exact ⟨rfl, rfl⟩
      | cons d rest =>
        have hd : isIdentifierPart d = false := hrest d rfl
        simp [hd]
    have htake : (part ++ rest).takeWhile isIdentifierPart = part := by
      rw [List.takeWhile_append_of_pos hparts, hstop.1, List.append_nil]
    have hdrop : (part ++ rest).dropWhile isIdentifierPart = rest := by
      rw [List.dropWhile_append_of_pos hparts, hstop.2]
    obtain ⟨hblank, hslash, hquote⟩ := isIdentifierStart_cases hstart
    rw [List.cons_append, tokens.eq_def]
    dsimp only
    rw [if_neg (by simp [hblank]), if_neg hslash, if_neg (by simp [hquote]), if_pos hstart, htake,
      hdrop, ← hlist, String.ofList_toList]

theorem tokens_mark {c : Char} {mark : Mark} (h : Mark.ofChar? c = some mark) (rest : List Char) :
    tokens (c :: rest) = (tokens rest).map (.mark mark :: ·) := by
  have hc : isBlank c = false ∧ c ≠ '/' ∧ isQuote c = false ∧ isIdentifierStart c = false := by
    unfold Mark.ofChar? at h
    split at h
    all_goals first
      | exact ⟨rfl, by decide, rfl, rfl⟩
      | cases h
  obtain ⟨hblank, hslash, hquote, hstart⟩ := hc
  rw [tokens.eq_def]
  dsimp only
  rw [if_neg (by simp [hblank]), if_neg hslash, if_neg (by simp [hquote]),
    if_neg (by simp [hstart]), h]

/-! ### Parts of a text -/

/-- A text gives the tokens `found`, whatever comes after it. -/
def Lexes (text : List Char) (found : List Token) : Prop :=
  ∀ rest, tokens (text ++ rest) = (tokens rest).map (found ++ ·)

/-- A text gives the tokens `found`, unless what comes after it goes on with a word. -/
def LexesBefore (text : List Char) (found : List Token) : Prop :=
  ∀ rest, EndsWord rest → tokens (text ++ rest) = (tokens rest).map (found ++ ·)

theorem Lexes.nil : Lexes [] [] := fun rest => by simp

theorem Lexes.append {first second : List Char} {found more : List Token} (h : Lexes first found)
    (hsecond : Lexes second more) : Lexes (first ++ second) (found ++ more) := by
  intro rest
  rw [List.append_assoc, h, hsecond, Option.map_map]
  simp [Function.comp_def]

theorem Lexes.flatMap {α : Type} {text : α → List Char} {found : α → List Token} :
    ∀ {parts : List α}, (∀ part ∈ parts, Lexes (text part) (found part)) →
      Lexes (parts.flatMap text) (parts.flatMap found)
  | [], _ => .nil
  | _ :: _, h =>
    (h _ List.mem_cons_self).append (.flatMap fun part hpart =>
      h part (List.mem_cons_of_mem _ hpart))

theorem Lexes.before {text : List Char} {found : List Token} (h : Lexes text found) :
    LexesBefore text found :=
  fun rest _ => h rest

theorem LexesBefore.append {first second : List Char} {found more : List Token}
    (h : LexesBefore first found) (hsecond : LexesBefore second more) (hends : EndsWord second) :
    LexesBefore (first ++ second) (found ++ more) := by
  intro rest hrest
  have hboth : EndsWord (second ++ rest) := by
    cases second with
    | nil => exact hrest
    | cons c second => exact hends
  rw [List.append_assoc, h _ hboth, hsecond rest hrest, Option.map_map]
  simp [Function.comp_def]

/-- All of a text is cut into the tokens that its parts give. -/
theorem LexesBefore.tokens_eq {text : List Char} {found : List Token} (h : LexesBefore text found) :
    tokens text = some found := by
  have := h [] (by simp [EndsWord])
  rw [List.append_nil, tokens_nil] at this
  simpa using this

theorem Lexes.tokens_eq {text : List Char} {found : List Token} (h : Lexes text found) :
    tokens text = some found := h.before.tokens_eq

end TypedCatalog
