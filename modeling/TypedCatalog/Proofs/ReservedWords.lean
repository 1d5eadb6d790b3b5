import TypedCatalog.Proofs.Singulars

/-!
# Type identifiers and reserved words

What PascalCase leaves of a name holds no separator (`isSeparator_of_mem_pascalFrom`), and it is
empty for names of separators only (`typeIdentifier_eq_empty`): the singular of a word is never
empty, and no character is mapped to nothing. As the first character is no small letter either, an
identifier that can be written is spelled in letters, digits and dollar signs with no small letter
first, and it is none of the words that the declarations reserve, which all begin with one
(`typeIdentifier_unreserved`).
-/

namespace TypedCatalog.Naming

open Text

/-! ### PascalCase has no separators -/

/-- The code points of the separators, as inclusive ranges. -/
def separatorRanges : List (Nat × Nat) := [
  (0x9, 0xD), (0x20, 0x20), (0x2D, 0x2D), (0x5F, 0x5F), (0x85, 0x85), (0xA0, 0xA0),
  (0x1680, 0x1680), (0x2000, 0x200A), (0x2028, 0x2029), (0x202F, 0x202F), (0x205F, 0x205F),
  (0x3000, 0x3000)]

theorem isSeparator_eq_true {c : Char} :
    isSeparator c = true ↔ ∃ range ∈ separatorRanges, range.1 ≤ c.toNat ∧ c.toNat ≤ range.2 := by
  have hpoint : ∀ d : Char, c = d ↔ c.toNat = d.toNat := fun d => Char.toNat_inj.symm
  have hunderscore : '_'.toNat = 0x5F := rfl
  have hhyphen : '-'.toNat = 0x2D := rfl
  simp only [isSeparator, isBlank, separatorRanges, Bool.or_eq_true, Bool.and_eq_true, beq_iff_eq,
    decide_eq_true_eq, List.exists_mem_cons_iff, List.not_mem_nil, false_and, exists_false,
    or_false, hpoint]
  omega

/-- Case mapping takes no other character to a separator, if no run beyond ASCII does. -/
theorem isSeparator_mapRuns {runs : List CaseRun}
    (hruns : ∀ run ∈ runs, ∀ range ∈ separatorRanges,
      run.last < 0x80 ∨ run.last + run.shift < range.1 ∨ range.2 < run.first + run.shift)
    {c : Char} (hc : 0x80 ≤ c.toNat) (h : isSeparator c = false) :
    isSeparator (mapRuns runs c) = false := by
  -- The character zero stands for what is mapped to no character at all, so it must not be hit.
  have hpositive : ∀ range ∈ separatorRanges, 0 < range.1 := by decide
  rw [Bool.eq_false_iff, ne_eq, isSeparator_eq_true] at h ⊢
  rintro ⟨range, hrange, hfirst, hlast⟩
  have hpos := hpositive range hrange
  refine toNat_mapRuns_ne (n := (mapRuns runs c).toNat) (by omega) (fun run hrun => ?_) hc
    (fun hsame => h ⟨range, hrange, by omega, by omega⟩) rfl
  have := hruns run hrun range hrange
  omega

theorem isSeparator_of_mem_lowerChar {c d : Char} (h : isSeparator c = false)
    (hd : d ∈ lowerChar c) : isSeparator d = false := by
  unfold lowerChar at hd
  split at hd
  · rw [List.mem_singleton.mp hd, isSeparator_toLower, h]
  split at hd
  · exact any_isSeparator_eq_false.mp (by decide) d hd
  · rename_i hlt _
    rw [List.mem_singleton.mp hd]
    exact isSeparator_mapRuns (by decide +kernel) (by omega) h

theorem isSeparator_of_mem_upperChar {c d : Char} (h : isSeparator c = false)
    (hd : d ∈ upperChar c) : isSeparator d = false := by
  unfold upperChar at hd
  split at hd
  · rename_i hlt
    rw [List.mem_singleton.mp hd]
    exact forall_ascii (P := fun c => isSeparator c = false → isSeparator c.toUpper = false)
      (by decide) hlt h
  split at hd
  · rename_i form hfind
    have hall : ∀ entry ∈ upperSequences, (entry.2.map Char.ofNat).any isSeparator = false := by
      decide +kernel
    exact any_isSeparator_eq_false.mp (hall _ (List.mem_of_find?_eq_some hfind)) d hd
  · rename_i hlt _
    rw [List.mem_singleton.mp hd]
    exact isSeparator_mapRuns (by decide +kernel) (by omega) h

theorem isSeparator_of_mem_pascalFrom (text : List Char) :
    ∀ atStart, ∀ d ∈ pascalFrom atStart text, isSeparator d = false := by
  induction text with
  | nil => exact fun _ => nofun
  | cons c rest ih =>
    intro atStart
    rw [pascalFrom]
    split
    · exact ih true
    · rename_i hc
      refine List.forall_mem_append.mpr ⟨fun d hd => ?_, ih false⟩
      rw [Bool.not_eq_true] at hc
      cases atStart with
      | true => exact isSeparator_of_mem_upperChar hc hd
      | false => exact isSeparator_of_mem_lowerChar hc hd

/-! ### Names that leave nothing -/

theorem upperChar_ne_nil (c : Char) : upperChar c ≠ [] := by
  obtain ⟨first, rest, hupper, -⟩ := exists_upperChar_eq_cons c
  rw [hupper]
  exact List.cons_ne_nil first rest

theorem pascalFrom_eq_nil {text : List Char} :
    ∀ {atStart}, pascalFrom atStart text = [] ↔ ∀ c ∈ text, isSeparator c := by
  induction text with
  | nil => simp [pascalFrom]
  | cons c rest ih =>
    intro atStart
    rw [pascalFrom, List.forall_mem_cons]
    split
    · rename_i hc
      rw [ih, and_iff_right hc]
    · rename_i hc
      cases atStart <;> simp [hc, lowerChar_ne_nil, upperChar_ne_nil]

theorem singularWord_eq_nil {word : List Char} : singularWord word = [] ↔ word = [] := by
  constructor
  · intro h
    have hform := singularForm word
    rw [h] at hform
    -- The form is one of a result that happens to be empty: `cases` needs a variable there.
    generalize hresult : ([] : List Char) = result at hform
    cases hform with
    | kept => rfl
    | irregular hmem _ =>
      have hall : ∀ entry ∈ irregular, [] ≠ entry.2.toList := by decide
      exact absurd hresult (hall _ hmem)
    | ending hmem _ =>
      have hall : ∀ rule ∈ endingRules, rule.replacement.toList ≠ [] := by decide
      exact absurd (List.append_eq_nil_iff.mp hresult.symm).2 (hall _ hmem)
    | plainS hrest _ _ _ => exact absurd hresult.symm hrest
  · rintro rfl
    rfl

/-- A word without separators holds separators only if it is empty. -/
theorem forall_isSeparator_iff {word : List Char} (h : ∀ c ∈ word, isSeparator c = false) :
    (∀ c ∈ word, isSeparator c) ↔ word = [] := by
  cases word with
  | nil => simp
  | cons c rest => simp [h c List.mem_cons_self]

/-- The singular of a name holds only separators exactly if the name does. -/
theorem forall_isSeparator_singularize {name : List Char} :
    (∀ c ∈ singularize name, isSeparator c) ↔ ∀ c ∈ name, isSeparator c := by
  have hlast : ∀ c ∈ (splitLastWord name).2, isSeparator c = false :=
    fun _ => not_isSeparator_of_mem_lastWord
  have hsingular : (∀ c ∈ singularWord (splitLastWord name).2, isSeparator c) ↔
      ∀ c ∈ (splitLastWord name).2, isSeparator c := by
    rw [forall_isSeparator_iff (isSeparator_of_mem_singularWord hlast), singularWord_eq_nil,
      forall_isSeparator_iff hlast]
  rw [singularize, List.forall_mem_append, hsingular, ← List.forall_mem_append,
    splitLastWord_append]

/-- Only names without a letter, digit or mark have the empty identifier. -/
theorem typeIdentifier_eq_empty {name : String} :
    typeIdentifier name = "" ↔ ∀ c ∈ name.toList, isSeparator c := by
  rw [typeIdentifier, String.ofList_eq_empty_iff, pascalCase, pascalFrom_eq_nil,
    forall_isSeparator_singularize]

/-! ### Reserved words -/

/-- The words that have a meaning of their own in declarations: keywords, and the names of the types
that need no declaration. -/
def reservedWords : List String := [
  "abstract", "accessor", "any", "as", "asserts", "assert", "async", "await", "bigint", "boolean",
  "break", "case", "catch", "class", "const", "constructor", "continue", "debugger", "declare",
  "default", "defer", "delete", "do", "else", "enum", "export", "extends", "false", "finally",
  "for", "from", "function", "get", "global", "if", "implements", "import", "in", "infer",
  "instanceof", "interface", "intrinsic", "is", "keyof", "let", "module", "namespace", "never",
  "new", "null", "number", "object", "of", "out", "override", "package", "private", "protected",
  "public", "readonly", "require", "return", "satisfies", "set", "static", "string", "super",
  "switch", "symbol", "this", "throw", "true", "try", "type", "typeof", "undefined", "unique",
  "unknown", "using", "var", "void", "while", "with", "yield"]

/-- Whether a word begins with a small letter of ASCII. -/
def startsSmall (word : String) : Bool :=
  word.toList.head?.any Char.isLower

theorem startsSmall_of_mem_reservedWords : ∀ word ∈ reservedWords, startsSmall word := by decide

/-- The words of keyword types are reserved. -/
theorem text_mem_reservedWords (word : Keyword) : word.text ∈ reservedWords := by
  cases word <;> decide

theorem not_startsSmall_typeIdentifier (name : String) :
    startsSmall (typeIdentifier name) = false := by
  unfold startsSmall
  cases hhead : (typeIdentifier name).toList.head? with
  | none => rfl
  | some c => exact not_isLower_of_head_typeIdentifier hhead

/-- An identifier without separators that does not begin with a small letter begins with a capital
letter or a dollar sign, and only letters, digits and dollar signs follow. -/
theorem exists_cons_of_isIdentifier {name : String} (h : isIdentifier name)
    (hword : ∀ c ∈ name.toList, isSeparator c = false) (hsmall : startsSmall name = false) :
    ∃ first rest, name.toList = first :: rest ∧ (first.isUpper ∨ first = '$') ∧
      ∀ c ∈ rest, c.isAlphanum ∨ c = '$' := by
  have hunderscore : ∀ c ∈ name.toList, c ≠ '_' := by
    rintro c hc rfl
    exact absurd (hword _ hc) (by decide)
  unfold isIdentifier at h
  unfold startsSmall at hsmall
  cases htext : name.toList with
  | nil =>
    rw [htext] at h
    exact absurd h (by decide)
  | cons first rest =>
    rw [htext] at h hsmall hunderscore
    rw [List.forall_mem_cons] at hunderscore
    simp only [isIdentifierText, isIdentifierStart, isIdentifierPart, Bool.and_eq_true,
      Bool.or_eq_true, List.all_eq_true, beq_iff_eq] at h
    refine ⟨first, rest, rfl, ?_, fun c hc => ?_⟩
    · rcases h.1 with (hletter | h) | h
      · have hcase : first.isUpper ∨ first.isLower := Bool.or_eq_true_iff.mp hletter
        exact .inl (hcase.resolve_right (Bool.eq_false_iff.mp hsmall))
      · exact absurd h hunderscore.1
      · exact .inr h
    · rcases h.2 c hc with (hletter | h) | h
      · exact .inl hletter
      · exact absurd h (hunderscore.2 c hc)
      · exact .inr h

/-- A type identifier holds no separator, it is empty exactly if the name holds nothing else, and it
does not begin with a small letter. So one that can be written is a capital letter or a dollar sign
with letters, digits and dollar signs behind, and none of the reserved words, which all begin with a
small letter. -/
theorem typeIdentifier_unreserved (name : String) :
    (∀ c ∈ (typeIdentifier name).toList, isSeparator c = false) ∧
      (typeIdentifier name = "" ↔ ∀ c ∈ name.toList, isSeparator c) ∧
      startsSmall (typeIdentifier name) = false ∧
      (isIdentifier (typeIdentifier name) →
        (∃ first rest, (typeIdentifier name).toList = first :: rest ∧
          (first.isUpper ∨ first = '$') ∧ ∀ c ∈ rest, c.isAlphanum ∨ c = '$') ∧
        typeIdentifier name ∉ reservedWords ∧ ∀ word : Keyword, typeIdentifier name ≠ word.text) ∧
      ∀ word ∈ reservedWords, startsSmall word := by
  have hword : ∀ c ∈ (typeIdentifier name).toList, isSeparator c = false := by
    rw [typeIdentifier, String.toList_ofList]
    exact isSeparator_of_mem_pascalFrom _ true
  have hsmall := not_startsSmall_typeIdentifier name
  have hreserved : typeIdentifier name ∉ reservedWords := by
    intro h
    rw [startsSmall_of_mem_reservedWords _ h] at hsmall
    cases hsmall
  refine ⟨hword, typeIdentifier_eq_empty, hsmall, fun h => ⟨?_, hreserved, fun word hsame => ?_⟩,
    startsSmall_of_mem_reservedWords⟩
  · exact exists_cons_of_isIdentifier h hword hsmall
  · exact hreserved (hsame ▸ text_mem_reservedWords word)

/-- A word that is reserved but for its capital, one whose first letter has a capital of two
letters, and nothing but separators. -/
theorem typeIdentifier_unreserved_imports :
    typeIdentifier "_imports" = "Import" ∧ "import" ∈ reservedWords ∧
      typeIdentifier "_imports" ∉ reservedWords ∧
      typeIdentifier "ßtrings" = "SString" ∧ typeIdentifier "ßtrings" ≠ Keyword.string.text ∧
      typeIdentifier "_\u2003-" = "" := by
  obtain ⟨-, -, -, himport, -⟩ := typeIdentifier_unreserved "_imports"
  obtain ⟨-, -, -, hstring, -⟩ := typeIdentifier_unreserved "ßtrings"
  obtain ⟨-, hempty, -, -, -⟩ := typeIdentifier_unreserved "_\u2003-"
  exact ⟨by decide +kernel, by decide, (himport (by decide +kernel)).2.1, by decide +kernel,
    (hstring (by decide +kernel)).2.2 .string, hempty.mpr (List.all_eq_true.mp (by decide))⟩

end TypedCatalog.Naming
