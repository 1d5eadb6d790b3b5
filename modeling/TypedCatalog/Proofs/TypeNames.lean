import TypedCatalog.Catalog.Validation
import TypedCatalog.Proofs.Stems
import TypedCatalog.TypeExpr.Basic

/-!
# The characters of type identifiers

The way from the name of a collection to its type identifier takes off separators and letters, and
changes the case of letters. Any other character of ASCII is kept (`mem_typeIdentifier`), so a
collection whose identifier can be written has no star in its name. The first character is never a
small letter (`not_isLower_of_head_typeIdentifier`), so an identifier is never the word of a keyword
type (`isTypeName_typeIdentifier`).
-/

namespace TypedCatalog

namespace Naming

open Text

/-- Whether `c` is a character of ASCII that is neither a letter nor a separator. -/
def isMark (c : Char) : Bool :=
  decide (c.toNat < 0x80) && !c.isAlpha && !isSeparator c

theorem isMark_iff {c : Char} :
    isMark c ↔ c.toNat < 0x80 ∧ c.isAlpha = false ∧ isSeparator c = false := by
  simp [isMark, and_assoc]

/-! ### Case mapping keeps marks -/

theorem lowerChar_of_isMark {c : Char} (h : isMark c) : lowerChar c = [c] := by
  obtain ⟨hlt, halpha, -⟩ := isMark_iff.mp h
  rw [lowerChar_of_lt hlt, toLower_of_not_isAlpha (Bool.eq_false_iff.mp halpha)]

theorem upperChar_of_isMark {c : Char} (h : isMark c) : upperChar c = [c] := by
  obtain ⟨hlt, halpha, -⟩ := isMark_iff.mp h
  have hsame := forall_ascii (P := fun c => c.isAlpha = false → c.toUpper = c) (by decide) hlt
  rw [upperChar_of_lt hlt, hsame halpha]

theorem mem_lowercaseAfter {c : Char} (hmark : isMark c) :
    ∀ {text : List Char} (before : List Char), c ∈ text → c ∈ lowercaseAfter before text
  | d :: rest, before, h => by
    rw [lowercaseAfter]
    rcases List.mem_cons.mp h with rfl | h
    · have hlt := (isMark_iff.mp hmark).1
      rw [if_neg (by omega), lowerChar_of_isMark hmark]
      exact List.mem_cons_self
    · exact List.mem_append_right _ (mem_lowercaseAfter hmark (d :: before) h)

theorem mem_pascalFrom {c : Char} (hmark : isMark c) :
    ∀ {text : List Char} (atStart : Bool), c ∈ text → c ∈ pascalFrom atStart text
  | d :: rest, atStart, h => by
    rw [pascalFrom]
    rcases List.mem_cons.mp h with rfl | h
    · have hseparator := (isMark_iff.mp hmark).2.2
      rw [hseparator, upperChar_of_isMark hmark, lowerChar_of_isMark hmark]
      cases atStart <;> simp
    · split
      · exact mem_pascalFrom hmark true h
      · exact List.mem_append_right _ (mem_pascalFrom hmark false h)

/-! ### The singular keeps marks -/

theorem isAlpha_irregular :
    ∀ entry ∈ irregular, ∀ c ∈ entry.1.toList, c.isAlpha = true := by
  have hall : irregular.all (fun entry => entry.1.toList.all Char.isAlpha) = true := by decide
  exact fun entry hentry => List.all_eq_true.mp (List.all_eq_true.mp hall entry hentry)

/-- The stem of a word keeps the marks of the word: the ending is letters only. -/
theorem mem_stem {c : Char} (hmark : isMark c) {rule : EndingRule} (hrule : rule ∈ endingRules)
    {word : List Char} (happlies : rule.appliesTo (lowercase word)) (h : c ∈ word) :
    c ∈ stem word (lowercase word) rule.ending := by
  obtain ⟨kept, part, rfl, -, hpart⟩ := EndingRule.exists_append_of_appliesTo hrule happlies
  rw [stem_append hpart]
  refine (List.mem_append.mp h).resolve_right fun hc => ?_
  have hletter := isOwnLetter_ending rule hrule c.toLower (hpart ▸ List.mem_map_of_mem hc)
  have halpha := isAlpha_of_isOwnLetter hletter
  rw [isAlpha_toLower, (isMark_iff.mp hmark).2.1] at halpha
  cases halpha

theorem mem_singularWord {c : Char} (hmark : isMark c) {word : List Char} (h : c ∈ word) :
    c ∈ singularWord word := by
  have hform := singularForm word
  generalize singularWord word = result at hform ⊢
  cases hform with
  | kept => exact h
  | irregular hmem hsame =>
    have halpha := isAlpha_irregular _ hmem c (hsame ▸ mem_lowercaseAfter hmark [] h)
    rw [(isMark_iff.mp hmark).2.1] at halpha
    cases halpha
  | ending hmem happlies => exact List.mem_append_left _ (mem_stem hmark hmem happlies h)
  | plainS _ hword hs _ =>
    rw [hword, List.mem_append, List.mem_singleton] at h
    refine h.resolve_right ?_
    rintro rfl
    rcases hs with rfl | rfl <;> exact absurd hmark (by decide)

/-- The type identifier keeps the marks of a name. -/
theorem mem_typeIdentifier {c : Char} (hmark : isMark c) {name : String} (h : c ∈ name.toList) :
    c ∈ (typeIdentifier name).toList := by
  have hsingular : c ∈ singularize name.toList := by
    rw [← splitLastWord_append name.toList, List.mem_append] at h
    rw [singularize, List.mem_append]
    exact h.imp id (mem_singularWord hmark)
  rw [typeIdentifier, String.toList_ofList]
  exact mem_pascalFrom hmark true hsingular

/-- A name whose type identifier can be written holds no star. -/
theorem not_mem_of_isIdentifier {name : String} (h : isIdentifier (typeIdentifier name)) :
    '*' ∉ name.toList := by
  intro hmem
  have hstar := mem_typeIdentifier (by decide : isMark '*') hmem
  unfold isIdentifier isIdentifierText at h
  cases htext : (typeIdentifier name).toList with
  | nil =>
    rw [htext] at hstar
    cases hstar
  | cons first rest =>
    rw [htext] at hstar h
    simp only [Bool.and_eq_true, List.all_eq_true] at h
    rcases List.mem_cons.mp hstar with rfl | hstar
    · exact absurd h.1 (by decide)
    · exact absurd (h.2 _ hstar) (by decide)

/-! ### The first character -/

/-- No run of the mapping to upper case takes a character beyond ASCII to a small letter. -/
theorem not_covers_or_shift :
    ∀ run ∈ upperRuns, run.last < 0x80 ∨ run.last + run.shift < 0x61 ∨
      0x7A < run.first + run.shift := by
  decide +kernel

theorem not_isLower_upperSequences :
    ∀ entry ∈ upperSequences, ∃ c, (entry.2.map Char.ofNat).head? = some c ∧ c.isLower = false := by
  have hall : upperSequences.all (fun entry =>
      (entry.2.map Char.ofNat).head?.any (!Char.isLower ·)) = true := by
    decide +kernel
  intro entry hentry
  have hsome := List.all_eq_true.mp hall entry hentry
  rw [Option.any_eq_true] at hsome
  obtain ⟨c, hc, hlower⟩ := hsome
  exact ⟨c, hc, by simpa using hlower⟩

theorem isLower_mapRuns {c : Char} (h : 0x80 ≤ c.toNat) :
    (mapRuns upperRuns c).isLower = false := by
  rw [Bool.eq_false_iff, ne_eq, isLower_eq_true]
  rintro ⟨hfirst, hlast⟩
  refine toNat_mapRuns_ne (n := (mapRuns upperRuns c).toNat) (by omega) (fun run hrun => ?_) h
    (by omega) rfl
  have := not_covers_or_shift run hrun
  omega

/-- The upper-case form of a character begins with a character that is no small letter. -/
theorem exists_upperChar_eq_cons (c : Char) :
    ∃ first rest, upperChar c = first :: rest ∧ first.isLower = false := by
  unfold upperChar
  split
  · rename_i h
    refine ⟨c.toUpper, [], rfl, ?_⟩
    exact forall_ascii (P := fun c => c.toUpper.isLower = false) (by decide) h
  · rename_i h
    split
    · rename_i form hfind
      obtain ⟨first, hfirst, hlower⟩ :=
        not_isLower_upperSequences _ (List.mem_of_find?_eq_some hfind)
      obtain ⟨rest, hform⟩ := List.head?_eq_some_iff.mp hfirst
      exact ⟨first, rest, hform, hlower⟩
    · exact ⟨_, [], rfl, isLower_mapRuns (by omega)⟩

theorem not_isLower_of_head_pascalFrom :
    ∀ {text : List Char} {c : Char}, (pascalFrom true text).head? = some c → c.isLower = false
  | d :: rest, c, h => by
    rw [pascalFrom] at h
    split at h
    · exact not_isLower_of_head_pascalFrom h
    · obtain ⟨first, more, hupper, hlower⟩ := exists_upperChar_eq_cons d
      rw [if_pos rfl, hupper, List.cons_append, List.head?_cons, Option.some.injEq] at h
      exact h ▸ hlower

/-- A type identifier does not begin with a small letter of ASCII. -/
theorem not_isLower_of_head_typeIdentifier {name : String} {c : Char}
    (h : (typeIdentifier name).toList.head? = some c) : c.isLower = false := by
  rw [typeIdentifier, String.toList_ofList] at h
  exact not_isLower_of_head_pascalFrom h

end Naming

/-- Whether a name can be written where a declared type is meant: an identifier, and not the word of
a keyword type. -/
structure IsTypeName (name : String) : Prop where
  /-- The name can be written unquoted. -/
  isIdentifier : Naming.isIdentifier name = true
  /-- The name is no keyword's. -/
  ne_keyword : ∀ word : Keyword, name ≠ word.text

/-- A type identifier that can be written is the name of a declared type. -/
theorem isTypeName_typeIdentifier {name : String}
    (h : Naming.isIdentifier (Naming.typeIdentifier name)) :
    IsTypeName (Naming.typeIdentifier name) := by
  refine ⟨h, fun word hword => ?_⟩
  have hhead : ∃ c, (Naming.typeIdentifier name).toList.head? = some c ∧ c.isLower = true := by
    rw [hword]
    cases word
    all_goals exact ⟨_, rfl, rfl⟩
  obtain ⟨c, hc, hlower⟩ := hhead
  rw [Naming.not_isLower_of_head_typeIdentifier hc] at hlower
  cases hlower

end TypedCatalog
