import Mathlib.Data.List.TakeWhile
import TypedCatalog.Proofs.TypeNames

/-!
# Spellings of a name

A type identifier depends on the words of a name and not on how the name spells them. At every
separator the identifier falls into two parts that do not know of each other
(`pascalCase_singularize_append_cons`), and a name has the identifier of its plain spelling, which
has an underscore for every separator and no capital letter of ASCII
(`typeIdentifier_plainSpelling`). For the second, the singular of a word is followed through all its
rules: the rules are matched on the word in lower case, and what they keep of the word they keep
letter by letter (`map_toLower_singularWord`).
-/

namespace TypedCatalog.Naming

open Text

/-! ### The lower-case form of a text -/

theorem inRanges_cased_of_isAlpha {c : Char} (h : c.isAlpha) : inRanges cased c.toNat = true := by
  rw [inRanges, List.any_eq_true]
  rcases isAlpha_eq_true.mp h with ⟨hfirst, hlast⟩ | ⟨hfirst, hlast⟩
  · exact ⟨(0x41, 0x5A), by decide, by simp [hfirst, hlast]⟩
  · exact ⟨(0x61, 0x7A), by decide, by simp [hfirst, hlast]⟩

theorem inRanges_caseIgnorable_of_isAlpha {c : Char} (h : c.isAlpha) :
    inRanges caseIgnorable c.toNat = false := by
  have hranges : ∀ range ∈ caseIgnorable,
      range.2 < 0x41 ∨ (0x5A < range.1 ∧ range.2 < 0x61) ∨ 0x7A < range.1 := by
    decide +kernel
  rw [inRanges, List.any_eq_false]
  intro range hrange
  have hrange := hranges range hrange
  rw [isAlpha_eq_true] at h
  simp only [Bool.and_eq_true, decide_eq_true_eq]
  omega

/-- A property that all letters of ASCII share does not depend on the case of one. -/
theorem apply_toLower_of_isAlpha {β : Type} {f : Char → β} {b : β} (h : ∀ c, c.isAlpha → f c = b)
    (c : Char) : f c.toLower = f c := by
  by_cases hc : c.isAlpha
  · rw [h c hc, h c.toLower ((isAlpha_toLower c).trans hc)]
  · rw [toLower_of_not_isAlpha hc]

theorem inRanges_cased_toLower (c : Char) :
    inRanges cased c.toLower.toNat = inRanges cased c.toNat :=
  apply_toLower_of_isAlpha (f := fun c => inRanges cased c.toNat)
    (fun _ => inRanges_cased_of_isAlpha) c

theorem inRanges_caseIgnorable_toLower (c : Char) :
    inRanges caseIgnorable c.toLower.toNat = inRanges caseIgnorable c.toNat :=
  apply_toLower_of_isAlpha (f := fun c => inRanges caseIgnorable c.toNat)
    (fun _ => inRanges_caseIgnorable_of_isAlpha) c

/-- A letter is a letter in either case, so what stands around a capital sigma decides the same. -/
theorem letterFirst_map_toLower (text : List Char) :
    letterFirst (text.map Char.toLower) = letterFirst text := by
  have hdrop : (text.map Char.toLower).dropWhile (fun c => inRanges caseIgnorable c.toNat) =
      (text.dropWhile fun c => inRanges caseIgnorable c.toNat).map Char.toLower := by
    rw [List.dropWhile_map]
    simp only [Function.comp_def, inRanges_caseIgnorable_toLower]
  unfold letterFirst
  rw [hdrop]
  cases text.dropWhile fun c => inRanges caseIgnorable c.toNat with
  | nil => rfl
  | cons c rest => exact inRanges_cased_toLower c

theorem lowercaseAfter_map_toLower (before text : List Char) :
    lowercaseAfter (before.map Char.toLower) (text.map Char.toLower) =
      lowercaseAfter before text := by
  induction text generalizing before with
  | nil => rfl
  | cons c rest ih =>
    have hsigma : c.toLower.toNat = 0x3A3 ↔ c.toNat = 0x3A3 :=
      decide_eq_decide.mp (apply_toLower (f := fun c => decide (c.toNat = 0x3A3)) (by decide) c)
    rw [List.map_cons, lowercaseAfter, lowercaseAfter, ← List.map_cons, ih,
      letterFirst_map_toLower, letterFirst_map_toLower, lowerChar_toLower]
    simp only [hsigma]

/-- The lower-case form of a text does not depend on the case of its letters of ASCII. -/
theorem lowercase_map_toLower (text : List Char) :
    lowercase (text.map Char.toLower) = lowercase text :=
  lowercaseAfter_map_toLower [] text

/-! ### The singular of a word -/

/-- The stem of a word is kept letter by letter. -/
theorem map_toLower_stem {rule : EndingRule} (hrule : rule ∈ endingRules) {word : List Char}
    (happlies : rule.appliesTo (lowercase word)) :
    stem (word.map Char.toLower) (lowercase word) rule.ending =
      (stem word (lowercase word) rule.ending).map Char.toLower := by
  obtain ⟨kept, part, hword, -, hpart⟩ := EndingRule.exists_append_of_appliesTo hrule happlies
  have hlower : (part.map Char.toLower).map Char.toLower = rule.ending.toList := by
    rw [map_toLower_map_toLower, hpart]
  rw [hword, List.map_append, stem_append hlower, stem_append hpart]

/-- A letter is an `s` in lower case if it is one in either case. -/
theorem isS_toLower (c : Char) : (c.toLower = 's' ∨ c.toLower = 'S') ↔ (c = 's' ∨ c = 'S') :=
  decide_eq_decide.mp (apply_toLower (f := fun c => decide (c = 's' ∨ c = 'S')) (by decide) c)

theorem dropPlainS_map_toLower (word : List Char) :
    dropPlainS (word.map Char.toLower) = (dropPlainS word).map Char.toLower := by
  rw [dropPlainS, dropPlainS, ← List.map_reverse]
  rcases word.reverse with - | ⟨c, - | ⟨d, rest⟩⟩
  · rfl
  · rfl
  · simp only [List.map_cons, isS_toLower]
    split
    · rw [← List.map_cons, List.map_reverse]
    · rfl

/-- The singular of a word does not depend on the case of the letters of ASCII in the word, but for
the case of its own. -/
theorem map_toLower_singularWord (word : List Char) :
    (singularWord (word.map Char.toLower)).map Char.toLower =
      (singularWord word).map Char.toLower := by
  rw [singularWord, singularWord, lowercase_map_toLower]
  split
  · exact map_toLower_map_toLower word
  split
  · rfl
  split
  · rename_i rule hfind
    have hrule := List.mem_of_find?_eq_some hfind
    have happlies : rule.appliesTo (lowercase word) := by simpa using List.find?_some hfind
    rw [List.map_append, List.map_append, map_toLower_stem hrule happlies, map_toLower_map_toLower]
  split
  · exact map_toLower_map_toLower word
  · rw [dropPlainS_map_toLower, map_toLower_map_toLower]

/-! ### Plain spellings -/

theorem isSeparator_toLower (c : Char) : isSeparator c.toLower = isSeparator c :=
  apply_toLower (by decide) c

/-- What stands for a character in the plain spelling of a name. -/
def plainChar (c : Char) : Char :=
  if isSeparator c then '_' else c.toLower

/-- A name with an underscore for every separator and a small letter for every letter of ASCII. -/
def plainSpelling (name : String) : String :=
  String.ofList (name.toList.map plainChar)

theorem plainChar_of_not_isSeparator {c : Char} (h : isSeparator c = false) :
    plainChar c = c.toLower := by
  rw [plainChar, h, if_neg Bool.false_ne_true]

theorem isSeparator_plainChar (c : Char) : isSeparator (plainChar c) = isSeparator c := by
  unfold plainChar
  split
  · rename_i h
    rw [h]
    decide
  · exact isSeparator_toLower c

theorem plainChar_toLower (c : Char) : plainChar c.toLower = plainChar c := by
  rw [plainChar, plainChar, isSeparator_toLower, toLower_toLower]

theorem plainChar_plainChar (c : Char) : plainChar (plainChar c) = plainChar c := by
  rw [plainChar, isSeparator_plainChar]
  unfold plainChar
  split
  · rfl
  · exact toLower_toLower c

theorem map_plainChar_map_toLower (text : List Char) :
    (text.map Char.toLower).map plainChar = text.map plainChar := by
  rw [List.map_map]
  exact List.map_congr_left fun c _ => plainChar_toLower c

/-- In a word the plain spelling changes nothing but the case of letters. -/
theorem map_plainChar_of_word {word : List Char} (h : ∀ c ∈ word, isSeparator c = false) :
    word.map plainChar = word.map Char.toLower :=
  List.map_congr_left fun c hc => plainChar_of_not_isSeparator (h c hc)

/-- PascalCase does not depend on the spelling. -/
theorem pascalFrom_map_plainChar (atStart : Bool) (text : List Char) :
    pascalFrom atStart (text.map plainChar) = pascalFrom atStart text := by
  induction text generalizing atStart with
  | nil => rfl
  | cons c rest ih =>
    rw [List.map_cons, pascalFrom, pascalFrom, isSeparator_plainChar, ih, ih]
    cases hc : isSeparator c with
    | true => rfl
    | false => rw [plainChar_of_not_isSeparator hc, upperChar_toLower, lowerChar_toLower]

/-- A name and its plain spelling have their separators in the same places. -/
theorem splitLastWord_map_plainChar (name : List Char) :
    splitLastWord (name.map plainChar) =
      ((splitLastWord name).1.map plainChar, (splitLastWord name).2.map plainChar) := by
  simp only [splitLastWord, ← List.map_reverse, List.dropWhile_map, List.takeWhile_map,
    Function.comp_def, isSeparator_plainChar]

/-- The singular of a name has the plain spelling that the singular of its plain spelling has. -/
theorem map_plainChar_singularize (name : List Char) :
    (singularize (name.map plainChar)).map plainChar = (singularize name).map plainChar := by
  have hword : ((splitLastWord name).2).map plainChar = (splitLastWord name).2.map Char.toLower :=
    map_plainChar_of_word fun _ => not_isSeparator_of_mem_lastWord
  -- The singular is known up to the case of letters only, which the plain spelling does not see.
  have hsingular := congrArg (List.map plainChar) (map_toLower_singularWord (splitLastWord name).2)
  rw [map_plainChar_map_toLower, map_plainChar_map_toLower] at hsingular
  rw [singularize, splitLastWord_map_plainChar, hword, List.map_append, hsingular, List.map_map,
    singularize, List.map_append]
  simp only [Function.comp_def, plainChar_plainChar]

/-- A name and its plain spelling have one type identifier. -/
theorem typeIdentifier_plainSpelling (name : String) :
    typeIdentifier (plainSpelling name) = typeIdentifier name := by
  rw [typeIdentifier, typeIdentifier, plainSpelling, String.toList_ofList, pascalCase, pascalCase,
    ← pascalFrom_map_plainChar, map_plainChar_singularize, pascalFrom_map_plainChar]

/-! ### Words of a name -/

/-- What stands before a separator is not part of the last word. -/
theorem splitLastWord_append_cons (before after : List Char) {s : Char} (hs : isSeparator s) :
    splitLastWord (before ++ s :: after) =
      (before ++ s :: (splitLastWord after).1, (splitLastWord after).2) := by
  have hdrop : (after.reverse ++ s :: before.reverse).dropWhile (!isSeparator ·) =
      after.reverse.dropWhile (!isSeparator ·) ++ s :: before.reverse := by
    rw [List.dropWhile_append]
    split
    · rename_i h
      rw [List.isEmpty_iff.mp h, List.dropWhile_cons_of_neg (by simp [hs]), List.nil_append]
    · rfl
  have htake : (after.reverse ++ s :: before.reverse).takeWhile (!isSeparator ·) =
      after.reverse.takeWhile (!isSeparator ·) := by
    rw [List.takeWhile_append]
    split
    · rename_i h
      rw [List.takeWhile_cons_of_neg (by simp [hs]), List.append_nil]
      exact (List.takeWhile_prefix _).eq_of_length h |>.symm
    · rfl
  rw [splitLastWord, List.reverse_append, List.reverse_cons, List.append_assoc,
    List.singleton_append, hdrop, htake, List.reverse_append, List.reverse_cons,
    List.reverse_reverse, List.append_assoc, List.singleton_append]
  rfl

/-- A name without separators is its own last word. -/
theorem splitLastWord_of_word {word : List Char} (h : ∀ c ∈ word, isSeparator c = false) :
    splitLastWord word = ([], word) := by
  have hword : ∀ c ∈ word.reverse, (!isSeparator c) = true := by simpa using h
  rw [splitLastWord, List.dropWhile_eq_nil_iff.mpr hword, List.takeWhile_eq_self_iff.mpr hword,
    List.reverse_nil, List.reverse_reverse]

/-- A separator parts a name: what stands before it is put in PascalCase as it is. -/
theorem pascalCase_singularize_append_cons (before after : List Char) {s : Char}
    (hs : isSeparator s) :
    pascalCase (singularize (before ++ s :: after)) =
      pascalCase before ++ pascalCase (singularize after) := by
  rw [singularize, splitLastWord_append_cons before after hs, List.append_assoc, List.cons_append,
    pascalCase, pascalFrom_append_separator hs]
  rfl

/-- Separators in front of a name do not count. -/
theorem pascalCase_singularize_append {separators : List Char}
    (h : ∀ s ∈ separators, isSeparator s) (name : List Char) :
    pascalCase (singularize (separators ++ name)) = pascalCase (singularize name) := by
  induction separators with
  | nil => rfl
  | cons s rest ih =>
    rw [List.forall_mem_cons] at h
    have hfirst := pascalCase_singularize_append_cons [] (rest ++ name) h.1
    rw [List.nil_append] at hfirst
    rw [List.cons_append, hfirst, ih h.2]
    rfl

/-- A type identifier is made word by word. A separator parts it into the PascalCase of what stands
before and the type identifier of what stands behind, of a name without separators it is the
PascalCase of the singular, and separators in front do not count; so only the last word is put in
the singular, and one separator does what several do. Names that are equal once every separator is
an underscore and every letter of ASCII is small have one type identifier. -/
theorem typeIdentifier_word_by_word :
    (∀ (a b : String) (s : Char), isSeparator s →
      typeIdentifier (a ++ s.toString ++ b) = pascal a ++ typeIdentifier b) ∧
      (∀ b : String, (∀ c ∈ b.toList, isSeparator c = false) →
        typeIdentifier b = pascal (String.ofList (singularWord b.toList))) ∧
      (∀ separators b : String, (∀ s ∈ separators.toList, isSeparator s) →
        typeIdentifier (separators ++ b) = typeIdentifier b) ∧
      ∀ c d : String, plainSpelling c = plainSpelling d → typeIdentifier c = typeIdentifier d := by
  refine ⟨fun a b s hs => ?_, fun b hb => ?_, fun separators b h => ?_, fun c d h => ?_⟩
  · have hlist : (a ++ s.toString ++ b).toList = a.toList ++ s :: b.toList := by simp
    rw [typeIdentifier, hlist, pascalCase_singularize_append_cons a.toList b.toList hs,
      String.ofList_append]
    rfl
  · rw [typeIdentifier, singularize, splitLastWord_of_word hb, List.nil_append, pascal,
      String.toList_ofList]
  · rw [typeIdentifier, String.toList_append, pascalCase_singularize_append h]
    rfl
  · rw [← typeIdentifier_plainSpelling c, h, typeIdentifier_plainSpelling]

/-- The accounts of users, taken apart at a separator, with separators in front, and spelled in two
ways. -/
theorem typeIdentifier_word_by_word_accounts :
    typeIdentifier ("user's" ++ '-'.toString ++ "ACCOUNTS") = pascal "user's" ++ "Account" ∧
      typeIdentifier ("_ _" ++ "accounts") = typeIdentifier "accounts" ∧
      typeIdentifier "User\u2003Accounts" = typeIdentifier "user_accounts" := by
  obtain ⟨hparts, hword, hfront, hspelling⟩ := typeIdentifier_word_by_word
  have hseparators : ∀ s ∈ "_ _".toList, isSeparator s := List.all_eq_true.mp (by decide)
  have hletters : ∀ c ∈ "ACCOUNTS".toList, isSeparator c = false := fun c hc =>
    Bool.eq_false_iff.mpr (List.any_eq_false.mp (by decide) c hc)
  have haccount : typeIdentifier "ACCOUNTS" = "Account" := by
    rw [hword "ACCOUNTS" hletters]
    decide +kernel
  exact ⟨haccount ▸ hparts "user's" "ACCOUNTS" '-' (by decide),
    hfront "_ _" "accounts" hseparators,
    hspelling "User\u2003Accounts" "user_accounts" (by decide +kernel)⟩

end TypedCatalog.Naming
