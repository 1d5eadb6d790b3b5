import Mathlib.Data.List.DropRight
import TypedCatalog.Proofs.Spellings

/-!
# The singular of a singular

`SingularForm` says what each rule makes of a word. Whichever rule it was, there is nothing left to
take off its result, which ends in two `s` or in none (`singularWord_of_endsInSS`,
`singularWord_of_not_endsInS`) or stands in a table. So a singular is its own singular, but for one
kind of word, which `singularWord_singularWord_iff` finds: where an `s` has been put to an irregular
plural that has none, taking it off leaves that plural. As the singular of a word has no separators
(`isSeparator_of_mem_singularWord`), the same holds of names (`singular_singular_iff`).
-/

namespace TypedCatalog.Naming

open Text

/-! ### The end of a word in lower case -/

/-- A word that ends in `s` in lower case ends in `s` itself, small or capital. -/
theorem exists_append_of_endsInS {word : List Char} (h : ['s'] <:+ lowercase word) :
    ∃ rest c, word = rest ++ [c] ∧ (c = 's' ∨ c = 'S') := by
  have hletters : ∀ d ∈ ['s'], isOwnLetter d := List.forall_mem_singleton.mpr (by decide)
  obtain ⟨rest, part, rfl, hpart⟩ := exists_append_of_suffix_lowercase hletters h
  obtain ⟨c, rfl, hc⟩ := List.map_eq_singleton_iff.mp hpart
  exact ⟨rest, c, rfl, (isS_toLower c).mp (.inl hc)⟩

/-! ### Sigmas -/

/-- Without a capital sigma every character is mapped on its own. -/
theorem lowercaseAfter_eq_flatMap {text : List Char} (h : ∀ c ∈ text, c.toNat ≠ 0x3A3)
    (before : List Char) : lowercaseAfter before text = text.flatMap lowerChar := by
  induction text generalizing before with
  | nil => rfl
  | cons c rest ih =>
    rw [List.forall_mem_cons] at h
    rw [lowercaseAfter, if_neg h.1, ih h.2, List.flatMap_cons]

/-- A capital sigma does not become a character of ASCII. -/
theorem toNat_ne_of_lowercaseAfter {text before : List Char}
    (h : isAscii (lowercaseAfter before text)) : ∀ c ∈ text, c.toNat ≠ 0x3A3 := by
  induction text generalizing before with
  | nil => exact nofun
  | cons c rest ih =>
    rw [lowercaseAfter, isAscii_append] at h
    refine List.forall_mem_cons.mpr ⟨fun hsigma => ?_, ih h.2⟩
    have hfirst := h.1
    rw [if_pos hsigma] at hfirst
    split at hfirst <;> exact absurd hfirst (by decide)

/-- An `s` at the end is no reason to write the rest of a word in another way. -/
theorem lowercase_append_singleton {rest plain : List Char} {c : Char} (hs : c = 's' ∨ c = 'S')
    (hplain : isAscii plain) :
    lowercase (rest ++ [c]) = plain ++ ['s'] ↔ lowercase rest = plain := by
  have hlast : lowerChar c = ['s'] := by rcases hs with rfl | rfl <;> rfl
  have hsigma : c.toNat ≠ 0x3A3 := by rcases hs with rfl | rfl <;> decide
  -- The form of a sigma depends on the letters after it, but neither side has one.
  have hword : (∀ d ∈ rest, d.toNat ≠ 0x3A3) →
      lowercase (rest ++ [c]) = lowercase rest ++ ['s'] := by
    intro hrest
    have hall : ∀ d ∈ rest ++ [c], d.toNat ≠ 0x3A3 :=
      List.forall_mem_append.mpr ⟨hrest, List.forall_mem_singleton.mpr hsigma⟩
    rw [lowercase, lowercase, lowercaseAfter_eq_flatMap hall, lowercaseAfter_eq_flatMap hrest,
      List.flatMap_append, List.flatMap_singleton, hlast]
  constructor
  · intro h
    have hrest : ∀ d ∈ rest, d.toNat ≠ 0x3A3 := by
      have hascii : isAscii (lowercase (rest ++ [c])) := by
        rw [h, isAscii_append]
        exact ⟨hplain, rfl⟩
      exact (List.forall_mem_append.mp (toNat_ne_of_lowercaseAfter hascii)).1
    rw [hword hrest] at h
    exact List.append_cancel_right h
  · rintro rfl
    exact hword (toNat_ne_of_lowercaseAfter hplain)

/-! ### Words that are kept -/

theorem dropPlainS_eq_self {word : List Char} (h : ¬ ['s'] <:+ lowercase word) :
    dropPlainS word = word := by
  unfold dropPlainS
  split
  · rename_i c d rest hword
    refine if_neg fun hs => h ?_
    have hlast : [c].map Char.toLower <:+ lowercase ((d :: rest).reverse ++ [c]) :=
      map_toLower_suffix_lowercase _ (by rcases hs with rfl | rfl <;> decide)
    rw [← List.reverse_cons, ← hword, List.reverse_reverse] at hlast
    rcases hs with rfl | rfl <;> exact hlast
  · rfl

/-- A word without an `s` at its end is its own singular, unless it is an irregular plural. -/
theorem singularWord_of_not_endsInS {word : List Char} (h : ¬ ['s'] <:+ lowercase word)
    (hirregular : ∀ entry ∈ irregular, entry.1.toList ≠ lowercase word) :
    singularWord word = word := by
  have hplurals : irregular.find? (·.1.toList == lowercase word) = none :=
    List.find?_eq_none.mpr fun entry hentry => by simpa using hirregular entry hentry
  have hendings : endingRules.find? (·.appliesTo (lowercase word)) = none := by
    have hall : ∀ rule ∈ endingRules, ['s'] <:+ rule.ending.toList := by decide
    exact List.find?_eq_none.mpr fun rule hrule happlies =>
      h ((hall rule hrule).trans (EndingRule.suffix_of_appliesTo happlies))
  simp only [singularWord, hplurals, hendings]
  split
  · rfl
  split
  · rfl
  · exact dropPlainS_eq_self h

/-- A word with two `s` at its end is its own singular. -/
theorem singularWord_of_endsInSS {word : List Char} (h : ['s', 's'] <:+ lowercase word) :
    singularWord word = word := by
  have hplurals : irregular.find? (·.1.toList == lowercase word) = none := by
    have hall : ∀ entry ∈ irregular, ¬ ['s', 's'] <:+ entry.1.toList := by decide
    refine List.find?_eq_none.mpr fun entry hentry hsame => hall entry hentry ?_
    rwa [eq_of_beq hsame]
  have hendings : endingRules.find? (·.appliesTo (lowercase word)) = none := by
    have hall : ∀ rule ∈ endingRules,
        ¬ ['s', 's'] <:+ rule.ending.toList ∧ ¬ rule.ending.toList <:+ ['s', 's'] := by decide
    refine List.find?_eq_none.mpr fun rule hrule happlies => ?_
    -- Of two ends of one word the shorter is the end of the longer.
    rcases List.suffix_or_suffix_of_suffix h (EndingRule.suffix_of_appliesTo happlies) with h | h
    · exact (hall rule hrule).1 h
    · exact (hall rule hrule).2 h
  have hkept : singularEndings.any (·.toList.isSuffixOf (lowercase word)) = true :=
    List.any_eq_true.mpr ⟨"ss", by decide, List.isSuffixOf_iff_suffix.mpr h⟩
  simp only [singularWord, hplurals, hendings, hkept, if_true, ite_self]

/-! ### The singular of a singular word -/

/-- The irregular plurals that do not end in `s`. -/
def irregularWithoutS : List String :=
  (irregular.map Prod.fst).filter fun plural => !List.isSuffixOf ['s'] plural.toList

theorem mem_irregularWithoutS {plural : String} :
    plural ∈ irregularWithoutS ↔
      (∃ entry ∈ irregular, entry.1 = plural) ∧ ¬ ['s'] <:+ plural.toList := by
  simp [irregularWithoutS, ← List.isSuffixOf_iff_suffix]

/-- An irregular plural has the singular of its entry, whatever its case. -/
theorem singularWord_of_irregular {word : List Char} {entry : String × String}
    (hentry : entry ∈ irregular) (h : entry.1.toList = lowercase word) :
    singularWord word = entry.2.toList := by
  have hdistinct : (irregular.map (·.1.toList)).Nodup := by decide
  have hfind : irregular.find? (·.1.toList == lowercase word) = some entry :=
    (find?_eq_some_iff_of_nodup hdistinct).mpr ⟨hentry, h⟩
  have hcounted : ∀ entry ∈ irregular,
      ¬ (entry.1.toList = [] ∨ uncountable.any (·.toList == entry.1.toList)) := by
    decide
  simp only [singularWord, hfind]
  rw [if_neg (h ▸ hcounted entry hentry)]

/-- An irregular singular is its own singular. -/
theorem singularWord_irregular :
    ∀ entry ∈ irregular, singularWord entry.2.toList = entry.2.toList := by
  decide +kernel

/-- Nothing can be taken off the replacement of an ending. -/
theorem singularWord_append_replacement {rule : EndingRule} (hrule : rule ∈ endingRules)
    (first : List Char) :
    singularWord (first ++ rule.replacement.toList) = first ++ rule.replacement.toList := by
  have hall : ∀ rule ∈ endingRules, isAscii rule.replacement.toList ∧
      rule.replacement.toList.map Char.toLower = rule.replacement.toList ∧
      (['s', 's'] <:+ rule.replacement.toList ∨
        ¬ ['s'] <:+ rule.replacement.toList ∧ ¬ rule.replacement.toList <:+ ['s'] ∧
          ∀ entry ∈ irregular, ¬ rule.replacement.toList <:+ entry.1.toList) := by
    decide +kernel
  obtain ⟨hascii, hlower, hends⟩ := hall rule hrule
  have hsuffix := map_toLower_suffix_lowercase first hascii
  rw [hlower] at hsuffix
  rcases hends with hss | ⟨hs, hlonger, hirregular⟩
  · exact singularWord_of_endsInSS (hss.trans hsuffix)
  · refine singularWord_of_not_endsInS (fun h => ?_) fun entry hentry hsame => ?_
    · exact (List.suffix_or_suffix_of_suffix h hsuffix).elim hs hlonger
    · exact hirregular entry hentry (hsame ▸ hsuffix)

/-- Behind a single `s` there is no other, so what is left of a word without it is its own singular,
unless it is an irregular plural. -/
theorem singularWord_of_append {rest : List Char} {c : Char} (hs : c = 's' ∨ c = 'S')
    (h : ¬ ['s', 's'] <:+ lowercase (rest ++ [c]))
    (hplural : ∀ plural ∈ irregularWithoutS, lowercase rest ≠ plural.toList) :
    singularWord rest = rest := by
  have hrest : ¬ ['s'] <:+ lowercase rest := by
    intro hrest
    obtain ⟨first, d, rfl, hd⟩ := exists_append_of_endsInS hrest
    have hlast : [d, c].map Char.toLower <:+ lowercase (first ++ [d, c]) :=
      map_toLower_suffix_lowercase first (by
        rcases hd with rfl | rfl <;> rcases hs with rfl | rfl <;> decide)
    rw [List.append_assoc] at h
    refine h ?_
    rcases hd with rfl | rfl <;> rcases hs with rfl | rfl <;> exact hlast
  refine singularWord_of_not_endsInS hrest fun entry hentry hsame => ?_
  refine hplural entry.1 (mem_irregularWithoutS.mpr ⟨⟨entry, hentry, rfl⟩, ?_⟩) hsame.symm
  rwa [hsame]

theorem dropPlainS_append {rest : List Char} (hrest : rest ≠ []) {c : Char}
    (hs : c = 's' ∨ c = 'S') : dropPlainS (rest ++ [c]) = rest := by
  obtain ⟨first, d, rfl⟩ := (List.eq_nil_or_concat rest).resolve_left hrest
  rw [List.concat_eq_append, dropPlainS]
  simp [hs]

/-- An irregular plural without `s` loses nothing but an `s` put to it. -/
theorem singularWord_append_of_irregular {plural : String} (hplural : plural ∈ irregularWithoutS)
    {rest : List Char} (hrest : lowercase rest = plural.toList) {c : Char}
    (hs : c = 's' ∨ c = 'S') : singularWord (rest ++ [c]) = rest := by
  have hall : ∀ plural ∈ irregularWithoutS, isAscii plural.toList ∧
      plural.toList ≠ [] ∧ uncountable.any (·.toList == plural.toList ++ ['s']) = false ∧
      irregular.find? (·.1.toList == plural.toList ++ ['s']) = none ∧
      endingRules.find? (·.appliesTo (plural.toList ++ ['s'])) = none ∧
      singularEndings.any (·.toList.isSuffixOf (plural.toList ++ ['s'])) = false := by
    decide +kernel
  obtain ⟨hascii, hne, huncountable, hirregular, hendings, hkept⟩ := hall plural hplural
  have hlower := (lowercase_append_singleton hs hascii).mpr hrest
  have hfirst : rest ≠ [] := by
    rintro rfl
    exact hne hrest.symm
  have hnil : plural.toList ++ ['s'] ≠ [] := List.append_ne_nil_of_right_ne_nil _ (by decide)
  simp only [singularWord, hlower, hirregular, hendings, huncountable, hkept, hnil]
  exact dropPlainS_append hfirst hs

/-- The singular of a word is its own singular, except exactly for an irregular plural without `s`
to which an `s` has been put. -/
theorem singularWord_singularWord_iff {word : List Char} :
    singularWord (singularWord word) = singularWord word ↔
      ∀ plural ∈ irregularWithoutS, lowercase word ≠ plural.toList ++ ['s'] := by
  have hascii : ∀ plural ∈ irregularWithoutS, isAscii plural.toList := by decide
  constructor
  · intro hsame plural hplural hlower
    obtain ⟨rest, c, rfl, hs⟩ :=
      exists_append_of_endsInS (hlower ▸ List.suffix_append _ ['s'])
    have hrest := (lowercase_append_singleton hs (hascii plural hplural)).mp hlower
    obtain ⟨⟨entry, hentry, rfl⟩, -⟩ := mem_irregularWithoutS.mp hplural
    -- The first singular is the plural without the `s`, the second is that of its entry.
    have hchanges : ∀ entry ∈ irregular, lowercase entry.2.toList ≠ entry.1.toList := by
      decide +kernel
    rw [singularWord_append_of_irregular hplural hrest hs,
      singularWord_of_irregular hentry hrest.symm] at hsame
    exact hchanges entry hentry (hsame ▸ hrest)
  · intro h
    generalize hsingular : singularWord word = result
    have hform := singularForm word
    rw [hsingular] at hform
    cases hform with
    | kept => exact hsingular
    | irregular hmem _ => exact singularWord_irregular _ hmem
    | ending hmem _ => exact singularWord_append_replacement hmem _
    | plainS hrest hword hs hss =>
      rw [hword] at h hss
      refine singularWord_of_append hs hss fun plural hplural hlower => h plural hplural ?_
      exact (lowercase_append_singleton hs (hascii plural hplural)).mpr hlower

/-! ### Separators -/

theorem any_isSeparator_eq_false {text : List Char} :
    text.any isSeparator = false ↔ ∀ c ∈ text, isSeparator c = false := by
  simp

/-- The singular of a word without separators has none. -/
theorem isSeparator_of_mem_singularWord {word : List Char}
    (h : ∀ c ∈ word, isSeparator c = false) : ∀ c ∈ singularWord word, isSeparator c = false := by
  have hform := singularForm word
  generalize singularWord word = result at hform ⊢
  cases hform with
  | kept => exact h
  | irregular hmem _ =>
    have hall : ∀ entry ∈ irregular, entry.2.toList.any isSeparator = false := by decide
    exact any_isSeparator_eq_false.mp (hall _ hmem)
  | ending hmem happlies =>
    have hall : ∀ rule ∈ endingRules, rule.replacement.toList.any isSeparator = false := by decide
    obtain ⟨kept, part, rfl, -, hpart⟩ := EndingRule.exists_append_of_appliesTo hmem happlies
    rw [stem_append hpart]
    exact List.forall_mem_append.mpr
      ⟨(List.forall_mem_append.mp h).1, any_isSeparator_eq_false.mp (hall _ hmem)⟩
  | plainS _ hword _ _ =>
    rw [hword] at h
    exact (List.forall_mem_append.mp h).1

/-! ### Names -/

/-- What stands before the last word of a name ends in a separator. -/
theorem fst_splitLastWord (name : List Char) : (splitLastWord name).1 = [] ∨
    ∃ first s, (splitLastWord name).1 = first ++ [s] ∧ isSeparator s := by
  rw [splitLastWord]
  cases hdrop : name.reverse.dropWhile (!isSeparator ·) with
  | nil => exact .inl rfl
  | cons s rest =>
    refine .inr ⟨rest.reverse, s, List.reverse_cons, ?_⟩
    have hhead := List.head?_dropWhile_not (!isSeparator ·) name.reverse
    rw [hdrop] at hhead
    simpa using hhead

/-- A word put behind what stands before the last word of a name is the last word then. -/
theorem splitLastWord_fst_append (name : List Char) {word : List Char}
    (h : ∀ c ∈ word, isSeparator c = false) :
    splitLastWord ((splitLastWord name).1 ++ word) = ((splitLastWord name).1, word) := by
  rcases fst_splitLastWord name with hfirst | ⟨first, s, hfirst, hs⟩
  · rw [hfirst]
    exact splitLastWord_of_word h
  · rw [hfirst, List.append_assoc, List.singleton_append, splitLastWord_append_cons first word hs,
      splitLastWord_of_word h]

/-- The singular of a name is its own singular if that of the last word is. -/
theorem singularize_singularize_iff_singularWord (name : List Char) :
    singularize (singularize name) = singularize name ↔
      singularWord (singularWord (splitLastWord name).2) = singularWord (splitLastWord name).2 := by
  have hword : ∀ c ∈ singularWord (splitLastWord name).2, isSeparator c = false :=
    isSeparator_of_mem_singularWord fun _ => not_isSeparator_of_mem_lastWord
  rw [singularize, singularize, splitLastWord_fst_append name hword, List.append_right_inj]

/-- The last word of a name: what stands behind its last separator. -/
def lastWord (name : String) : String :=
  String.ofList (name.toList.rtakeWhile (!isSeparator ·))

theorem foldCase_lastWord_eq_append {name plural : String} :
    foldCase (lastWord name) = plural ++ "s" ↔
      lowercase (splitLastWord name.toList).2 = plural.toList ++ ['s'] := by
  rw [foldCase, lastWord, String.toList_ofList, ← String.toList_inj, String.toList_ofList,
    String.toList_append]
  exact Iff.rfl

/-- Taking the singular twice is taking it once, for every name but those whose last word, in
whatever case, is one of ten irregular plurals that do not end in `s`, followed by an `s`. -/
theorem singular_singular_iff :
    irregularWithoutS =
        ["people", "men", "women", "children", "teeth", "feet", "geese", "mice", "oxen",
          "criteria"] ∧
      ∀ name : String, singular (singular name) = singular name ↔
        ∀ plural ∈ irregularWithoutS, foldCase (lastWord name) ≠ plural ++ "s" := by
  refine ⟨by decide, fun name => ?_⟩
  have hlists : singular (singular name) = singular name ↔
      singularize (singularize name.toList) = singularize name.toList := by
    rw [singular, singular, String.toList_ofList, String.ofList_inj]
  rw [hlists, singularize_singularize_iff_singularWord, singularWord_singularWord_iff]
  simp only [ne_eq, foldCase_lastWord_eq_append]

/-- The one exception and its neighbours: people with an `s` too many, in capitals and behind other
words, and people with two. -/
example : singular "BLOG_PEOPLEs" = "BLOG_PEOPLE" ∧ singular "BLOG_PEOPLE" = "BLOG_person" ∧
    singular "peopless" = "peopless" := by
  decide +kernel

end TypedCatalog.Naming
