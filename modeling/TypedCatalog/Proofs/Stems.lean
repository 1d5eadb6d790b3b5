import TypedCatalog.Naming.Singular
import TypedCatalog.Proofs.LowerCase

/-!
# Stems of words

An ending rule is matched on a word in lower case, and what it takes off is cut from the word
itself, by bytes. The two may differ in length, but not at their ends: the endings are spelled in
letters that only letters of ASCII have for their lower-case form. So a word to which a rule applies
is a stem with the rule's ending behind it, in either case
(`EndingRule.exists_append_of_appliesTo`), and the cut falls between the two (`stem_exact`).
-/

namespace TypedCatalog.Naming

open Text

/-! ### The ending of a word -/

theorem isOwnLetter_ending :
    ∀ rule ∈ endingRules, ∀ c ∈ rule.ending.toList, isOwnLetter c = true := by
  have hall : endingRules.all (fun rule => rule.ending.toList.all isOwnLetter) = true := by decide
  exact fun rule hrule => List.all_eq_true.mp (List.all_eq_true.mp hall rule hrule)

/-- A word to which a rule applies is a stem and the rule's ending, in either case. -/
theorem EndingRule.exists_append_of_appliesTo {rule : EndingRule} (hrule : rule ∈ endingRules)
    {word : List Char} (h : rule.appliesTo (lowercase word)) :
    ∃ kept part, word = kept ++ part ∧ kept ≠ [] ∧
      part.map Char.toLower = rule.ending.toList := by
  obtain ⟨kept, part, rfl, hpart⟩ := exists_append_of_suffix_lowercase
    (isOwnLetter_ending rule hrule) (suffix_of_appliesTo h)
  refine ⟨kept, part, rfl, ?_, hpart⟩
  rintro rfl
  -- Without a stem the word would be the ending, and that is not longer than the ending.
  have hascii : ∀ rule ∈ endingRules, isAscii rule.ending.toList := by decide
  have hlower : lowercase part = rule.ending.toList := by
    rw [lowercase, lowercaseAfter_of_isAscii, hpart]
    rw [← isAscii_map_toLower, hpart]
    exact hascii rule hrule
  simp only [appliesTo, List.nil_append, hlower, String.length_toList, Bool.and_eq_true,
    decide_eq_true_eq, Nat.lt_irrefl, and_false] at h

/-- Taking off an ending cuts the word where the ending begins. -/
theorem dropBytesEnd?_append {kept part : List Char} {ending : String}
    (h : part.map Char.toLower = ending.toList) :
    dropBytesEnd? ending.utf8ByteSize (kept ++ part) = some kept := by
  refine dropBytesEnd?_eq_some.mpr ⟨part, rfl, ?_⟩
  rw [← byteLength_toList, ← h, byteLength_map_toLower]

/-- So nothing of the word in lower case gets into the stem. -/
theorem stem_append {kept part : List Char} {ending : String}
    (h : part.map Char.toLower = ending.toList) (lower : List Char) :
    stem (kept ++ part) lower ending = kept := by
  rw [stem, dropBytesEnd?_append h, Option.getD_some]

/-! ### The rule that decides -/

/-- The ending rule that gives the singular of a word, if one does: the first that applies to the
word, unless the word has no plural or an irregular one. -/
def endingRule? (word : List Char) : Option EndingRule :=
  let lower := lowercase word
  if lower = [] ∨ uncountable.any (·.toList == lower) ∨ irregular.any (·.1.toList == lower) then
    none
  else endingRules.find? (·.appliesTo lower)

theorem singularWord_of_endingRule? {word : List Char} {rule : EndingRule}
    (h : endingRule? word = some rule) :
    singularWord word = stem word (lowercase word) rule.ending ++ rule.replacement.toList := by
  unfold endingRule? at h
  simp only at h
  split at h
  · cases h
  · rename_i hregular
    rw [not_or, not_or] at hregular
    obtain ⟨hne, huncountable, hirregular⟩ := hregular
    have hfind : irregular.find? (·.1.toList == lowercase word) = none := by
      simpa using hirregular
    simp only [singularWord, hfind, h]
    rw [if_neg (not_or.mpr ⟨hne, huncountable⟩)]

/-! ### Cuts in bytes -/

/-- A string can be cut as many bytes before its end as a last part of it has. -/
theorem isValid_append (first last : String) :
    String.Pos.Raw.IsValid (first ++ last)
      ⟨(first ++ last).utf8ByteSize - last.utf8ByteSize⟩ := by
  refine String.Pos.Raw.isValid_iff_exists_append.mpr ⟨first, last, rfl, ?_⟩
  simp [String.Pos.Raw.ext_iff]

/-- Taking off the ending of a rule is safe. A word to which the rule applies has no fewer bytes
than the ending, and as many bytes before its end a character begins, in the word as well as in the
word in lower case. What stands there is the ending itself, in either case, and what is left is not
empty. If it is this rule that decides, the singular of the word is what is left, spelled as in the
word, and the rule's replacement. -/
theorem stem_exact {word : String} {rule : EndingRule} (hrule : rule ∈ endingRules)
    (h : rule.appliesTo (lowercase word.toList)) :
    rule.ending.utf8ByteSize ≤ word.utf8ByteSize ∧
      String.Pos.Raw.IsValid word ⟨word.utf8ByteSize - rule.ending.utf8ByteSize⟩ ∧
      String.Pos.Raw.IsValid (foldCase word)
        ⟨(foldCase word).utf8ByteSize - rule.ending.utf8ByteSize⟩ ∧
      ∃ kept part : String, word = kept ++ part ∧ kept ≠ "" ∧
        kept.utf8ByteSize = word.utf8ByteSize - rule.ending.utf8ByteSize ∧
        part.toList.map Char.toLower = rule.ending.toList ∧
        dropBytesEnd? rule.ending.utf8ByteSize word.toList = some kept.toList ∧
        (endingRule? word.toList = some rule →
          singularWord word.toList = kept.toList ++ rule.replacement.toList) := by
  obtain ⟨kept, part, hword, hkept, hpart⟩ := EndingRule.exists_append_of_appliesTo hrule h
  obtain ⟨before, hbefore⟩ := EndingRule.suffix_of_appliesTo h
  have hsplit : word = String.ofList kept ++ String.ofList part := by
    rw [← String.ofList_append, ← hword, String.ofList_toList]
  have hfolded : foldCase word = String.ofList before ++ rule.ending := by
    rw [foldCase, ← hbefore, String.ofList_append, String.ofList_toList]
  have hsize : (String.ofList part).utf8ByteSize = rule.ending.utf8ByteSize := by
    rw [← byteLength_toList, ← byteLength_toList, String.toList_ofList, ← hpart,
      byteLength_map_toLower]
  have hbytes : word.utf8ByteSize =
      (String.ofList kept).utf8ByteSize + rule.ending.utf8ByteSize := by
    rw [hsplit, String.utf8ByteSize_append, hsize]
  refine ⟨by omega, ?_, ?_, String.ofList kept, String.ofList part, hsplit, ?_, by omega, ?_, ?_,
    fun hdecides => ?_⟩
  · rw [hsplit, ← hsize]
    exact isValid_append _ _
  · rw [hfolded]
    exact isValid_append _ _
  · rwa [ne_eq, String.ofList_eq_empty_iff]
  · rw [String.toList_ofList, hpart]
  · rw [hword, String.toList_ofList, dropBytesEnd?_append hpart]
  · rw [singularWord_of_endingRule? hdecides, hword, stem_append hpart, String.toList_ofList]

/-- Kitties with the sign of the kelvin for their first letter, which is longer than the `k` that it
becomes, and boxes with a dotted capital, which is shorter than its small form. -/
theorem stem_exact_kitties :
    (foldCase "\u212AITTIES").utf8ByteSize + 2 = "\u212AITTIES".utf8ByteSize ∧
      String.Pos.Raw.IsValid "\u212AITTIES" ⟨6⟩ ∧
      singularWord "\u212AITTIES".toList = "\u212AITTy".toList ∧
      (foldCase "\u0130BOXeS").utf8ByteSize = "\u0130BOXeS".utf8ByteSize + 1 ∧
      String.Pos.Raw.IsValid "\u0130BOXeS" ⟨4⟩ ∧
      singularWord "\u0130BOXeS".toList = "\u0130BOx".toList := by
  obtain ⟨-, hkitties, -, kitt, -, -, -, -, -, hkitt, hkitty⟩ :=
    @stem_exact "\u212AITTIES" ⟨"ies", "y"⟩ (by decide) (by decide +kernel)
  obtain ⟨-, hboxes, -, bo, -, -, -, -, -, hbo, hbox⟩ :=
    @stem_exact "\u0130BOXeS" ⟨"xes", "x"⟩ (by decide) (by decide +kernel)
  have hkitt' : "\u212AITT".toList = kitt.toList :=
    Option.some.inj (Eq.trans (by decide +kernel) hkitt)
  have hbo' : "\u0130BO".toList = bo.toList := Option.some.inj (Eq.trans (by decide +kernel) hbo)
  refine ⟨by decide +kernel, hkitties, ?_, by decide +kernel, hboxes, ?_⟩
  · rw [hkitty (by decide +kernel), ← hkitt']
    decide
  · rw [hbox (by decide +kernel), ← hbo']
    decide

end TypedCatalog.Naming
