import TypedCatalog.Text.Blank
import TypedCatalog.Text.Bytes
import TypedCatalog.Text.Case

/-!
# Singular names

A collection is named in the plural. `singularize` gives the singular of the last word of such a
name and keeps everything before it. Words are told apart by separators. For the last word the
first rule that knows it decides: words without a plural, irregular words, endings, words that
already read as singular, and at last the plain `s`.

The rules are matched on the word in lower case, and the word keeps its own spelling as far as the
rule leaves it alone. `SingularForm` says what each rule makes of a word.
-/

namespace TypedCatalog.Naming

open Text

/-- Whether `c` stands between two words of a name. -/
def isSeparator (c : Char) : Bool :=
  c == '_' || c == '-' || isBlank c

/-- Words that are the same in singular and plural. -/
def uncountable : List String := [
  "equipment", "information", "rice", "money", "species", "series", "fish", "sheep", "deer",
  "moose", "metadata", "feedback", "software", "media"]

/-- Plurals with a singular of their own. -/
def irregular : List (String × String) := [
  ("people", "person"), ("men", "man"), ("women", "woman"), ("children", "child"),
  ("teeth", "tooth"), ("feet", "foot"), ("geese", "goose"), ("mice", "mouse"), ("oxen", "ox"),
  ("indices", "index"), ("matrices", "matrix"), ("vertices", "vertex"),
  ("criteria", "criterion"), ("analyses", "analysis"), ("theses", "thesis"),
  ("crises", "crisis"), ("quizzes", "quiz"), ("heroes", "hero"), ("potatoes", "potato"),
  ("tomatoes", "tomato"), ("echoes", "echo"), ("knives", "knife"), ("lives", "life"),
  ("wives", "wife"), ("leaves", "leaf"), ("movies", "movie"), ("cookies", "cookie"),
  ("caches", "cache"), ("statuses", "status"), ("buses", "bus"), ("bonuses", "bonus"),
  ("campuses", "campus"), ("viruses", "virus")]

/-- An ending of plurals and what takes its place in the singular. -/
structure EndingRule where
  /-- The ending of the plural, in lower case. -/
  ending : String
  /-- What the stem ends in instead. -/
  replacement : String
  deriving DecidableEq, Repr

/-- The ending rules, in order. -/
def endingRules : List EndingRule := [
  ⟨"ies", "y"⟩, ⟨"sses", "ss"⟩, ⟨"xes", "x"⟩, ⟨"ches", "ch"⟩, ⟨"shes", "sh"⟩, ⟨"lves", "lf"⟩]

/-- Endings of words that already read as singular. -/
def singularEndings : List String := ["ss", "us", "is"]

/-- Whether the rule is for the word `lower`, which is in lower case: the ending is there and is
not the whole word. -/
def EndingRule.appliesTo (rule : EndingRule) (lower : List Char) : Bool :=
  rule.ending.toList.isSuffixOf lower && rule.ending.length < lower.length

/-- What is left of a word when `ending` is taken off: the word itself up to as many bytes before
its end as the ending has, or the word in lower case up to the ending if no character of the word
itself begins there. -/
def stem (word lower : List Char) (ending : String) : List Char :=
  (dropBytesEnd? ending.utf8ByteSize word).getD (lower.take (lower.length - ending.length))

/-- The word without a plain `s` at its end, unless the `s` is all there is. -/
def dropPlainS (word : List Char) : List Char :=
  match word.reverse with
  | c :: d :: rest => if c = 's' ∨ c = 'S' then (d :: rest).reverse else word
  | _ => word

/-- The singular of one word. -/
def singularWord (word : List Char) : List Char :=
  let lower := lowercase word
  if lower = [] ∨ uncountable.any (·.toList == lower) then word
  else
    match irregular.find? (·.1.toList == lower) with
    | some (_, singular) => singular.toList
    | none =>
      match endingRules.find? (·.appliesTo lower) with
      | some rule => stem word lower rule.ending ++ rule.replacement.toList
      | none =>
        if singularEndings.any (·.toList.isSuffixOf lower) then word else dropPlainS word

/-- The part of a name up to its last separator, that included, and the last word. -/
def splitLastWord (name : List Char) : List Char × List Char :=
  ((name.reverse.dropWhile (!isSeparator ·)).reverse,
    (name.reverse.takeWhile (!isSeparator ·)).reverse)

/-- A name with its last word in the singular. -/
def singularize (name : List Char) : List Char :=
  (splitLastWord name).1 ++ singularWord (splitLastWord name).2

/-! ### What the rules make of a word -/

/-- The words that a rule may give for the singular of a word. -/
inductive SingularForm (word : List Char) : List Char → Prop where
  /-- The word is kept. -/
  | kept : SingularForm word word
  /-- The word is an irregular plural. -/
  | irregular {entry : String × String} (hmem : entry ∈ irregular)
    (h : entry.1.toList = lowercase word) : SingularForm word entry.2.toList
  /-- The word has an ending of plurals. -/
  | ending {rule : EndingRule} (hmem : rule ∈ endingRules) (h : rule.appliesTo (lowercase word)) :
    SingularForm word (stem word (lowercase word) rule.ending ++ rule.replacement.toList)
  /-- The word loses its last letter, an `s` with no other `s` before it. -/
  | plainS {rest : List Char} {c : Char} (hrest : rest ≠ []) (hword : word = rest ++ [c])
    (hs : c = 's' ∨ c = 'S') (h : ¬ ['s', 's'] <:+ lowercase word) : SingularForm word rest

theorem EndingRule.suffix_of_appliesTo {rule : EndingRule} {lower : List Char}
    (h : rule.appliesTo lower) : rule.ending.toList <:+ lower := by
  simp only [appliesTo, Bool.and_eq_true] at h
  exact List.isSuffixOf_iff_suffix.mp h.1

theorem singularForm_dropPlainS {word : List Char} (h : ¬ ['s', 's'] <:+ lowercase word) :
    SingularForm word (dropPlainS word) := by
  unfold dropPlainS
  split
  · rename_i c d rest hword
    split
    · rename_i hs
      refine .plainS (by simp) ?_ hs h
      rw [← List.reverse_cons, ← hword, List.reverse_reverse]
    · exact .kept
  · exact .kept

/-- The singular of a word is one that a rule gives. -/
theorem singularForm (word : List Char) : SingularForm word (singularWord word) := by
  unfold singularWord
  simp only
  split
  · exact .kept
  split
  · rename_i plural singular hfind
    exact .irregular (List.mem_of_find?_eq_some hfind) (by simpa using List.find?_some hfind)
  split
  · rename_i rule hfind
    exact .ending (List.mem_of_find?_eq_some hfind) (by simpa using List.find?_some hfind)
  split
  · exact .kept
  · rename_i hendings
    refine singularForm_dropPlainS fun h => hendings ?_
    exact List.any_eq_true.mpr ⟨"ss", by decide, List.isSuffixOf_iff_suffix.mpr h⟩

/-! ### The two parts of a name -/

/-- Splitting off the last word loses nothing. -/
theorem splitLastWord_append (name : List Char) :
    (splitLastWord name).1 ++ (splitLastWord name).2 = name := by
  rw [splitLastWord, ← List.reverse_append, List.takeWhile_append_dropWhile, List.reverse_reverse]

/-- The last word holds no separator. -/
theorem not_isSeparator_of_mem_lastWord {name : List Char} {c : Char}
    (h : c ∈ (splitLastWord name).2) : isSeparator c = false := by
  have := List.all_eq_true.mp List.all_takeWhile c (List.mem_reverse.mp h)
  simpa using this

end TypedCatalog.Naming
