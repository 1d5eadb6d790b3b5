import Mathlib.Data.List.Infix
import TypedCatalog.Text.Bytes
import TypedCatalog.Text.Case

/-!
# Lower case and ASCII

The case mappings of Unicode reach beyond ASCII and back again: a capital sigma has a form of its
own at the end of a word, one capital has a form of two characters, and the sign of the unit kelvin
becomes a `k`. So a text in lower case can have another length in bytes than the text. Its end does
not depend on that: where a text in lower case ends in small letters of ASCII without a `k`, the
text itself ends in these letters, in either case (`exists_append_of_suffix_lowercase`).
-/

namespace TypedCatalog.Text

/-! ### Letters of ASCII -/

/-- What holds of the first 128 characters holds of every character of ASCII. -/
theorem forall_ascii {P : Char → Prop} (h : ∀ n : Fin 128, P (Char.ofNat n)) {c : Char}
    (hc : c.toNat < 0x80) : P c := by
  rw [← Char.ofNat_toNat c]
  exact h ⟨c.toNat, hc⟩

theorem isLower_eq_true {c : Char} : c.isLower = true ↔ 0x61 ≤ c.toNat ∧ c.toNat ≤ 0x7A := by
  delta Char.isLower
  simp [UInt32.le_iff_toNat_le, ← Char.toNat_val]

theorem isAlpha_eq_true {c : Char} :
    c.isAlpha = true ↔ (0x41 ≤ c.toNat ∧ c.toNat ≤ 0x5A) ∨ (0x61 ≤ c.toNat ∧ c.toNat ≤ 0x7A) := by
  delta Char.isAlpha Char.isUpper Char.isLower
  simp [UInt32.le_iff_toNat_le, ← Char.toNat_val]

theorem toLower_of_not_isAlpha {c : Char} (h : ¬c.isAlpha) : c.toLower = c := by
  have hupper : ¬(c.val ≥ 'A'.val ∧ c.val ≤ 'Z'.val) := by
    rintro ⟨hfirst, hlast⟩
    rw [ge_iff_le, UInt32.le_iff_toNat_le] at hfirst
    rw [UInt32.le_iff_toNat_le] at hlast
    exact h (isAlpha_eq_true.mpr (.inl ⟨hfirst, hlast⟩))
  exact dif_neg hupper

/-- A function that does not tell the letters of ASCII from their capitals does not tell any
character from its small letter. -/
theorem apply_toLower {β : Type} {f : Char → β}
    (h : ∀ n : Fin 128, f (Char.ofNat n).toLower = f (Char.ofNat n)) (c : Char) :
    f c.toLower = f c := by
  by_cases hc : c.isAlpha
  · have hlt : c.toNat < 0x80 := by
      rw [isAlpha_eq_true] at hc
      omega
    exact forall_ascii (P := fun c => f c.toLower = f c) h hlt
  · rw [toLower_of_not_isAlpha hc]

theorem toLower_toLower (c : Char) : c.toLower.toLower = c.toLower :=
  apply_toLower (by decide) c

theorem isAlpha_toLower (c : Char) : c.toLower.isAlpha = c.isAlpha :=
  apply_toLower (by decide) c

theorem utf8Size_toLower (c : Char) : c.toLower.utf8Size = c.utf8Size :=
  apply_toLower (by decide) c

theorem lowerChar_toLower (c : Char) : lowerChar c.toLower = lowerChar c :=
  apply_toLower (by decide) c

theorem upperChar_toLower (c : Char) : upperChar c.toLower = upperChar c :=
  apply_toLower (by decide) c

theorem map_toLower_map_toLower (text : List Char) :
    (text.map Char.toLower).map Char.toLower = text.map Char.toLower := by
  rw [List.map_map]
  exact List.map_congr_left fun c _ => toLower_toLower c

theorem byteLength_map_toLower (text : List Char) :
    byteLength (text.map Char.toLower) = byteLength text := by
  induction text with
  | nil => rfl
  | cons c rest ih => rw [List.map_cons, byteLength_cons, byteLength_cons, ih, utf8Size_toLower]

/-! ### Beyond ASCII -/

theorem toNat_ofNat_eq_or (n : Nat) : (Char.ofNat n).toNat = n ∨ (Char.ofNat n).toNat = 0 := by
  by_cases h : n.isValidChar
  · left
    rw [Char.ofNat, dif_pos h]
    rfl
  · right
    rw [Char.ofNat, dif_neg h]
    rfl

/-- A code point that lies beyond the images of all runs is mapped to by itself alone. -/
theorem toNat_mapRuns_ne {runs : List CaseRun} {n : Nat} (hpos : 0 < n)
    (hruns : ∀ run ∈ runs,
      run.last < 0x80 ∨ run.last + run.shift < n ∨ n < run.first + run.shift)
    {c : Char} (hc : 0x80 ≤ c.toNat) (hne : c.toNat ≠ n) : (mapRuns runs c).toNat ≠ n := by
  unfold mapRuns
  cases hfind : runs.find? (·.covers c.toNat) with
  | none => exact hne
  | some run =>
    have hrun := hruns run (List.mem_of_find?_eq_some hfind)
    have hcovers := List.find?_some hfind
    simp only [CaseRun.covers, Bool.and_eq_true, decide_eq_true_eq] at hcovers
    have hnat := toNat_ofNat_eq_or (c.toNat + run.shift).toNat
    simp only
    omega

theorem lowerChar_ne_nil (c : Char) : lowerChar c ≠ [] := by
  unfold lowerChar
  split
  · exact List.cons_ne_nil _ _
  · split <;> exact List.cons_ne_nil _ _

/-! ### Texts of ASCII -/

/-- Whether all characters of a text are of ASCII. -/
def isAscii (text : List Char) : Bool :=
  text.all (·.toNat < 0x80)

theorem isAscii_append {first rest : List Char} :
    isAscii (first ++ rest) = true ↔ isAscii first ∧ isAscii rest := by
  rw [isAscii, List.all_append, Bool.and_eq_true, isAscii, isAscii]

theorem isAscii_map_toLower (text : List Char) :
    isAscii (text.map Char.toLower) = isAscii text := by
  have hsame : ∀ c : Char, decide (c.toLower.toNat < 0x80) = decide (c.toNat < 0x80) :=
    apply_toLower (f := fun c => decide (c.toNat < 0x80)) (by decide)
  simp only [isAscii, List.all_map, Function.comp_def, hsame]

theorem lowercaseAfter_of_isAscii {text : List Char} (h : isAscii text) (before : List Char) :
    lowercaseAfter before text = text.map Char.toLower := by
  induction text generalizing before with
  | nil => rfl
  | cons c rest ih =>
    rw [isAscii, List.all_cons, Bool.and_eq_true, decide_eq_true_eq] at h
    rw [lowercaseAfter, if_neg (by omega), lowerChar_of_lt h.1, ih h.2]
    rfl

/-! ### The end of a text in lower case -/

/-- The lower-case form of a text ends in that of its last part. -/
theorem exists_lowercaseAfter_append (first last : List Char) :
    ∀ before : List Char, ∃ part,
      lowercaseAfter before (first ++ last) =
        part ++ lowercaseAfter (first.reverse ++ before) last := by
  induction first with
  | nil => exact fun before => ⟨[], rfl⟩
  | cons c rest ih =>
    intro before
    obtain ⟨part, hpart⟩ := ih (c :: before)
    rw [List.cons_append, lowercaseAfter, hpart, List.reverse_cons, List.append_assoc,
      List.singleton_append, ← List.append_assoc]
    exact ⟨_, rfl⟩

/-- The lower-case form of a text ends in that of its last characters, if they are of ASCII. -/
theorem map_toLower_suffix_lowercase (first : List Char) {last : List Char}
    (h : isAscii last) : last.map Char.toLower <:+ lowercase (first ++ last) := by
  obtain ⟨part, hpart⟩ := exists_lowercaseAfter_append first last []
  rw [lowercase, hpart, lowercaseAfter_of_isAscii h]
  exact List.suffix_append part _

/-- Whether `c` is a small letter of ASCII that only the letter itself and its capital have for
their lower-case form. A `k` is not: it is also that of the sign of the kelvin. -/
def isOwnLetter (c : Char) : Bool :=
  c.isLower && c != 'k'

theorem isAlpha_of_isOwnLetter {c : Char} (h : isOwnLetter c) : c.isAlpha :=
  Bool.or_eq_true_iff.mpr (.inr (Bool.and_eq_true_iff.mp h).1)

/-- A character beyond ASCII has no such letter for its lower-case form. -/
theorem isOwnLetter_mapRuns {c : Char} (hc : 0x80 ≤ c.toNat) :
    isOwnLetter (mapRuns lowerRuns c) = false := by
  -- The only run that reaches a small letter of ASCII from beyond is that of the kelvin.
  have hruns : ∀ run ∈ lowerRuns, run.last < 0x80 ∨ 0x7A < run.first + run.shift ∨
      run.first + run.shift = 0x6B ∧ run.last + run.shift = 0x6B := by
    decide +kernel
  rw [Bool.eq_false_iff]
  intro h
  simp only [isOwnLetter, Bool.and_eq_true, bne_iff_ne, ne_eq, ← Char.toNat_inj,
    isLower_eq_true] at h
  have hk : 'k'.toNat = 0x6B := rfl
  refine toNat_mapRuns_ne (n := (mapRuns lowerRuns c).toNat) (by omega) (fun run hrun => ?_) hc
    (by omega) rfl
  have := hruns run hrun
  omega

/-- A form that ends in such letters is that of one character of ASCII; the two forms of a capital
sigma do not. -/
theorem eq_of_suffix_form {c : Char} {atEnd : Bool} {part : List Char} (hne : part ≠ [])
    (hpart : ∀ d ∈ part, isOwnLetter d)
    (h : part <:+ if c.toNat = 0x3A3 then [Char.ofNat (if atEnd then 0x3C2 else 0x3C3)]
      else lowerChar c) : part = [c.toLower] := by
  have hsingle : ∀ {d : Char}, part <:+ [d] → part = [d] := fun h =>
    (List.suffix_cons_iff.mp h).resolve_right fun h => hne (List.suffix_nil.mp h)
  unfold lowerChar at h
  split at h
  · have hsigma := hpart _ (hsingle h ▸ List.mem_singleton_self _)
    cases atEnd <;> exact absurd hsigma (by decide)
  split at h
  · exact hsingle h
  split at h
  · -- The dot above is no letter, and it comes last.
    have hdot : Char.ofNat 0x307 ∈ part := by
      rcases List.suffix_cons_iff.mp h with rfl | h
      · exact List.mem_cons_of_mem _ List.mem_cons_self
      · exact hsingle h ▸ List.mem_singleton_self _
    exact absurd (hpart _ hdot) (by decide)
  · rename_i hlt _
    have hletter := hpart _ (hsingle h ▸ List.mem_singleton_self _)
    rw [isOwnLetter_mapRuns (by omega)] at hletter
    cases hletter

/-- A text that is spelled in such letters in lower case is so in either case. -/
theorem map_toLower_of_forall_isOwnLetter {text before : List Char}
    (h : ∀ d ∈ lowercaseAfter before text, isOwnLetter d) :
    text.map Char.toLower = lowercaseAfter before text := by
  induction text generalizing before with
  | nil => rfl
  | cons c rest ih =>
    rw [lowercaseAfter, List.forall_mem_append] at h
    rw [List.map_cons, lowercaseAfter, ih h.2, eq_of_suffix_form ?_ h.1 (List.suffix_refl _)]
    · rfl
    · split
      · exact List.cons_ne_nil _ _
      · exact lowerChar_ne_nil c

theorem exists_append_of_suffix_lowercaseAfter {ending : List Char}
    (hletters : ∀ d ∈ ending, isOwnLetter d) {text before : List Char}
    (h : ending <:+ lowercaseAfter before text) :
    ∃ rest part, text = rest ++ part ∧ part.map Char.toLower = ending := by
  induction text generalizing before with
  | nil => exact ⟨[], [], rfl, (List.suffix_nil.mp h).symm⟩
  | cons c text ih =>
    have hbehind : ending <:+ lowercaseAfter (c :: before) text →
        ∃ rest part, c :: text = rest ++ part ∧ part.map Char.toLower = ending := by
      intro h
      obtain ⟨rest, part, rfl, hpart⟩ := ih h
      exact ⟨c :: rest, part, rfl, hpart⟩
    rw [lowercaseAfter] at h
    rcases List.suffix_or_suffix_of_suffix h (List.suffix_append _ _) with h' | ⟨front, rfl⟩
    · exact hbehind h'
    by_cases hfront : front = []
    · refine hbehind ?_
      rw [hfront, List.nil_append]
    -- The ending reaches into the form of the first character, which has to be one letter then.
    rw [List.forall_mem_append] at hletters
    rw [List.suffix_append_self_iff] at h
    refine ⟨[], c :: text, rfl, ?_⟩
    rw [List.map_cons, map_toLower_of_forall_isOwnLetter hletters.2,
      eq_of_suffix_form hfront hletters.1 h]
    rfl

/-- A text that ends in such letters in lower case ends in them in either case. -/
theorem exists_append_of_suffix_lowercase {ending text : List Char}
    (hletters : ∀ d ∈ ending, isOwnLetter d) (h : ending <:+ lowercase text) :
    ∃ rest part, text = rest ++ part ∧ part.map Char.toLower = ending :=
  exists_append_of_suffix_lowercaseAfter hletters h

end TypedCatalog.Text
