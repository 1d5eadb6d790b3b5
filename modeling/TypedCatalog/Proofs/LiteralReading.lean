import Mathlib.Algebra.Group.Nat.Defs
import Mathlib.Tactic.SplitIfs
import TypedCatalog.TypeExpr.Literal

/-!
# Reading literals

`literalBody` reads the body of a quoted literal up to its closing quote, taking escapes back. It
refuses a line break that is not escaped. What `escapedText` writes for a character is a spelling of
it (`Spelling`): the character as it stands, or an escape that stands for it in front of any text.
So a text reads back from its literal, whatever stands after the closing quote
(`literalBody_escapedText`).
-/

namespace TypedCatalog

/-- The number that hexadecimal digits stand for. -/
def hexNumber? (digits : List Char) : Option Nat :=
  digits.foldlM (fun n c => (Text.hexValue? c).map (16 * n + ·)) 0

/-- The character with the number that four digits stand for. -/
def charOfDigits? (digits : List Char) : Option Char :=
  match hexNumber? digits with
  | some n => if digits.length = 4 ∧ n.isValidChar then some (Char.ofNat n) else none
  | none => none

/-- The character that an escape stands for, read after its backslash, and the text after it. -/
def readEscape : List Char → Option (Char × List Char)
  | [] => none
  | 'n' :: rest => some ('\n', rest)
  | 'r' :: rest => some ('\r', rest)
  | 't' :: rest => some ('\t', rest)
  | 'u' :: rest => (charOfDigits? (rest.take 4)).map (·, rest.drop 4)
  | c :: rest => some (c, rest)

/-- Whether a character breaks a line. -/
def breaksLine (c : Char) : Bool :=
  c == '\n' || c == '\r' || c.toNat == 0x2028 || c.toNat == 0x2029

/-- An escape is not empty. -/
theorem length_readEscape {text rest : List Char} {c : Char}
    (h : readEscape text = some (c, rest)) : rest.length < text.length := by
  unfold readEscape at h
  split at h
  · cases h
  · cases h; simp
  · cases h; simp
  · cases h; simp
  · obtain ⟨d, -, hd⟩ := Option.map_eq_some_iff.mp h
    cases hd
    simp only [List.length_drop, List.length_cons]
    omega
  · cases h; simp

/-- Reads the body of a literal up to its closing quote: the text that it stands for, and the text
after the quote. -/
def literalBody (quote : Char) (text : List Char) : Option (List Char × List Char) :=
  match text with
  | [] => none
  | c :: rest =>
    if c = quote then some ([], rest)
    else if c = '\\' then
      match _h : readEscape rest with
      | none => none
      | some (d, after) => (literalBody quote after).map (Prod.map (d :: ·) id)
    else if breaksLine c then none
    else (literalBody quote rest).map (Prod.map (c :: ·) id)
termination_by text.length
decreasing_by
  · have := length_readEscape _h
    simp only [List.length_cons]
    omega
  · simp

/-- What is left after a literal is shorter than the text it began in. -/
theorem length_literalBody {quote : Char} {text body rest : List Char}
    (h : literalBody quote text = some (body, rest)) : rest.length < text.length := by
  fun_induction literalBody quote text generalizing body with
  | case1 => cases h
  | case2 => cases h; simp
  | case3 => cases h
  | case4 text d after hescape hquote ih =>
    obtain ⟨⟨inner, more⟩, hinner, hpair⟩ := Option.map_eq_some_iff.mp h
    cases hpair
    have hafter := length_readEscape hescape
    have hrest := ih hinner
    simp only [List.length_cons, id] at hrest ⊢
    omega
  | case5 => cases h
  | case6 c text hquote hslash hbreak ih =>
    obtain ⟨⟨inner, more⟩, hinner, hpair⟩ := Option.map_eq_some_iff.mp h
    cases hpair
    have hrest := ih hinner
    simp only [List.length_cons, id] at hrest ⊢
    omega

/-! ### Escapes by number -/

/-- Digits that were written for a number stand for it. -/
theorem hexNumber?_hexFixed {width n : Nat} (h : n < 16 ^ width) :
    hexNumber? (Text.hexFixed width n) = some n := by
  induction width generalizing n with
  | zero =>
    obtain rfl : n = 0 := by omega
    rfl
  | succ width ih =>
    have hquotient : n / 16 < 16 ^ width := by
      rw [Nat.div_lt_iff_lt_mul (by decide)]
      omega
    have hdigit := Text.hexValue?_hexDigit (Nat.mod_lt n (by decide : 0 < 16))
    rw [Text.hexFixed, hexNumber?, List.foldlM_append]
    have hlead := ih hquotient
    rw [hexNumber?] at hlead
    rw [hlead]
    simp only [Option.bind_eq_bind, Option.bind_some, List.foldlM_cons, List.foldlM_nil, hdigit,
      Option.map_some, Option.pure_def, Option.some.injEq]
    omega

/-- The escape of a character by its number stands for the character. -/
theorem readEscape_numberEscape {c : Char} (h : c.toNat < 0x10000) (rest : List Char) :
    readEscape ('u' :: (Text.hexFixed 4 c.toNat ++ rest)) = some (c, rest) := by
  have hlength : (Text.hexFixed 4 c.toNat).length = 4 := Text.length_hexFixed 4 c.toNat
  have hdigits : charOfDigits? (Text.hexFixed 4 c.toNat) = some c := by
    have hvalid : c.toNat.isValidChar := c.valid
    rw [charOfDigits?, hexNumber?_hexFixed h]
    simp only [hlength, hvalid, and_self, if_true, Char.ofNat_toNat]
  rw [readEscape, List.take_left' hlength, List.drop_left' hlength, hdigits]
  rfl

/-- The quotes that can stand around a literal. -/
def isQuote (c : Char) : Bool := c == singleQuote || c == doubleQuote

/-! ### How a character is written -/

/-- Whether a character stands in a line: it neither breaks the line nor controls the output. -/
def standsInLine (c : Char) : Bool := !Text.isControl c && !breaksLine c

/-- A character that stands for itself between two `quote`s. -/
structure IsPlain (quote c : Char) : Prop where
  /-- It does not close the literal. -/
  ne_quote : c ≠ quote
  /-- It does not open an escape. -/
  ne_slash : c ≠ '\\'
  /-- It stands in a line. -/
  standsInLine : standsInLine c = true

theorem IsPlain.breaksLine {quote c : Char} (h : IsPlain quote c) : breaksLine c = false := by
  have := h.standsInLine
  simp only [TypedCatalog.standsInLine, Bool.and_eq_true, Bool.not_eq_true'] at this
  exact this.2

/-- The ways to write a character between two `quote`s. -/
inductive Spelling (quote c : Char) : List Char → Prop where
  /-- As itself. -/
  | plain (h : IsPlain quote c) : Spelling quote c [c]
  /-- By an escape: a backslash, a character, and more characters that stand for themselves. -/
  | escape {mark : Char} {digits : List Char}
    (hread : ∀ rest, readEscape (mark :: digits ++ rest) = some (c, rest))
    (hmark : standsInLine mark = true) (hdigits : ∀ digit ∈ digits, IsPlain quote digit) :
    Spelling quote c ('\\' :: mark :: digits)

theorem eq_of_isQuote {quote : Char} (h : isQuote quote) :
    quote = singleQuote ∨ quote = doubleQuote := by
  simpa [isQuote] using h

/-- The digits of a number stand for themselves. -/
theorem isPlain_of_mem_hexFixed {quote : Char} (hquote : isQuote quote) {width n : Nat} {c : Char}
    (h : c ∈ Text.hexFixed width n) : IsPlain quote c := by
  have hdigit : ∀ value : Fin 16, Text.hexDigit value ≠ singleQuote ∧
      Text.hexDigit value ≠ doubleQuote ∧ Text.hexDigit value ≠ '\\' ∧
        standsInLine (Text.hexDigit value) = true := by decide
  induction width generalizing n with
  | zero => cases h
  | succ width ih =>
    rw [Text.hexFixed, List.mem_append, List.mem_singleton] at h
    rcases h with h | rfl
    · exact ih h
    · obtain ⟨hsingle, hdouble, hslash, hstands⟩ := hdigit ⟨n % 16, Nat.mod_lt n (by decide)⟩
      rcases eq_of_isQuote hquote with rfl | rfl
      · exact ⟨hsingle, hslash, hstands⟩
      · exact ⟨hdouble, hslash, hstands⟩

/-- A character is spelled by its number. -/
theorem spelling_numberEscape {quote : Char} (hquote : isQuote quote) {c : Char}
    (h : c.toNat < 0x10000) : Spelling quote c (numberEscape c) :=
  .escape (fun rest => readEscape_numberEscape h rest) rfl
    fun _ hdigit => isPlain_of_mem_hexFixed hquote hdigit

/-- What is written for a character is a spelling of it. -/
theorem spelling_escapedChar {quote : Char} (hquote : isQuote quote) (c : Char) :
    Spelling quote c (escapedChar quote c) := by
  have hnone : ∀ digit ∈ ([] : List Char), IsPlain quote digit := by simp
  unfold escapedChar
  split_ifs with hfeed hreturn htab hseparator hcontrol hmark
  · exact hfeed ▸ .escape (fun _ => rfl) rfl hnone
  · exact hreturn ▸ .escape (fun _ => rfl) rfl hnone
  · exact htab ▸ .escape (fun _ => rfl) rfl hnone
  · exact spelling_numberEscape hquote (by omega)
  · refine spelling_numberEscape hquote ?_
    simp only [Text.isControl, Bool.or_eq_true, Bool.and_eq_true, decide_eq_true_eq] at hcontrol
    omega
  · have hc : c = '\\' ∨ c = singleQuote ∨ c = doubleQuote := by
      refine hmark.imp_right ?_
      rintro rfl
      exact eq_of_isQuote hquote
    rcases hc with rfl | rfl | rfl
    · exact .escape (fun _ => rfl) rfl hnone
    · exact .escape (fun _ => rfl) rfl hnone
    · exact .escape (fun _ => rfl) rfl hnone
  · obtain ⟨hslash, hne⟩ := not_or.mp hmark
    obtain ⟨hline, hparagraph⟩ := not_or.mp hseparator
    refine .plain ⟨hne, hslash, ?_⟩
    simp [standsInLine, breaksLine, hcontrol, hfeed, hreturn, hline, hparagraph]

/-! ### Reading what was written -/

theorem literalBody_escape {quote c : Char} (hquote : isQuote quote) {text rest : List Char}
    (h : readEscape text = some (c, rest)) :
    literalBody quote ('\\' :: text) = (literalBody quote rest).map (Prod.map (c :: ·) id) := by
  have hslash : '\\' ≠ quote := by
    rintro rfl
    revert hquote
    decide
  rw [literalBody, if_neg hslash, if_pos rfl]
  split
  · rename_i hnone
    rw [h] at hnone
    cases hnone
  · rename_i hsome
    rw [h] at hsome
    cases hsome
    rfl

theorem literalBody_cons {quote c : Char} (hquote : c ≠ quote) (hslash : c ≠ '\\')
    (hbreak : breaksLine c = false) (rest : List Char) :
    literalBody quote (c :: rest) = (literalBody quote rest).map (Prod.map (c :: ·) id) := by
  rw [literalBody, if_neg hquote, if_neg hslash, hbreak, if_neg Bool.false_ne_true]

/-- A spelling of a character reads back as the character, whatever comes after it. -/
theorem Spelling.literalBody_append {quote c : Char} {spelled : List Char} (hquote : isQuote quote)
    (h : Spelling quote c spelled) (rest : List Char) :
    literalBody quote (spelled ++ rest) = (literalBody quote rest).map (Prod.map (c :: ·) id) := by
  cases h with
  | plain h => exact literalBody_cons h.ne_quote h.ne_slash h.breaksLine rest
  | escape hread => exact literalBody_escape hquote (hread rest)

/-- A text reads back from the body of its literal, and the closing quote ends it there. -/
theorem literalBody_escapedText {quote : Char} (hquote : isQuote quote) (text rest : List Char) :
    literalBody quote (escapedText quote text ++ quote :: rest) = some (text, rest) := by
  induction text with
  | nil => rw [escapedText_nil, List.nil_append, literalBody, if_pos rfl]
  | cons c text ih =>
    have hspelling := spelling_escapedChar hquote c
    rw [escapedText_cons, List.append_assoc, hspelling.literalBody_append hquote, ih]
    rfl

end TypedCatalog
