import TypedCatalog.Proofs.UnitReading

/-!
# Escapes taken back

A literal is cut off at its closing quote before anything in it is understood (`cutLiteral`), and
its escapes are taken back afterwards (`unescaped`). Both undo `escaped`, whatever the text: no
escape closes the literal or runs into the next one, and nothing in the body breaks its line. So a
text can be told from its literal, and a name from the way it is written as a property
(`escaped_reversible`).
-/

namespace TypedCatalog

/-- Takes the escapes in the body of a literal back. -/
def unescaped (text : List Char) : Option (List Char) :=
  match text with
  | [] => some []
  | c :: rest =>
    if c = '\\' then
      match _h : readEscape rest with
      | none => none
      | some (d, after) => (unescaped after).map (d :: ·)
    else (unescaped rest).map (c :: ·)
termination_by text.length
decreasing_by
  · have := length_readEscape _h
    simp only [List.length_cons]
    omega
  · simp

/-- Cuts the body of a literal off at its closing quote, as it stands: a backslash takes the
character behind it along, and a line break is refused. -/
def cutBody (quote : Char) : List Char → Option (List Char × List Char)
  | [] => none
  | '\\' :: c :: rest => (cutBody quote rest).map (Prod.map (['\\', c] ++ ·) id)
  | c :: rest =>
    if c = quote then some ([], rest)
    else if breaksLine c then none
    else (cutBody quote rest).map (Prod.map (c :: ·) id)

/-- Cuts a literal off, from its opening to its closing quote: its body, and the text behind it. -/
def cutLiteral : List Char → Option (List Char × List Char)
  | [] => none
  | quote :: rest => if isQuote quote then cutBody quote rest else none

/-- The name of the property that a text writes. -/
def readPropertyName (text : String) : Option String :=
  match tokens text.toList with
  | some [token] => token.propertyName?
  | _ => none

/-! ### One character -/

theorem unescaped_escape {text rest : List Char} {c : Char}
    (h : readEscape text = some (c, rest)) :
    unescaped ('\\' :: text) = (unescaped rest).map (c :: ·) := by
  rw [unescaped, if_pos rfl]
  split
  · rename_i hnone
    rw [h] at hnone
    cases hnone
  · rename_i hsome
    rw [h] at hsome
    cases hsome
    rfl

theorem cutBody_plain {quote c : Char} (h : IsPlain quote c) (rest : List Char) :
    cutBody quote (c :: rest) = (cutBody quote rest).map (Prod.map (c :: ·) id) := by
  rw [cutBody, if_neg h.ne_quote, h.breaksLine, if_neg Bool.false_ne_true]
  exact fun _ _ hslash => absurd hslash h.ne_slash

/-- Characters that stand for themselves are cut off as they stand. -/
theorem cutBody_plain_append {quote : Char} {text : List Char} (h : ∀ c ∈ text, IsPlain quote c)
    (rest : List Char) :
    cutBody quote (text ++ rest) = (cutBody quote rest).map (Prod.map (text ++ ·) id) := by
  induction text with
  | nil =>
    rw [List.nil_append]
    cases cutBody quote rest <;> rfl
  | cons c text ih =>
    rw [List.forall_mem_cons] at h
    rw [List.cons_append, cutBody_plain h.1, ih h.2, Option.map_map]
    rfl

namespace Spelling

variable {quote c : Char} {spelled : List Char} (h : Spelling quote c spelled)
include h

/-- What is spelled is taken back, whatever comes after it. -/
theorem unescaped_append (rest : List Char) :
    unescaped (spelled ++ rest) = (unescaped rest).map (c :: ·) := by
  cases h with
  | plain h => rw [List.singleton_append, unescaped, if_neg h.ne_slash]
  | escape hread => exact unescaped_escape (hread rest)

/-- A spelling is cut off as it stands and does not close the literal. -/
theorem cutBody_append (rest : List Char) :
    cutBody quote (spelled ++ rest) = (cutBody quote rest).map (Prod.map (spelled ++ ·) id) := by
  cases h with
  | plain h => exact cutBody_plain h rest
  | @escape mark digits _ _ hdigits =>
    rw [List.cons_append, List.cons_append, cutBody, cutBody_plain_append hdigits, Option.map_map]
    rfl

/-- A spelling stands in a line. -/
theorem standsInLine {d : Char} (hd : d ∈ spelled) : TypedCatalog.standsInLine d = true := by
  cases h with
  | plain h =>
    rw [List.mem_singleton.mp hd]
    exact h.standsInLine
  | escape _ hmark hdigits =>
    rcases List.mem_cons.mp hd with rfl | hd
    · rfl
    rcases List.mem_cons.mp hd with rfl | hd
    · exact hmark
    · exact (hdigits d hd).standsInLine

end Spelling

/-! ### A text -/

section Text

variable {quote : Char} (hquote : isQuote quote)
include hquote

/-- The escapes of a text are taken back to the text. -/
theorem unescaped_escapedText (text : List Char) :
    unescaped (escapedText quote text) = some text := by
  induction text with
  | nil => rw [escapedText_nil, unescaped]
  | cons c text ih =>
    rw [escapedText_cons, (spelling_escapedChar hquote c).unescaped_append, ih]
    rfl

/-- The body of a literal ends at the quote behind it. -/
theorem cutBody_escapedText (text rest : List Char) :
    cutBody quote (escapedText quote text ++ quote :: rest) =
      some (escapedText quote text, rest) := by
  induction text with
  | nil =>
    have hslash : quote ≠ '\\' := by
      rcases eq_of_isQuote hquote with rfl | rfl <;> decide
    rw [escapedText_nil, List.nil_append, cutBody, if_pos rfl]
    exact fun _ _ h => absurd h hslash
  | cons c text ih =>
    rw [escapedText_cons, List.append_assoc, (spelling_escapedChar hquote c).cutBody_append, ih]
    rfl

/-- The body of a literal stands in a line. -/
theorem standsInLine_of_mem_escapedText {text : List Char} {d : Char}
    (h : d ∈ escapedText quote text) : standsInLine d = true := by
  obtain ⟨c, -, hd⟩ := List.mem_flatMap.mp h
  exact (spelling_escapedChar hquote c).standsInLine hd

end Text

/-- A property's name is read back from the way it is written, bare or in quotes. -/
theorem readPropertyName_propertyName (name : String) :
    readPropertyName (propertyName name) = some name := by
  rw [readPropertyName, (lexesBefore_propertyName name).tokens_eq]
  exact propertyName?_propertyToken name

/-- Escaping is taken back and kept inside its literal, between quotes of either kind and for every
text. The escapes of its body stand for the text; no character of the body is a control character or
breaks the line; and the literal ends at its closing quote, whatever comes behind it. So the body
tells the text. A property's name is read back from the way it is written, which tells the name. -/
theorem escaped_reversible {quote : Char} (hquote : isQuote quote) :
    (∀ text : String, unescaped (escaped text quote).toList = some text.toList ∧
      (∀ c ∈ (escaped text quote).toList,
        Text.isControl c = false ∧ c ∉ ['\n', '\r', '\u2028', '\u2029']) ∧
      ∀ rest, cutLiteral (quote :: ((escaped text quote).toList ++ quote :: rest)) =
        some ((escaped text quote).toList, rest)) ∧
      (Function.Injective fun text => escaped text quote) ∧
      (∀ name, readPropertyName (propertyName name) = some name) ∧
      Function.Injective propertyName := by
  have hunescaped : ∀ text : String, unescaped (escaped text quote).toList = some text.toList := by
    intro text
    rw [toList_escaped]
    exact unescaped_escapedText hquote text.toList
  refine ⟨fun text => ⟨hunescaped text, fun c hc => ?_, fun rest => ?_⟩, fun text other hsame => ?_,
    readPropertyName_propertyName, fun name other hsame => ?_⟩
  · rw [toList_escaped] at hc
    have hstands := standsInLine_of_mem_escapedText hquote hc
    simp only [standsInLine, Bool.and_eq_true, Bool.not_eq_true'] at hstands
    refine ⟨hstands.1, fun hmem => ?_⟩
    have hbreaks : breaksLine c = true := by
      simp only [List.mem_cons, List.not_mem_nil, or_false] at hmem
      rcases hmem with rfl | rfl | rfl | rfl <;> rfl
    rw [hbreaks] at hstands
    cases hstands.2
  · rw [cutLiteral, if_pos hquote, toList_escaped]
    exact cutBody_escapedText hquote text.toList rest
  · have htext := hunescaped text
    rw [show escaped text quote = escaped other quote from hsame, hunescaped other] at htext
    exact String.toList_inj.mp (Option.some.inj htext).symm
  · have hname := readPropertyName_propertyName name
    rw [hsame, readPropertyName_propertyName other] at hname
    exact (Option.some.inj hname).symm

/-- Quotes, backslashes and escape letters next to each other, and line breaks of every kind. -/
theorem escaped_reversible_mixed :
    isQuote doubleQuote = true ∧
      (escaped "\\\"n\n\u2028\\" doubleQuote).toList =
        ['\\', '\\', '\\', '\x22', 'n', '\\', 'n', '\\', 'u', '2', '0', '2', '8', '\\', '\\'] ∧
      unescaped (escaped "\\\"n\n\u2028\\" doubleQuote).toList =
        some ['\\', '\x22', 'n', '\n', '\u2028', '\\'] ∧
      cutLiteral (doubleQuote :: ((escaped "\\\"n\n\u2028\\" doubleQuote).toList ++
        doubleQuote :: ['\\', '\x22'])) =
          some ((escaped "\\\"n\n\u2028\\" doubleQuote).toList, ['\\', '\x22']) ∧
      readPropertyName (propertyName "it's \"so\"") = some "it's \"so\"" := by
  obtain ⟨hbody, -, hname, -⟩ := escaped_reversible (rfl : isQuote doubleQuote = true)
  obtain ⟨hunescaped, -, hcut⟩ := hbody "\\\"n\n\u2028\\"
  exact ⟨rfl, by decide, hunescaped, hcut _, hname _⟩

end TypedCatalog
