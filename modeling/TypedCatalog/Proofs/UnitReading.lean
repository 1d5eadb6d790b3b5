import TypedCatalog.Declaration.Name
import TypedCatalog.Proofs.TypeReading

/-!
# Reading units

`readUnit` reads the text of a unit: its imports, the name that it declares, and its members with
their types. Comments are skipped and literals taken for what they stand for. A text with the tokens
of a unit reads back as the unit (`readUnit_of_tokens`), and the lines that a unit is written in give
these tokens.
-/

namespace TypedCatalog

open Naming Text

/-- What the text of a unit says. -/
structure UnitReading where
  /-- The imported names, each with the path that it is imported from, in order. -/
  imports : List (String × String)
  /-- The declared name. -/
  typeName : String
  /-- The members with their types, in order. -/
  members : List (String × TypeExpr)
  deriving Repr

/-! ### The reader -/

/-- Reads the imports that a unit begins with. -/
def readImports : List Token → List (String × String) × List Token
  | .word "import" :: .word "type" :: .mark .openBrace :: .word name :: .mark .closeBrace ::
      .word "from" :: .quoted _ path :: .mark .semicolon :: rest =>
    ((name, path) :: (readImports rest).1, (readImports rest).2)
  | input => ([], input)

/-- Reads the beginning of a declaration, up to its members. -/
def readHeading : List Token → Option (String × List Token)
  | .word "export" :: .word "type" :: .word name :: .mark .equals :: .mark .openBrace :: rest =>
    some (name, rest)
  | _ => none

/-- The name of a property. -/
def Token.propertyName? : Token → Option String
  | word name => some name
  | quoted _ name => some name
  | mark _ => none

/-- Reads members up to the end of a declaration. -/
def readMembers (input : List Token) : Option (List (String × TypeExpr) × List Token) :=
  match input with
  | .mark .closeBrace :: rest => some ([], rest)
  | property :: .mark .colon :: rest =>
    match property.propertyName?, _h : TypeExpr.readType rest with
    | some name, some (type, .mark .semicolon :: after) =>
      (readMembers after).map (Prod.map ((name, type) :: ·) id)
    | _, _ => none
  | _ => none
termination_by input.length
decreasing_by
  have := TypeExpr.length_readOperand _h
  simp only [List.length_cons] at this ⊢
  omega

/-- Reads a unit. -/
def readUnit (text : String) : Option UnitReading := do
  let input ← tokens text.toList
  let (imports, rest) := readImports input
  let (typeName, rest) ← readHeading rest
  let (members, rest) ← readMembers rest
  if rest = [.mark .semicolon] then some ⟨imports, typeName, members⟩ else none

/-! ### The tokens of a unit -/

/-- The path that a declared type is imported from. -/
def importPath (identifier : String) : String := "./" ++ identifier

/-- The tokens of an import. -/
def importTokens (identifier : String) : List Token :=
  [.word "import", .word "type", .mark .openBrace, .word identifier, .mark .closeBrace,
    .word "from", .quoted doubleQuote (importPath identifier), .mark .semicolon]

/-- The tokens of the beginning of a declaration. -/
def headingTokens (typeName : String) : List Token :=
  [.word "export", .word "type", .word typeName, .mark .equals, .mark .openBrace]

/-- The token of a property's name. -/
def propertyToken (name : String) : Token :=
  if isIdentifier name then .word name else .quoted doubleQuote name

/-- The tokens of a member. -/
def memberTokens (member : String × TypeExpr) : List Token :=
  propertyToken member.1 :: .mark .colon :: (member.2.tokens ++ [.mark .semicolon])

/-- The tokens of a unit. -/
def unitTokens (imports : List String) (typeName : String) (members : List (String × TypeExpr)) :
    List Token :=
  imports.flatMap importTokens ++ (headingTokens typeName ++
    (members.flatMap memberTokens ++ [.mark .closeBrace, .mark .semicolon]))

/-! ### Reading the tokens -/

@[simp] theorem propertyName?_propertyToken (name : String) :
    (propertyToken name).propertyName? = some name := by
  unfold propertyToken
  split <;> rfl

theorem readImports_headingTokens (typeName : String) (rest : List Token) :
    readImports (headingTokens typeName ++ rest) = ([], headingTokens typeName ++ rest) := by
  rw [headingTokens, List.cons_append, readImports]
  intro name quote path more h
  simp at h

theorem readImports_importTokens (identifiers : List String) (rest : List Token) :
    readImports (identifiers.flatMap importTokens ++ rest) =
      (identifiers.map (fun identifier => (identifier, importPath identifier)) ++
        (readImports rest).1, (readImports rest).2) := by
  induction identifiers with
  | nil => rfl
  | cons identifier identifiers ih =>
    rw [List.flatMap_cons, List.append_assoc, importTokens]
    simp only [List.cons_append, List.nil_append]
    rw [readImports, ih]
    rfl

theorem readMembers_cons {property : Token} {name : String} {input after : List Token}
    {type : TypeExpr} (hproperty : property.propertyName? = some name)
    (htype : TypeExpr.readType input = some (type, .mark .semicolon :: after)) :
    readMembers (property :: .mark .colon :: input) =
      (readMembers after).map (Prod.map ((name, type) :: ·) id) := by
  have hmark : ∀ mark, property ≠ .mark mark := by
    rintro mark rfl
    cases hproperty
  rw [readMembers.eq_def]
  split
  · rename_i rest heq
    exact absurd (List.cons.inj heq).1 (hmark _)
  · rename_i other rest heq
    cases heq
    split
    · rename_i found read more hfound hread
      rw [hproperty] at hfound
      rw [htype] at hread
      cases hfound
      cases hread
      rfl
    · rename_i hnone
      exact absurd htype (hnone name type after hproperty)
  · rename_i hother
    exact absurd rfl (hother property input)

/-- Members read back from their tokens, up to the mark behind the last. -/
theorem readMembers_memberTokens {members : List (String × TypeExpr)}
    (h : ∀ member ∈ members, member.2.Normal) (rest : List Token) :
    readMembers (members.flatMap memberTokens ++ .mark .closeBrace :: rest) =
      some (members, rest) := by
  induction members with
  | nil => rw [List.flatMap_nil, List.nil_append, readMembers]
  | cons member members ih =>
    rw [List.forall_mem_cons] at h
    have htype := TypeExpr.readType_tokens h.1 (TypeExpr.endsType_semicolon
      (members.flatMap memberTokens ++ .mark .closeBrace :: rest))
    have hsplit : (member :: members).flatMap memberTokens ++ .mark .closeBrace :: rest =
        propertyToken member.1 :: .mark .colon :: (member.2.tokens ++ .mark .semicolon ::
          (members.flatMap memberTokens ++ .mark .closeBrace :: rest)) := by
      simp [memberTokens]
    rw [hsplit, readMembers_cons (propertyName?_propertyToken member.1) htype, ih h.2]
    rfl

/-- A text with the tokens of a unit reads back as the unit. -/
theorem readUnit_of_tokens {text : String} {imports : List String} {typeName : String}
    {members : List (String × TypeExpr)}
    (htext : tokens text.toList = some (unitTokens imports typeName members))
    (hmembers : ∀ member ∈ members, member.2.Normal) :
    readUnit text = some {
      imports := imports.map fun identifier => (identifier, importPath identifier)
      typeName := typeName
      members := members } := by
  have hrest := readMembers_memberTokens hmembers [.mark .semicolon]
  rw [readUnit, htext, unitTokens]
  simp only [Option.bind_eq_bind, Option.bind_some, readImports_importTokens,
    readImports_headingTokens, List.append_nil]
  rw [headingTokens]
  simp only [List.cons_append, List.nil_append, readHeading, Option.bind_some, hrest, if_true]

/-! ### The lines of a unit -/

theorem isIdentifierPart_of_mem {name : String} (h : isIdentifier name) {c : Char}
    (hc : c ∈ name.toList) : isIdentifierPart c := by
  rw [isIdentifier] at h
  cases hlist : name.toList with
  | nil =>
    rw [hlist] at hc
    cases hc
  | cons first rest =>
    simp only [hlist, isIdentifierText, Bool.and_eq_true, List.all_eq_true] at h
    rw [hlist] at hc
    rcases List.mem_cons.mp hc with rfl | hrest
    · exact isIdentifierPart_of_isIdentifierStart h.1
    · exact h.2 c hrest

/-- Nothing in an identifier has to be escaped. -/
theorem escapedText_of_isIdentifierPart {text : List Char}
    (h : ∀ c ∈ text, isIdentifierPart c = true) : escapedText doubleQuote text = text := by
  induction text with
  | nil => rfl
  | cons c text ih =>
    rw [List.forall_mem_cons] at h
    have hc := forall_ascii (P := fun c => isIdentifierPart c = true →
      escapedChar doubleQuote c = [c]) (by decide) (toNat_lt_of_isIdentifierPart h.1) h.1
    rw [escapedText_cons, hc, ih h.2, List.singleton_append]

/-- Nothing in the path of a declared type has to be escaped. -/
theorem escaped_importPath {identifier : String} (h : isIdentifier identifier) :
    escaped (importPath identifier) doubleQuote = importPath identifier := by
  have hpath : (importPath identifier).toList = '.' :: '/' :: identifier.toList := by
    simp [importPath]
  have htext := escapedText_of_isIdentifierPart fun c hc => isIdentifierPart_of_mem h hc
  rw [← String.toList_inj, toList_escaped, hpath, escapedText_cons, escapedText_cons, htext]
  rfl

theorem lexes_importLine {identifier : String} (h : isIdentifier identifier) :
    Lexes (importLine identifier).toList (importTokens identifier) := by
  intro rest
  have htext : (importLine identifier).toList ++ rest =
      "import".toList ++ ' ' :: ("type".toList ++ ' ' :: '\x7b' :: ' ' :: (identifier.toList ++
        ' ' :: '\x7d' :: ' ' :: ("from".toList ++ ' ' :: doubleQuote ::
          ((escaped (importPath identifier) doubleQuote).toList ++
            doubleQuote :: ';' :: '\n' :: rest)))) := by
    rw [escaped_importPath h]
    delta importLine importPath
    simp [doubleQuote]
  rw [htext, tokens_word rfl (endsWord_space _), tokens_space,
    tokens_word rfl (endsWord_space _), tokens_space, tokens_mark rfl, tokens_space,
    tokens_word h (endsWord_space _), tokens_space, tokens_mark rfl, tokens_space,
    tokens_word rfl (endsWord_space _), tokens_space, tokens_quoted rfl, tokens_mark rfl,
    tokens_feed]
  simp [importTokens, Function.comp_def]

theorem lexes_importLines {identifiers : List String}
    (h : ∀ identifier ∈ identifiers, isIdentifier identifier) :
    Lexes (importLines identifiers).toList (identifiers.flatMap importTokens) := by
  cases identifiers with
  | nil => exact Lexes.nil
  | cons first rest =>
    have hlines : Lexes ((first :: rest).flatMap fun identifier => (importLine identifier).toList)
        ((first :: rest).flatMap importTokens) :=
      .flatMap fun identifier hmem => lexes_importLine (h identifier hmem)
    intro more
    have htext : (importLines (first :: rest)).toList ++ more =
        ((first :: rest).flatMap fun identifier => (importLine identifier).toList) ++
          '\n' :: more := by
      simp [importLines, List.flatMap_map]
    rw [htext, hlines, tokens_feed]

theorem lexes_heading {typeName : String} (h : isIdentifier typeName) :
    Lexes ("export type " ++ typeName ++ " = \x7b\n").toList (headingTokens typeName) := by
  intro rest
  have htext : ("export type " ++ typeName ++ " = \x7b\n").toList ++ rest =
      "export".toList ++ ' ' :: ("type".toList ++ ' ' :: (typeName.toList ++
        ' ' :: '=' :: ' ' :: '\x7b' :: '\n' :: rest)) := by
    simp
  rw [htext, tokens_word rfl (endsWord_space _), tokens_space,
    tokens_word rfl (endsWord_space _), tokens_space, tokens_word h (endsWord_space _),
    tokens_space, tokens_mark rfl, tokens_space, tokens_mark rfl, tokens_feed]
  simp [headingTokens, Function.comp_def]

/-- The name of a property gives one token, whatever the name. -/
theorem lexesBefore_propertyName (name : String) :
    LexesBefore (propertyName name).toList [propertyToken name] := by
  intro rest hrest
  unfold propertyName propertyToken
  split
  · rename_i h
    rw [tokens_word h hrest]
    rfl
  · have htext : ("\"" ++ escaped name doubleQuote ++ "\"").toList ++ rest =
        doubleQuote :: ((escaped name doubleQuote).toList ++ doubleQuote :: rest) := by
      simp [doubleQuote]
    rw [htext, tokens_quoted rfl]
    rfl

/-- The line of a member gives the tokens of the member. -/
theorem lexes_memberLine (name : String) {type : TypeExpr} (h : type.Normal) :
    Lexes ("  " ++ propertyName name ++ ": " ++ type.text ++ ";\n").toList
      (memberTokens (name, type)) := by
  intro rest
  have htext : ("  " ++ propertyName name ++ ": " ++ type.text ++ ";\n").toList ++ rest =
      ' ' :: ' ' :: ((propertyName name).toList ++ ':' :: ' ' :: (type.text.toList ++
        ';' :: '\n' :: rest)) := by
    simp
  rw [htext, tokens_space, tokens_space, lexesBefore_propertyName name _ (endsWord_cons rfl _),
    tokens_mark rfl, tokens_space, TypeExpr.lexesBefore_text h _ (endsWord_cons rfl _),
    tokens_mark rfl, tokens_feed]
  simp [memberTokens, Function.comp_def]

theorem lexes_end : Lexes "\x7d;\n".toList [.mark .closeBrace, .mark .semicolon] := by
  intro rest
  have htext : "\x7d;\n".toList ++ rest = '\x7d' :: ';' :: '\n' :: rest := by simp
  rw [htext, tokens_mark rfl, tokens_mark rfl, tokens_feed]
  simp [Function.comp_def]

end TypedCatalog
