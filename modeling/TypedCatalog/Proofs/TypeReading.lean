import TypedCatalog.Proofs.Tokens
import TypedCatalog.Proofs.UnionMembers

/-!
# Reading types

`readType` reads a type off the front of a list of tokens. A type is normal if its unions have two
members or more, none of them a union, and what it refers to can be the name of a declared type. The
text of a normal type gives its tokens (`TypeExpr.lexesBefore_text`), and these read back as the
type (`TypeExpr.readType_tokens`), so that the type reads back from its text
(`TypeExpr.ofText?_text`).
-/

namespace TypedCatalog

open Naming Text

namespace TypeExpr

/-! ### Normal types -/

mutual

/-- Whether a type can be told from its text. -/
def Normal : TypeExpr → Prop
  | keyword _ => True
  | reference identifier => IsTypeName identifier
  | indexedAccess object _ => IsTypeName object
  | literal _ => True
  | array item => Normal item
  | union members => 2 ≤ members.length ∧ NormalMembers members

/-- Whether types can be told from their texts and none is a union. -/
def NormalMembers : List TypeExpr → Prop
  | [] => True
  | member :: rest => (member.isUnion = false ∧ Normal member) ∧ NormalMembers rest

end

/-! ### The tokens of a type -/

/-- The tokens of an array type, given those of its items. -/
def arrayTokens (item : TypeExpr) (inner : List Token) : List Token :=
  if item.isUnion then
    .mark .openGroup :: (inner ++ [.mark .closeGroup, .mark .openBracket, .mark .closeBracket])
  else inner ++ [.mark .openBracket, .mark .closeBracket]

mutual

/-- The tokens of a type. -/
def tokens : TypeExpr → List Token
  | keyword word => [.word word.text]
  | reference identifier => [.word identifier]
  | indexedAccess object key =>
    [.word object, .mark .openBracket, .quoted doubleQuote key, .mark .closeBracket]
  | literal text => [.quoted singleQuote text]
  | array item => arrayTokens item item.tokens
  | union [] => []
  | union (first :: rest) => first.tokens ++ furtherTokens rest

/-- The tokens of the further members of a union. -/
def furtherTokens : List TypeExpr → List Token
  | [] => []
  | member :: rest => .mark .bar :: (member.tokens ++ furtherTokens rest)

end

theorem isIdentifier_text (word : Keyword) : isIdentifier word.text := by
  cases word <;> rfl

/-- What comes after a member of a union does not go on with a word. -/
theorem endsWord_furtherText (rest : List TypeExpr) : EndsWord (furtherText rest).toList := by
  cases rest with
  | nil => simp [furtherText, EndsWord]
  | cons member rest => simp [furtherText, EndsWord, show isIdentifierPart ' ' = false by decide]

mutual

/-- The text of a normal type gives its tokens. -/
theorem lexesBefore_text : ∀ {type : TypeExpr}, type.Normal →
    LexesBefore type.text.toList type.tokens
  | keyword word, _ => by
    intro rest hrest
    rw [text, tokens, tokens_word (isIdentifier_text word) hrest]
    rfl
  | reference identifier, h => by
    intro rest hrest
    have hname : IsTypeName identifier := h
    rw [text, tokens, tokens_word hname.isIdentifier hrest]
    rfl
  | indexedAccess object key, h => by
    intro rest hrest
    have hobject : IsTypeName object := h
    have htext : (indexedAccess object key).text.toList ++ rest =
        object.toList ++ '[' :: doubleQuote :: ((escaped key doubleQuote).toList ++
          doubleQuote :: ']' :: rest) := by
      simp [text, doubleQuote]
    rw [htext, tokens_word hobject.isIdentifier (endsWord_cons rfl _), tokens_mark rfl,
      tokens_quoted rfl, tokens_mark rfl]
    simp [tokens, Function.comp_def]
  | literal text, _ => by
    intro rest hrest
    have htext : (literal text).text.toList ++ rest =
        singleQuote :: ((escaped text singleQuote).toList ++ singleQuote :: rest) := by
      simp [TypeExpr.text, singleQuote]
    rw [htext, tokens_quoted rfl]
    rfl
  | array item, h => by
    have hitem : LexesBefore item.text.toList item.tokens := lexesBefore_text h
    intro rest hrest
    rw [text, tokens, arrayText, arrayTokens]
    split
    · have htext : ("(" ++ item.text ++ ")[]").toList ++ rest =
          '(' :: (item.text.toList ++ ')' :: '[' :: ']' :: rest) := by simp
      rw [htext, tokens_mark rfl, hitem _ (endsWord_cons rfl _), tokens_mark rfl,
        tokens_mark rfl, tokens_mark rfl]
      simp [Function.comp_def]
    · have htext : (item.text ++ "[]").toList ++ rest =
          item.text.toList ++ '[' :: ']' :: rest := by simp
      rw [htext, hitem _ (endsWord_cons rfl _), tokens_mark rfl, tokens_mark rfl]
      simp [Function.comp_def]
  | union [], h => absurd h.1 (by decide)
  | union (first :: rest), h => by
    have hfirst : LexesBefore first.text.toList first.tokens := lexesBefore_text h.2.1.2
    have hrest : LexesBefore (furtherText rest).toList (furtherTokens rest) :=
      lexesBefore_furtherText h.2.2
    rw [text, tokens, String.toList_append]
    exact hfirst.append hrest (endsWord_furtherText rest)

/-- The text of further members gives their tokens. -/
theorem lexesBefore_furtherText : ∀ {rest : List TypeExpr}, NormalMembers rest →
    LexesBefore (furtherText rest).toList (furtherTokens rest)
  | [], _ => by
    rw [furtherText, furtherTokens]
    exact Lexes.nil.before
  | member :: rest, h => by
    have hmember : LexesBefore member.text.toList member.tokens := lexesBefore_text h.1.2
    have hrest : LexesBefore (furtherText rest).toList (furtherTokens rest) :=
      lexesBefore_furtherText h.2
    have hboth := hmember.append hrest (endsWord_furtherText rest)
    intro more hmore
    have htext : (furtherText (member :: rest)).toList ++ more =
        ' ' :: '|' :: ' ' :: (member.text.toList ++ (furtherText rest).toList ++ more) := by
      simp [furtherText]
    rw [htext, tokens_space, tokens_mark rfl, tokens_space,
      hboth more hmore, furtherTokens]
    simp [Function.comp_def]

end

/-! ### The reader -/

/-- The keywords. -/
def keywords : List Keyword := [.boolean, .number, .string, .any, .never, .null]

/-- The type that a word stands for. -/
def ofWord (name : String) : TypeExpr :=
  match keywords.find? (·.text == name) with
  | some word => keyword word
  | none => reference name

mutual

/-- Reads on where a member of a union has to come. The members of the union that were read are
`group`, and those of the unions around it `outer`. -/
def readOperand (outer : List (List TypeExpr)) (group : List TypeExpr) :
    List Token → Option (TypeExpr × List Token)
  | .mark .openGroup :: rest => readOperand (group :: outer) [] rest
  | .word name :: rest => readSuffix outer group (ofWord name) rest
  | .quoted quote text :: rest =>
    if quote = singleQuote then readSuffix outer group (literal text) rest else none
  | _ => none

/-- Reads on after `item`, which can be what an array or an indexed access begins with. -/
def readSuffix (outer : List (List TypeExpr)) (group : List TypeExpr) (item : TypeExpr) :
    List Token → Option (TypeExpr × List Token)
  | .mark .openBracket :: .mark .closeBracket :: rest => readSuffix outer group (array item) rest
  | .mark .openBracket :: .quoted _ key :: .mark .closeBracket :: rest =>
    match item with
    | reference object => readSuffix outer group (indexedAccess object key) rest
    | _ => none
  | .mark .bar :: rest => readOperand outer (group ++ [item]) rest
  | .mark .closeGroup :: rest =>
    match outer with
    | [] => none
    | enclosing :: outer => readSuffix outer enclosing (ofMembers (group ++ [item])) rest
  | rest =>
    match outer with
    | [] => some (ofMembers (group ++ [item]), rest)
    | _ :: _ => none

end

/-- Reads a type off the front of a list of tokens. -/
def readType (input : List Token) : Option (TypeExpr × List Token) := readOperand [] [] input

mutual

theorem length_readOperand {outer : List (List TypeExpr)} {group : List TypeExpr}
    {input rest : List Token} {type : TypeExpr}
    (h : readOperand outer group input = some (type, rest)) : rest.length ≤ input.length := by
  unfold readOperand at h
  split at h
  · exact Nat.le_succ_of_le (length_readOperand h)
  · exact Nat.le_succ_of_le (length_readSuffix h)
  · split at h
    · exact Nat.le_succ_of_le (length_readSuffix h)
    · cases h
  · cases h
termination_by input.length

/-- What is left after a type is no longer than what it was read from. -/
theorem length_readSuffix {outer : List (List TypeExpr)} {group : List TypeExpr} {item : TypeExpr}
    {input rest : List Token} {type : TypeExpr}
    (h : readSuffix outer group item input = some (type, rest)) : rest.length ≤ input.length := by
  unfold readSuffix at h
  split at h
  · exact Nat.le_succ_of_le (Nat.le_succ_of_le (length_readSuffix h))
  · split at h
    · exact Nat.le_succ_of_le (Nat.le_succ_of_le (Nat.le_succ_of_le (length_readSuffix h)))
    · cases h
  · exact Nat.le_succ_of_le (length_readOperand h)
  · split at h
    · cases h
    · exact Nat.le_succ_of_le (length_readSuffix h)
  · split at h
    · cases h
      exact Nat.le_refl _
    · cases h
termination_by input.length

end

/-! ### Reading what was written -/

/-- What a list of tokens begins with does not go on with a type before it. -/
def EndsType (rest : List Token) : Prop :=
  ∀ mark ∈ [Mark.openBracket, .bar, .closeGroup], rest.head? ≠ some (.mark mark)

theorem endsType_semicolon (rest : List Token) : EndsType (.mark .semicolon :: rest) := by
  intro mark hmark h
  obtain rfl : Mark.semicolon = mark := by simpa using h
  exact absurd hmark (by decide)

theorem readSuffix_of_endsType {rest : List Token} (h : EndsType rest) (group : List TypeExpr)
    (item : TypeExpr) : readSuffix [] group item rest = some (ofMembers (group ++ [item]), rest) := by
  unfold readSuffix
  split
  · exact absurd rfl (h .openBracket (by decide))
  · exact absurd rfl (h .openBracket (by decide))
  · exact absurd rfl (h .bar (by decide))
  · exact absurd rfl (h .closeGroup (by decide))
  · rfl

theorem ofWord_text (word : Keyword) : ofWord word.text = keyword word := by
  cases word <;> rfl

theorem ofWord_of_isTypeName {name : String} (h : IsTypeName name) : ofWord name = reference name := by
  have hnone : keywords.find? (·.text == name) = none := by
    rw [List.find?_eq_none]
    intro word _ hword
    exact h.ne_keyword word (beq_iff_eq.mp hword).symm
  rw [ofWord, hnone]

/-- The members of a normal type stand for it. -/
theorem ofMembers_members {type : TypeExpr} (h : type.Normal) : ofMembers type.members = type := by
  cases type with
  | union members => exact ofMembers_of_two_le h.1
  | keyword | reference | indexedAccess | literal | array => rfl

/-- The reader has come to the last of `members`, in front of `rest`. -/
def AtLast (outer : List (List TypeExpr)) (members : List TypeExpr) (rest : List Token)
    (found : Option (TypeExpr × List Token)) : Prop :=
  ∃ group last, group ++ [last] = members ∧ found = readSuffix outer group last rest

theorem AtLast.eq_readSuffix {outer : List (List TypeExpr)} {group : List TypeExpr}
    {item : TypeExpr} {rest : List Token} {found : Option (TypeExpr × List Token)}
    (h : AtLast outer (group ++ [item]) rest found) : found = readSuffix outer group item rest := by
  obtain ⟨inner, last, hmembers, hfound⟩ := h
  obtain ⟨rfl, hlast⟩ := List.append_inj' hmembers rfl
  obtain rfl := List.singleton_inj.mp hlast
  exact hfound

mutual

/-- The reader takes the tokens of a normal type for its members, wherever a member has to come. -/
theorem atLast_tokens : ∀ {type : TypeExpr}, type.Normal →
    ∀ (outer : List (List TypeExpr)) (group : List TypeExpr) (rest : List Token),
      AtLast outer (group ++ type.members) rest (readOperand outer group (type.tokens ++ rest))
  | keyword word, _, outer, group, rest => by
    refine ⟨group, keyword word, rfl, ?_⟩
    rw [tokens, List.singleton_append, readOperand, ofWord_text]
  | reference identifier, h, outer, group, rest => by
    refine ⟨group, reference identifier, rfl, ?_⟩
    rw [tokens, List.singleton_append, readOperand, ofWord_of_isTypeName h]
  | indexedAccess object key, h, outer, group, rest => by
    refine ⟨group, indexedAccess object key, rfl, ?_⟩
    have hobject : ofWord object = reference object := ofWord_of_isTypeName h
    rw [tokens, List.cons_append, readOperand, hobject]
    rfl
  | literal text, _, outer, group, rest => by
    refine ⟨group, literal text, rfl, ?_⟩
    rw [tokens, List.singleton_append, readOperand, if_pos rfl]
  | array item, h, outer, group, rest => by
    refine ⟨group, array item, rfl, ?_⟩
    have hitem : item.Normal := h
    rw [tokens, arrayTokens]
    split
    · obtain ⟨inner, last, hmembers, hread⟩ := atLast_tokens hitem (group :: outer) []
        (.mark .closeGroup :: .mark .openBracket :: .mark .closeBracket :: rest)
      rw [List.nil_append] at hmembers
      rw [List.cons_append, readOperand, List.append_assoc]
      refine hread.trans ?_
      rw [readSuffix, hmembers, ofMembers_members hitem, readSuffix]
    · rename_i hplain
      have hread := atLast_tokens hitem outer group
        (.mark .openBracket :: .mark .closeBracket :: rest)
      rw [members_of_isUnion_eq_false (by simpa using hplain)] at hread
      rw [List.append_assoc]
      refine hread.eq_readSuffix.trans ?_
      rw [readSuffix]
  | union [], h, _, _, _ => absurd h.1 (by decide)
  | union (first :: more), h, outer, group, rest => by
    have hread := atLast_tokens h.2.1.2 outer group (furtherTokens more ++ rest)
    rw [members_of_isUnion_eq_false h.2.1.1] at hread
    rw [tokens, List.append_assoc, hread.eq_readSuffix]
    exact atLast_furtherTokens h.2.2 outer group first rest

/-- The reader takes the tokens of further members for these members. -/
theorem atLast_furtherTokens : ∀ {members : List TypeExpr}, NormalMembers members →
    ∀ (outer : List (List TypeExpr)) (group : List TypeExpr) (item : TypeExpr) (rest : List Token),
      AtLast outer (group ++ item :: members) rest
        (readSuffix outer group item (furtherTokens members ++ rest))
  | [], _, outer, group, item, rest => ⟨group, item, rfl, by rw [furtherTokens, List.nil_append]⟩
  | member :: members, h, outer, group, item, rest => by
    have hread := atLast_tokens h.1.2 outer (group ++ [item]) (furtherTokens members ++ rest)
    rw [members_of_isUnion_eq_false h.1.1] at hread
    have hrest := atLast_furtherTokens h.2 outer (group ++ [item]) member rest
    rw [List.append_assoc] at hrest
    rw [furtherTokens, List.cons_append, readSuffix, List.append_assoc, hread.eq_readSuffix]
    exact hrest

end

/-- A normal type reads back from its tokens, in front of anything that does not go on with it. -/
theorem readType_tokens {type : TypeExpr} (h : type.Normal) {rest : List Token}
    (hrest : EndsType rest) : readType (type.tokens ++ rest) = some (type, rest) := by
  obtain ⟨group, last, hmembers, hread⟩ := atLast_tokens h [] [] rest
  rw [List.nil_append] at hmembers
  rw [readType, hread, readSuffix_of_endsType hrest, hmembers, ofMembers_members h]

/-- The type that a text writes, if it writes nothing else. -/
def ofText? (text : String) : Option TypeExpr :=
  match (TypedCatalog.tokens text.toList).bind readType with
  | some (type, []) => some type
  | _ => none

/-- A normal type reads back from its text. -/
theorem ofText?_text {type : TypeExpr} (h : type.Normal) : ofText? type.text = some type := by
  have hread := readType_tokens h (show EndsType [] by simp [EndsType])
  rw [List.append_nil] at hread
  rw [ofText?, (lexesBefore_text h).tokens_eq, Option.bind_some, hread]

/-- Normal types of one text are one type. -/
theorem Normal.eq_of_text_eq {type other : TypeExpr} (htype : type.Normal) (hother : other.Normal)
    (h : type.text = other.text) : type = other := by
  have hread := ofText?_text htype
  rw [h, ofText?_text hother] at hread
  exact (Option.some.inj hread).symm

end TypeExpr

end TypedCatalog
