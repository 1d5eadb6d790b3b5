/-!
# Lengths in bytes

Places in a text and the lengths of its parts may be counted in the bytes of UTF-8. `byteLength`
counts them, and `dropBytes?` cuts a text after so many of them, if a character ends there: it does
so exactly for the texts that begin with a part of that many bytes (`dropBytes?_eq_some`).
-/

namespace TypedCatalog.Text

/-- The number of bytes of a text. -/
def byteLength : List Char → Nat
  | [] => 0
  | c :: rest => c.utf8Size + byteLength rest

/-- The text without a first part of exactly `n` bytes, if a character ends there. -/
def dropBytes? : (n : Nat) → List Char → Option (List Char)
  | 0, text => some text
  | _ + 1, [] => none
  | n + 1, c :: rest => if c.utf8Size ≤ n + 1 then dropBytes? (n + 1 - c.utf8Size) rest else none

/-- The text without a last part of exactly `n` bytes, if a character begins there. -/
def dropBytesEnd? (n : Nat) (text : List Char) : Option (List Char) :=
  (dropBytes? n text.reverse).map List.reverse

@[simp] theorem byteLength_nil : byteLength [] = 0 := rfl

@[simp] theorem byteLength_cons (c : Char) (text : List Char) :
    byteLength (c :: text) = c.utf8Size + byteLength text := rfl

@[simp] theorem byteLength_append (s t : List Char) :
    byteLength (s ++ t) = byteLength s + byteLength t := by
  induction s with
  | nil => simp
  | cons c s ih => simp [ih, Nat.add_assoc]

@[simp] theorem byteLength_reverse (text : List Char) :
    byteLength text.reverse = byteLength text := by
  induction text with
  | nil => rfl
  | cons c text ih => simp [ih, Nat.add_comm]

/-- A string has as many bytes as its characters. -/
theorem byteLength_toList (s : String) : byteLength s.toList = s.utf8ByteSize := by
  have h : ∀ text : List Char, byteLength text = (String.ofList text).utf8ByteSize := by
    intro text
    induction text with
    | nil => rfl
    | cons c text ih =>
      rw [byteLength_cons, ih, ← List.singleton_append, String.ofList_append,
        String.utf8ByteSize_append]
      simp
  rw [h, String.ofList_toList]

theorem dropBytes?_append (part rest : List Char) :
    dropBytes? (byteLength part) (part ++ rest) = some rest := by
  induction part with
  | nil => rw [byteLength_nil, List.nil_append, dropBytes?]
  | cons c part ih =>
    have hpos : 0 < c.utf8Size + byteLength part := Nat.add_pos_left c.utf8Size_pos _
    obtain ⟨n, hn⟩ := Nat.exists_eq_add_one.mpr hpos
    have hrest : n + 1 - c.utf8Size = byteLength part := by omega
    rw [byteLength_cons, hn, List.cons_append, dropBytes?, if_pos (by omega), hrest, ih]

theorem exists_append_of_dropBytes? {n : Nat} {text rest : List Char}
    (h : dropBytes? n text = some rest) : ∃ part, part ++ rest = text ∧ byteLength part = n := by
  fun_induction dropBytes? n text with
  | case1 text => exact ⟨[], by simpa using (Option.some.inj h).symm, rfl⟩
  | case2 n => cases h
  | case3 n c text hfits ih =>
    obtain ⟨part, rfl, hn⟩ := ih h
    refine ⟨c :: part, rfl, ?_⟩
    simp only [byteLength_cons]
    omega
  | case4 n c text hlonger => cases h

/-- Cutting takes off a first part of exactly so many bytes. -/
theorem dropBytes?_eq_some {n : Nat} {text rest : List Char} :
    dropBytes? n text = some rest ↔ ∃ part, part ++ rest = text ∧ byteLength part = n := by
  constructor
  · exact exists_append_of_dropBytes?
  · rintro ⟨part, rfl, rfl⟩
    exact dropBytes?_append part rest

/-- Cutting at the end takes off a last part of exactly so many bytes. -/
theorem dropBytesEnd?_eq_some {n : Nat} {text rest : List Char} :
    dropBytesEnd? n text = some rest ↔ ∃ part, rest ++ part = text ∧ byteLength part = n := by
  rw [dropBytesEnd?, Option.map_eq_some_iff]
  simp only [dropBytes?_eq_some]
  constructor
  · rintro ⟨back, ⟨part, htext, hn⟩, rfl⟩
    refine ⟨part.reverse, ?_, (byteLength_reverse part).trans hn⟩
    rw [← List.reverse_append, htext, List.reverse_reverse]
  · rintro ⟨part, rfl, hn⟩
    exact ⟨rest.reverse, ⟨part.reverse, (List.reverse_append).symm,
      (byteLength_reverse part).trans hn⟩, List.reverse_reverse rest⟩

end TypedCatalog.Text
