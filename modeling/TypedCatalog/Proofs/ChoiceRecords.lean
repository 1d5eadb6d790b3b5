import TypedCatalog.Proofs.Documents

/-!
# The choices of a document's fields

What the options of a field say about its choices (`Snapshot.Says`) is what a lookup of that field
ends in, and a lookup of anything else finds nothing (`Snapshot.lookup_exact`). Choices that cannot
be read are a failed query of their own field.
-/

namespace TypedCatalog.Snapshot

open Json

/-- What the options of a field say about its choices: the choices, or none, or why the choices
cannot be read. -/
inductive Says : Option Value → Except String (Option (List Choice)) → Prop where
  /-- There are no options. -/
  | absent : Says none (.ok none)
  /-- The options are no object. -/
  | noObject {options : Value} (h : ∀ members, options ≠ .object members) :
    Says (some options) (.ok none)
  /-- There are no choices among the options. -/
  | missing {members : List (String × Value)} (h : ∀ member ∈ members, member.1 ≠ "choices") :
    Says (some (.object members)) (.ok none)
  /-- There is null in the place of choices. -/
  | null {options : Value} (h : options.member? "choices" = some .null) :
    Says (some options) (.ok none)
  /-- The choices cannot be read. -/
  | unreadable {options value : Value} {reason : Reason}
    (h : options.member? "choices" = some value) (there : value ≠ .null)
    (decoded : Choice.listOfValue value = .error reason) :
    Says (some options) (.error ("invalid choices: " ++ reason.message))
  /-- The choices can be read. -/
  | choices {options value : Value} {choices : List Choice}
    (h : options.member? "choices" = some value) (there : value ≠ .null)
    (decoded : Choice.listOfValue value = .ok choices) :
    Says (some options) (.ok (some choices))

/-- What a lookup ends in if the options of the field say so much. -/
def lookupOf : Except String (Option (List Choice)) → LookupResult
  | .ok none => .ok none
  | .ok (some choices) => .ok (some ⟨some choices⟩)
  | .error message => .error (.query message)

/-- Without a member for them, or with null in it, options say nothing about choices. -/
theorem choicesOf_of_nothing {options : Value}
    (h : options.member? "choices" = none ∨ options.member? "choices" = some .null) :
    choicesOf (some options) = .ok none := by
  unfold choicesOf
  rw [Option.bind_some]
  rcases h with h | h <;> rw [h]

/-- A member that is not null is decoded. -/
theorem choicesOf_of_member {options value : Value} (h : options.member? "choices" = some value)
    (there : value ≠ .null) :
    choicesOf (some options) = match Choice.listOfValue value with
      | .ok choices => .ok (some choices)
      | .error reason => .error ("invalid choices: " ++ reason.message) := by
  unfold choicesOf
  rw [Option.bind_some, h]
  cases value with
  | null => exact absurd rfl there
  | boolean | number | text | list | object => rfl

theorem member?_eq_none_iff {key : String} {value : Value} :
    value.member? key = none ↔ (∀ members, value ≠ .object members) ∨
      ∃ members, value = .object members ∧ ∀ member ∈ members, member.1 ≠ key := by
  cases value with
  | object members => simp [Value.member?, List.find?_eq_none]
  | null | boolean | number | text | list => simp [Value.member?]

/-- Options say one thing, that which is read off them. -/
theorem says_iff {options : Option Value} {said : Except String (Option (List Choice))} :
    Says options said ↔ choicesOf options = said := by
  constructor
  · rintro (_ | h | h | h | ⟨h, there, decoded⟩ | ⟨h, there, decoded⟩)
    · rfl
    · exact choicesOf_of_nothing (.inl (member?_eq_none_iff.mpr (.inl h)))
    · exact choicesOf_of_nothing (.inl (member?_eq_none_iff.mpr (.inr ⟨_, rfl, h⟩)))
    · exact choicesOf_of_nothing (.inr h)
    · rw [choicesOf_of_member h there, decoded]
    · rw [choicesOf_of_member h there, decoded]
  · rintro rfl
    cases options with
    | none => exact .absent
    | some options =>
      cases hmember : options.member? "choices" with
      | none =>
        rw [choicesOf_of_nothing (.inl hmember)]
        obtain h | ⟨members, rfl, h⟩ := member?_eq_none_iff.mp hmember
        · exact .noObject h
        · exact .missing h
      | some value =>
        by_cases there : value = .null
        · rw [choicesOf_of_nothing (.inr (there ▸ hmember))]
          exact .null (there ▸ hmember)
        · rw [choicesOf_of_member hmember there]
          cases decoded : Choice.listOfValue value with
          | ok choices => exact .choices hmember there decoded
          | error reason => exact .unreadable hmember there decoded

/-! ### Records -/

/-- A field is recorded exactly if its options say something about choices. -/
theorem FieldEntry.record?_eq_some {entry : FieldEntry} {record : ChoiceRecord} :
    entry.record? = some record ↔ record.key = entry.key ∧ Says entry.options record.choices ∧
      record.choices ≠ .ok none := by
  rw [says_iff]
  unfold record?
  obtain ⟨key, choices⟩ := record
  split
  · rename_i hnone
    simp only [reduceCtorEq, hnone, false_iff, not_and, not_not]
    exact fun _ h => h.symm
  · rename_i hsome
    simp only [Option.some.injEq, ChoiceRecord.mk.injEq]
    constructor
    · rintro ⟨rfl, rfl⟩
      exact ⟨rfl, rfl, hsome⟩
    · rintro ⟨rfl, rfl, -⟩
      exact ⟨rfl, rfl⟩

theorem FieldEntry.isSome_record? {entry : FieldEntry} :
    entry.record?.isSome = true ↔ ¬ Says entry.options (.ok none) := by
  simp only [Option.isSome_iff_exists, record?_eq_some, says_iff]
  constructor
  · rintro ⟨record, -, hsaid, hne⟩ hnone
    exact hne (hsaid.symm.trans hnone)
  · intro hne
    exact ⟨⟨entry.key, choicesOf entry.options⟩, rfl, rfl, hne⟩

section Records

variable {fields : List FieldEntry} (h : (fields.map FieldEntry.key).Nodup)
include h

/-- No two records are of one field. -/
theorem nodup_records : ((fields.filterMap FieldEntry.record?).map ChoiceRecord.key).Nodup := by
  refine List.pairwise_map.mpr ((List.pairwise_map.mp h).filterMap _ ?_)
  intro entry other hne record hrecord otherRecord hother
  rw [(FieldEntry.record?_eq_some.mp hrecord).1, (FieldEntry.record?_eq_some.mp hother).1]
  exact hne

/-- The record of a field is found under the field's key. -/
theorem find?_record {entry : FieldEntry} (hentry : entry ∈ fields) :
    (ChoiceTable.ofRecords (fields.filterMap FieldEntry.record?)).find? entry.key =
      entry.record? := by
  refine Option.ext fun record => ?_
  rw [ChoiceTable.find?_ofRecords (nodup_records h), List.mem_filterMap]
  constructor
  · rintro ⟨⟨other, hother, hrecord⟩, hkey⟩
    rw [(FieldEntry.record?_eq_some.mp hrecord).1] at hkey
    rwa [List.inj_on_of_nodup_map h hother hentry hkey] at hrecord
  · intro hrecord
    exact ⟨⟨entry, hentry, hrecord⟩, (FieldEntry.record?_eq_some.mp hrecord).1⟩

/-- There is no record under any other key. -/
theorem find?_eq_none {key : FieldKey} (hkey : key ∉ fields.map FieldEntry.key) :
    (ChoiceTable.ofRecords (fields.filterMap FieldEntry.record?)).find? key = none := by
  rw [Option.eq_none_iff_forall_ne_some]
  intro record hrecord
  rw [ChoiceTable.find?_ofRecords (nodup_records h), List.mem_filterMap] at hrecord
  obtain ⟨⟨entry, hentry, hrecord⟩, rfl⟩ := hrecord
  rw [(FieldEntry.record?_eq_some.mp hrecord).1] at hkey
  exact hkey (List.mem_map_of_mem hentry)

/-- A lookup of a field ends in what its options say. -/
theorem source_of_mem {entry : FieldEntry} (hentry : entry ∈ fields) :
    (ChoiceTable.ofRecords (fields.filterMap FieldEntry.record?)).source entry.key =
      ⟨none, lookupOf (choicesOf entry.options)⟩ := by
  unfold ChoiceTable.source
  rw [find?_record h hentry, FieldEntry.record?]
  rcases choicesOf entry.options with message | - | choices <;> rfl

/-- A lookup of anything else finds nothing. -/
theorem source_of_not_mem {key : FieldKey} (hkey : key ∉ fields.map FieldEntry.key) :
    (ChoiceTable.ofRecords (fields.filterMap FieldEntry.record?)).source key =
      ⟨none, .ok none⟩ := by
  unfold ChoiceTable.source
  rw [find?_eq_none h hkey]

end Records

/-- The choices of a document reach their own fields. A lookup of a field finds nothing if its
options say nothing about choices, fails as a query with the field's own message if its choices
cannot be read, and otherwise finds its choices in order; a lookup of anything else finds nothing.
There is one record for every field whose options say something and for no other, in the order of
the document, with either choices or a message, and as many entries in the table as there are
records. -/
theorem lookup_exact {document : Document} {snapshot : Snapshot}
    (h : ofDocument document = .ok snapshot) :
    (∀ entry ∈ document.fields, ∀ limit,
      (Says entry.options (.ok none) →
        (snapshot.table.source entry.key).within limit = .ok none) ∧
      (∀ message, Says entry.options (.error message) →
        (snapshot.table.source entry.key).within limit = .error (.query message) ∧
          (LookupError.query message).isFatal = false) ∧
      ∀ choices, Says entry.options (.ok (some choices)) →
        (snapshot.table.source entry.key).within limit = .ok (some ⟨some choices⟩)) ∧
    (∀ key ∉ document.fields.map FieldEntry.key, ∀ limit,
      (snapshot.table.source key).within limit = .ok none) ∧
    (∃ recorded : List FieldEntry, recorded.Sublist document.fields ∧
      (∀ entry ∈ document.fields, entry ∈ recorded ↔ ¬ Says entry.options (.ok none)) ∧
      List.Forall₂ (fun entry record => record.key = entry.key ∧
        Says entry.options record.choices) recorded snapshot.choices) ∧
    (∀ record ∈ snapshot.choices, (∃ choices, record.choices = .ok (some choices)) ∨
      ∃ message, record.choices = .error message) ∧
    snapshot.table.size = snapshot.choices.length := by
  obtain ⟨hfits, rfl⟩ := ofDocument_eq_ok.mp h
  have hsource : ∀ entry ∈ document.fields, ∀ limit said, Says entry.options said →
      ((ChoiceTable.ofRecords (document.fields.filterMap FieldEntry.record?)).source
        entry.key).within limit = lookupOf said := by
    intro entry hentry limit said hsaid
    rw [source_of_mem hfits.fields hentry, says_iff.mp hsaid]
    cases limit <;> rfl
  refine ⟨fun entry hentry limit => ⟨?_, fun message hsaid => ⟨?_, rfl⟩, fun choices hsaid => ?_⟩,
    fun key hkey limit => ?_, ?_, ?_, ?_⟩
  · exact hsource entry hentry limit _
  · exact hsource entry hentry limit _ hsaid
  · exact hsource entry hentry limit _ hsaid
  · refine (congrArg (·.within limit) (source_of_not_mem hfits.fields hkey)).trans ?_
    cases limit <;> rfl
  · refine ⟨_, List.filter_sublist, fun entry hentry => ?_,
      (forall₂_filterMap FieldEntry.record? document.fields).imp fun entry record hrecord => ?_⟩
    · rw [List.mem_filter, and_iff_right hentry, FieldEntry.isSome_record?]
    · obtain ⟨hkey, hsaid, -⟩ := FieldEntry.record?_eq_some.mp hrecord
      exact ⟨hkey, hsaid⟩
  · intro record hrecord
    obtain ⟨entry, -, hentry⟩ := List.mem_filterMap.mp hrecord
    obtain ⟨-, -, hne⟩ := FieldEntry.record?_eq_some.mp hentry
    rcases hchoices : record.choices with message | - | choices
    · exact .inr ⟨message, rfl⟩
    · exact absurd hchoices hne
    · exact .inl ⟨choices, rfl⟩
  · exact ChoiceTable.size_ofRecords (nodup_records hfits.fields)

/-- Fields with choices, with malformed ones, with null for them and without options. -/
def tagDocument : Document where
  collections := [⟨"tags", none⟩]
  fields := [
    ⟨"tags", "color", "string", none,
      some (.object [("choices", .list [.object [("text", .text "Red")]])]), none⟩,
    ⟨"tags", "size", "string", none,
      some (.object [("choices", .list [.object [("value", .text "s")], .list [.boolean true]])]),
      none⟩,
    ⟨"tags", "name", "string", none, some (.object [("choices", .null)]), none⟩,
    ⟨"tags", "slug", "string", none, none, none⟩]
  relations := []

/-- Each field of the tags has its own lookup. -/
theorem lookup_exact_tags :
    ∃ snapshot, ofDocument tagDocument = .ok snapshot ∧
      (snapshot.table.source ⟨"tags", "color"⟩).within (some 5) =
        .error (.query "invalid choices: missing field `value`") ∧
      (snapshot.table.source ⟨"tags", "size"⟩).within none =
        .ok (some ⟨some [⟨.text "s", none⟩, ⟨.boolean true, none⟩]⟩) ∧
      (snapshot.table.source ⟨"tags", "name"⟩).within none = .ok none ∧
      (snapshot.table.source ⟨"tags", "slug"⟩).within none = .ok none ∧
      (snapshot.table.source ⟨"pages", "size"⟩).within none = .ok none ∧
      snapshot.table.size = 2 := by
  obtain ⟨snapshot, h, hsize⟩ : ∃ snapshot, ofDocument tagDocument = .ok snapshot ∧
      snapshot.choices.length = 2 := ⟨_, rfl, rfl⟩
  obtain ⟨hfields, hothers, -, -, htable⟩ := lookup_exact h
  have hfield : ∀ i, (hi : i < tagDocument.fields.length) → ∀ limit, _ :=
    fun i hi limit => hfields _ (List.getElem_mem hi) limit
  refine ⟨snapshot, h, ((hfield 0 (by decide) _).2.1 _ ?_).1, (hfield 1 (by decide) _).2.2 _ ?_,
    (hfield 2 (by decide) _).1 ?_, (hfield 3 (by decide) _).1 ?_, hothers _ (by decide) _,
    htable.trans hsize⟩
  · exact says_iff.mpr rfl
  · exact says_iff.mpr rfl
  · exact .null rfl
  · exact .absent

end TypedCatalog.Snapshot
