import TypedCatalog.Catalog.Basic
import TypedCatalog.Catalog.Choice

/-!
# Looking up the choices of a field

Choices are not part of a catalog: they are looked up field by field in a `ChoiceSource`, whose
answers may be slow and may fail. A lookup that is slower than the time limit counts as timed out
whatever it would have answered. A `ChoiceTable` is a source whose answers are at hand.
-/

namespace TypedCatalog

/-- Why a lookup failed. -/
inductive LookupError where
  /-- The lookup ran and failed. -/
  | query (message : String)
  /-- The lookup took longer than so many milliseconds. -/
  | timeout (millis : Nat)
  /-- The connection to the source failed. -/
  | transport (cause : String)
  deriving DecidableEq, Repr

namespace LookupError

/-- The wording of a failure. -/
def message : LookupError → String
  | query message => "query error: " ++ message
  | timeout millis => "query timed out after " ++ Json.countText millis ++ " ms"
  | transport cause => "transport error: " ++ cause

/-- What caused a failure, the nearest cause first. -/
def causes : LookupError → List String
  | transport cause => [cause]
  | _ => []

/-- Whether a failure ends the run and not only the field. -/
def isFatal : LookupError → Bool
  | transport _ => true
  | _ => false

end LookupError

/-- What a source knows about a field: its choices, if any are configured. -/
structure FieldMetadata where
  /-- The permitted values, in order. -/
  choices : Option (List Choice)
  deriving Repr

/-- The outcome of a lookup: nothing if there is no record of the field. -/
abbrev LookupResult := Except LookupError (Option FieldMetadata)

/-- The answer to a lookup. -/
structure Answer where
  /-- How many milliseconds the answer takes, if it is not there at once. -/
  delay : Option Nat
  /-- What the lookup ends in. -/
  result : LookupResult

/-- What a lookup ends in under a time limit. -/
def Answer.within (answer : Answer) (limit : Option Nat) : LookupResult :=
  match limit, answer.delay with
  | some limit, some delay => if delay ≤ limit then answer.result else .error (.timeout limit)
  | _, _ => answer.result

/-- A source of choices: the answer to a lookup depends only on the field. -/
abbrev ChoiceSource := FieldKey → Answer

/-- The source without records. -/
def ChoiceSource.none : ChoiceSource := fun _ => ⟨.none, .ok .none⟩

/-- What a snapshot says about the choices of a field: the choices, or why they cannot be read. -/
structure ChoiceRecord where
  /-- The field. -/
  key : FieldKey
  /-- The choices, if any are configured, or what is wrong with them. -/
  choices : Except String (Option (List Choice))

/-- Records by field, at most one for each. -/
structure ChoiceTable where
  /-- The records, in no particular order. -/
  records : List ChoiceRecord

namespace ChoiceTable

/-- The table without records. -/
def empty : ChoiceTable := ⟨[]⟩

/-- The number of records. -/
def size (table : ChoiceTable) : Nat := table.records.length

/-- The table with `record` as the record of its field. -/
def insert (table : ChoiceTable) (record : ChoiceRecord) : ChoiceTable :=
  ⟨record :: table.records.filter (·.key != record.key)⟩

/-- The table of a list of records, of which a later one takes the place of an earlier one. -/
def ofRecords (records : List ChoiceRecord) : ChoiceTable :=
  records.foldl insert empty

/-- The record of a field. -/
def find? (table : ChoiceTable) (key : FieldKey) : Option ChoiceRecord :=
  table.records.find? (·.key == key)

/-- The table as a source: unreadable choices are a failed query. -/
def source (table : ChoiceTable) : ChoiceSource := fun key =>
  ⟨none,
    match table.find? key with
    | none => .ok none
    | some record =>
      match record.choices with
      | .ok choices => .ok (some ⟨choices⟩)
      | .error message => .error (.query message)⟩

/-- After an insertion the record's own field finds it, and any other field what it found. -/
theorem find?_insert (table : ChoiceTable) (record : ChoiceRecord) (key : FieldKey) :
    (table.insert record).find? key =
      if record.key = key then some record else table.find? key := by
  by_cases h : record.key = key
  · simp [find?, insert, h]
  · rw [if_neg h, find?, insert, List.find?_cons]
    simp only [beq_eq_false_iff_ne.mpr h, find?]
    induction table.records with
    | nil => rfl
    | cons first rest ih =>
      by_cases hf : first.key = record.key
      · have : ¬ first.key = key := fun e => h (hf ▸ e)
        simp [hf, ih, h]
      · by_cases hk : first.key = key
        · have : ¬ key = record.key := fun e => h e.symm
          simp [hk, this]
        · simp [hf, hk, ih]

/-- The records of a table made of records with keys of their own. -/
theorem records_foldl_insert (table : ChoiceTable) {records : List ChoiceRecord}
    (h : (table.records.map ChoiceRecord.key ++ records.map ChoiceRecord.key).Nodup) :
    (records.foldl insert table).records = records.reverse ++ table.records := by
  induction records generalizing table with
  | nil => rfl
  | cons record rest ih =>
    rw [List.map_cons, ← List.singleton_append, ← List.append_assoc] at h
    have hnew : ∀ other ∈ table.records, other.key ≠ record.key := fun other hother hsame =>
      (List.nodup_append.mp (List.nodup_append.mp h).1).2.2 _ (List.mem_map_of_mem hother) _
        (List.mem_singleton_self _) hsame
    have hrecords : (table.insert record).records = record :: table.records := by
      rw [insert, List.filter_eq_self.mpr fun other hother => by simpa using hnew other hother]
    have hkeys : ((table.insert record).records.map ChoiceRecord.key ++
        rest.map ChoiceRecord.key).Nodup := by
      rw [hrecords, List.map_cons]
      exact ((List.perm_append_singleton _ _).append_right _).nodup_iff.mp h
    rw [List.foldl_cons, ih _ hkeys, hrecords, List.reverse_cons, List.append_assoc,
      List.singleton_append]

section Distinct

variable {records : List ChoiceRecord} (h : (records.map ChoiceRecord.key).Nodup)
include h

/-- Records with keys of their own are the records of their table. -/
theorem records_ofRecords : (ofRecords records).records = records.reverse := by
  rw [ofRecords, records_foldl_insert _ (by simpa [empty] using h), empty, List.append_nil]

theorem size_ofRecords : (ofRecords records).size = records.length := by
  rw [size, records_ofRecords h, List.length_reverse]

/-- A look-up finds exactly the record that has the key. -/
theorem find?_ofRecords {key : FieldKey} {record : ChoiceRecord} :
    (ofRecords records).find? key = some record ↔ record ∈ records ∧ record.key = key := by
  have hreverse : (records.reverse.map ChoiceRecord.key).Nodup := by
    rw [List.map_reverse]
    exact (List.reverse_perm _).nodup_iff.mpr h
  rw [find?, records_ofRecords h, find?_eq_some_iff_of_nodup hreverse, List.mem_reverse]

end Distinct

end ChoiceTable

end TypedCatalog
