import Reindexing.Proofs.Json.Codecs

/-!
# Records with more fields than are read

A layout reads its own fields from every record that has them, whatever their
order and whatever stands between them. `Finds` says this of a whole record;
`Awaits` says of the entries that are still to come that they fill the slots that
are still empty, and every entry keeps it so.
-/
namespace Reindexing.Json

variable {origin : Origin} {α β σ : Type} {fields rest : List (String × Json)} {key name : String} {j : Json}

mutual
/-- Every value can be passed over. -/
theorem ignore_ofJson : (j : Json) → (Document.ofJson j).ignore = .ok ()
  | .null | .bool _ | .number _ | .text _ => rfl
  | .list items => by
    simp only [Document.ofJson, Document.ignore, ignoreItems_ofItems items, Closing.check, bind, Except.bind]
  | .record fields => by
    simp only [Document.ofJson, Document.ignore, ignoreEntries_ofFields fields, Closing.check, bind, Except.bind]

theorem ignoreItems_ofItems : (items : List Json) → ignoreItems (Document.ofItems items) = .ok ()
  | [] => rfl
  | j :: rest => by
    simp only [Document.ofItems, ignoreItems, ignore_ofJson j, ignoreItems_ofItems rest, bind, Except.bind]

theorem ignoreEntries_ofFields : (fields : List (String × Json)) →
    ignoreEntries (Document.ofFields fields) = .ok ()
  | [] => rfl
  | (key, j) :: rest => by
    simp only [Document.ofFields, ignoreEntries, Document.ignore, ignore_ofJson j, ignoreEntries_ofFields rest, bind,
      Except.bind]
end

/-! ### Values under a key -/

@[simp] theorem field?_nil : (Json.record []).field? key = none := rfl

theorem field?_cons : (Json.record ((name, j) :: rest)).field? key =
    if name = key then some j else (Json.record rest).field? key := by
  by_cases same : name = key
  · simp [Json.field?, same]
  · have different : (name == key) = false := beq_eq_false_iff_ne.mpr same
    simp [Json.field?, different, same]

theorem field?_eq_none : (Json.record fields).field? key = none ↔ key ∉ fields.map Prod.fst := by
  induction fields with
  | nil => simp
  | cons field rest ih =>
    rw [field?_cons, List.map_cons, List.mem_cons, not_or]
    by_cases same : field.1 = key
    · simp [same]
    · rw [if_neg same, ih]
      simp [Ne.symm same]

/-- The first of two records has its fields looked up first. -/
theorem field?_append (later : List (String × Json)) : (Json.record (fields ++ later)).field? key =
    ((Json.record fields).field? key).or ((Json.record later).field? key) := by
  induction fields with
  | nil => rfl
  | cons field rest ih =>
    rw [List.cons_append, field?_cons, field?_cons, ih]
    split <;> rfl

theorem ofFields_append (fields later : List (String × Json)) :
    Document.ofFields (fields ++ later) = Document.ofFields fields ++ Document.ofFields later := by
  induction fields with
  | nil => rfl
  | cons field rest ih => simp only [List.cons_append, Document.ofFields, ih]

theorem legibleFields_append {later : List (String × Json)} (first : LegibleFields fields)
    (second : LegibleFields later) : LegibleFields (fields ++ later) := by
  induction fields with
  | nil => exact second
  | cons field rest ih => exact ⟨first.1, ih first.2⟩

theorem nestingFields_append {depth : Nat} {later : List (String × Json)} (first : nestingFields fields ≤ depth)
    (second : nestingFields later ≤ depth) : nestingFields (fields ++ later) ≤ depth := by
  induction fields with
  | nil => exact second
  | cons field rest ih =>
    obtain ⟨head, tail⟩ := Nat.max_le.mp first
    exact Nat.max_le.mpr ⟨head, ih tail⟩

/-! ### Fields that are found -/

/-- The record has the field with a form of this value, or lacks it where that stands for the value. -/
def Field.Finds (origin : Origin) (fields : List (String × Json)) (field : Field α) (a : α) : Prop :=
  match (Json.record fields).field? field.name with
  | some j => field.read origin (Document.ofJson j) = .ok a
  | none => field.absent = some a

/-- The record has all fields of the layout. -/
def Layout.Finds (origin : Origin) (fields : List (String × Json)) : {α σ : Type} → Layout α σ → α → Prop
  | _, _, .done, _ => True
  | _, _, .field first rest, (a, b) => first.Finds origin fields a ∧ rest.Finds origin fields b

/-- The entries to come and the slots that are filled make up a value together. -/
def Layout.Awaits (origin : Origin) (fields : List (String × Json)) :
    {α σ : Type} → Layout α σ → α → σ → Prop
  | _, _, .done, _, _ => True
  | _, _, .field first rest, (a, b), (slot, slots) =>
    (match (Json.record fields).field? first.name with
      | some j => slot = none ∧ first.read origin (Document.ofJson j) = .ok a
      | none => slot = some a ∨ slot = none ∧ first.absent = some a) ∧
    rest.Awaits origin fields b slots

namespace Layout

theorem awaits_empty (layout : Layout α σ) {a : α} (finds : layout.Finds origin fields a) :
    layout.Awaits origin fields a layout.empty := by
  induction layout with
  | done => trivial
  | field first rest ih =>
    obtain ⟨a, b⟩ := a
    obtain ⟨found, finds⟩ := finds
    refine ⟨?_, ih finds⟩
    unfold Field.Finds at found
    split at found
    · exact ⟨rfl, found⟩
    · exact .inr ⟨rfl, found⟩

/-- An entry with another name is nothing that a layout waits for. -/
theorem awaits_of_other (layout : Layout α σ) {a : α} {slots : σ} (other : name ∉ layout.names)
    (awaits : layout.Awaits origin ((name, j) :: rest) a slots) : layout.Awaits origin rest a slots := by
  induction layout with
  | done => trivial
  | field first more ih =>
    obtain ⟨a, b⟩ := a
    obtain ⟨slot, slots⟩ := slots
    obtain ⟨different, others⟩ := not_or.mp (List.mem_cons.not.mp other)
    obtain ⟨head, tail⟩ := awaits
    rw [field?_cons, if_neg different] at head
    exact ⟨head, ih others tail⟩

/-- An entry either fills a slot that waits for it, or is passed over. -/
theorem feed_awaits (layout : Layout α σ) (distinct : layout.names.Nodup) {a : α} {slots : σ}
    (fresh : name ∉ rest.map Prod.fst) (awaits : layout.Awaits origin ((name, j) :: rest) a slots) :
    (layout.feed origin name (Document.ofJson j) slots = none ∧ layout.Awaits origin rest a slots) ∨
      ∃ filled, layout.feed origin name (Document.ofJson j) slots = some (.ok filled) ∧
        layout.Awaits origin rest a filled := by
  induction layout with
  | done => exact .inl ⟨rfl, trivial⟩
  | field first more ih =>
    obtain ⟨a, b⟩ := a
    obtain ⟨slot, slots⟩ := slots
    obtain ⟨apart, distinct⟩ := List.nodup_cons.mp distinct
    obtain ⟨head, tail⟩ := awaits
    rw [field?_cons] at head
    by_cases same : name = first.name
    · subst same
      rw [if_pos rfl] at head
      obtain ⟨rfl, reads⟩ := head
      refine .inr ⟨(some a, slots), ?_, ?_, more.awaits_of_other apart tail⟩
      · simp only [feed, if_pos, reads, Except.map]
      · rw [field?_eq_none.mpr fresh]
        exact .inl rfl
    · rw [if_neg same] at head
      rcases ih distinct tail with ⟨passes, awaits⟩ | ⟨filled, fills, awaits⟩
      · refine .inl ⟨?_, head, awaits⟩
        simp only [feed, if_neg same, passes, Option.map_none]
      · refine .inr ⟨(slot, filled), ?_, head, awaits⟩
        simp only [feed, if_neg same, fills, Option.map_some, Except.map]

/-- Reading the entries of a record leaves nothing that is waited for. -/
theorem readEntries_awaits (layout : Layout α σ) (distinct : layout.names.Nodup) {a : α} {slots : σ}
    (unique : (fields.map Prod.fst).Nodup) (awaits : layout.Awaits origin fields a slots) :
    ∃ filled, layout.readEntries origin slots (Document.ofFields fields) = .ok filled ∧
      layout.Awaits origin [] a filled := by
  induction fields generalizing slots with
  | nil => exact ⟨slots, rfl, awaits⟩
  | cons field rest ih =>
    obtain ⟨name, j⟩ := field
    obtain ⟨fresh, unique⟩ := List.nodup_cons.mp unique
    simp only [Document.ofFields, readEntries, Document.asText, bind, Except.bind]
    rcases layout.feed_awaits distinct fresh awaits with ⟨passes, awaits⟩ | ⟨filled, fills, awaits⟩
    · simp only [passes, ignore_ofJson]
      exact ih unique awaits
    · simp only [fills]
      exact ih unique awaits

theorem finish_awaits (layout : Layout α σ) {a : α} {slots : σ} (awaits : layout.Awaits origin [] a slots) :
    layout.finish slots = .ok a := by
  induction layout with
  | done => rfl
  | field first rest ih =>
    obtain ⟨a, b⟩ := a
    obtain ⟨slot, slots⟩ := slots
    obtain ⟨filled | ⟨lacks, absent⟩, tail⟩ := awaits
    · obtain rfl := filled
      simp only [finish, ih tail, bind, Except.bind, pure, Except.pure]
    · obtain rfl := lacks
      simp only [finish, absent, ih tail, bind, Except.bind, pure, Except.pure]

/-- A layout reads its value from every record that has its fields. -/
theorem read_of_finds (layout : Layout α σ) (distinct : layout.names.Nodup) {a : α} {inner : Origin}
    (unique : (fields.map Prod.fst).Nodup) (enters : origin.inside = .ok inner)
    (finds : layout.Finds inner fields a) : layout.read origin (Document.ofJson (.record fields)) = .ok a := by
  obtain ⟨filled, reads, awaits⟩ := layout.readEntries_awaits distinct unique (layout.awaits_empty finds)
  have finished := layout.finish_awaits awaits
  simp only [Document.ofJson, read, readRecord, enters, reads, finished, Closing.check, bind, Except.bind]

theorem map_read_of_finds (layout : Layout α σ) (distinct : layout.names.Nodup) {a : α} {inner : Origin}
    (unique : (fields.map Prod.fst).Nodup) (enters : origin.inside = .ok inner)
    (finds : layout.Finds inner fields a) {make : α → β} {b : β} (made : make a = b) :
    (layout.read origin (Document.ofJson (.record fields))).map make = .ok b := by
  rw [layout.read_of_finds distinct unique enters finds]
  exact congrArg Except.ok made

end Layout

theorem Codec.ofLayout_reads {layout : Layout α σ} {toPairs : β → α} {ofPairs : α → β} {a : α} {inner : Origin}
    (distinct : layout.names.Nodup) (unique : (fields.map Prod.fst).Nodup) (enters : origin.inside = .ok inner)
    (finds : layout.Finds inner fields a) {b : β} (inverse : ofPairs a = b) :
    (Codec.ofLayout layout toPairs ofPairs).read origin (Document.ofJson (.record fields)) = .ok b :=
  layout.map_read_of_finds distinct unique enters finds inverse

end Reindexing.Json
