import Reindexing.Json.Layout
import Reindexing.Proofs.Json.Reading

/-!
# Codecs that return what they are given

A codec returns a value when its written form is legible and is read back as the
value, from any origin that still allows the nesting of the form. The property is
proved once for all record layouts: a layout returns what its fields return,
provided that their names differ.
-/
namespace Reindexing.Json

/-! ### Nesting -/

mutual
/-- How many lists and records lie around the innermost value. -/
def nesting : Json → Nat
  | .list items => nestingItems items + 1
  | .record fields => nestingFields fields + 1
  | _ => 0

def nestingItems : List Json → Nat
  | [] => 0
  | j :: rest => max j.nesting (nestingItems rest)

def nestingFields : List (String × Json) → Nat
  | [] => 0
  | (_, j) :: rest => max j.nesting (nestingFields rest)
end

/-- Whether so much nesting is allowed where a document comes from. -/
def Origin.Admits (origin : Origin) (depth : Nat) : Prop :=
  match origin with
  | .text limit => depth < limit
  | _ => True

variable {origin : Origin} {depth deeper : Nat}

theorem Origin.Admits.mono (admits : origin.Admits deeper) (le : depth ≤ deeper) : origin.Admits depth := by
  cases origin with
  | text limit => exact Nat.lt_of_le_of_lt le admits
  | collected => trivial
  | value => trivial

/-- What admits one more level has an inside that admits the rest. -/
theorem Origin.Admits.inside (admits : origin.Admits (depth + 1)) :
    ∃ inner, origin.inside = .ok inner ∧ inner.Admits depth := by
  cases origin with
  | text limit =>
    have some_left : 1 < limit := Nat.lt_of_le_of_lt (Nat.le_add_left 1 depth) admits
    refine ⟨.text (limit - 1), if_pos some_left, ?_⟩
    change depth < limit - 1
    exact Nat.lt_sub_of_add_lt admits
  | collected => exact ⟨.collected, rfl, trivial⟩
  | value => exact ⟨.value, rfl, trivial⟩

mutual
/-- A value is collected whole, unless it is nested too deeply. -/
theorem whole_ofJson : (j : Json) → {origin : Origin} → origin.Admits j.nesting →
    (Document.ofJson j).whole origin = .ok j
  | .null, _, _ | .bool _, _, _ | .number _, _, _ | .text _, _, _ => rfl
  | .list items, _, admits => by
    obtain ⟨inner, enters, allows⟩ := admits.inside
    have all := wholeItems_ofItems items allows
    simp only [Document.ofJson, Document.whole, enters, all, Closing.check, bind, Except.bind, pure, Except.pure]
  | .record fields, _, admits => by
    obtain ⟨inner, enters, allows⟩ := admits.inside
    have all := wholeEntries_ofFields fields allows
    simp only [Document.ofJson, Document.whole, enters, all, Closing.check, bind, Except.bind, pure, Except.pure]

theorem wholeItems_ofItems : (items : List Json) → {origin : Origin} → origin.Admits (nestingItems items) →
    wholeItems origin (Document.ofItems items) = .ok items
  | [], _, _ => rfl
  | j :: rest, _, admits => by
    have first := whole_ofJson j (admits.mono (Nat.le_max_left ..))
    have others := wholeItems_ofItems rest (admits.mono (Nat.le_max_right ..))
    simp only [Document.ofItems, wholeItems, first, others, bind, Except.bind, pure, Except.pure]

theorem wholeEntries_ofFields : (fields : List (String × Json)) → {origin : Origin} →
    origin.Admits (nestingFields fields) → wholeEntries origin (Document.ofFields fields) = .ok fields
  | [], _, _ => rfl
  | (k, j) :: rest, _, admits => by
    have first := whole_ofJson j (admits.mono (Nat.le_max_left ..))
    have others := wholeEntries_ofFields rest (admits.mono (Nat.le_max_right ..))
    simp only [Document.ofFields, wholeEntries, Document.asText, first, others, bind, Except.bind, pure,
      Except.pure]
end

/-! ### Codecs -/

variable {α β σ : Type}

/-- The codec writes a value so that it is read back, as a form of at most so much nesting. -/
structure Codec.Returns (codec : Codec α) (depth : Nat) (a : α) : Prop where
  legible : (codec.write a).Legible
  filled : codec.write a ≠ .null
  shallow : (codec.write a).nesting ≤ depth
  reads : ∀ origin : Origin, origin.Admits depth → codec.read origin (Document.ofJson (codec.write a)) = .ok a

namespace Codec.Returns

variable {codec : Codec α} {a : α}

theorem mono (returns : codec.Returns depth a) (le : depth ≤ deeper) : codec.Returns deeper a where
  legible := returns.legible
  filled := returns.filled
  shallow := Nat.le_trans returns.shallow le
  reads origin admits := returns.reads origin (admits.mono le)

/-- A form without nesting may stand anywhere. -/
theorem atAnyDepth (returns : codec.Returns 0 a) : codec.Returns depth a := returns.mono (Nat.zero_le depth)

/-- The compact text of the written form is read back. -/
theorem decodeText (returns : codec.Returns depth a) (limit : depth < nestingLimit) :
    decodeText codec.read (codec.write a).compact = .ok a := by
  have value := returns.reads (.text nestingLimit) limit
  simp only [Json.decodeText, read_compact returns.legible, value, bind, Except.bind, pure, Except.pure]
  rfl

end Codec.Returns

theorem legibleItems_iff {items : List Json} : LegibleItems items ↔ ∀ j ∈ items, j.Legible := by
  induction items with
  | nil => simp [LegibleItems]
  | cons j rest ih => simp [LegibleItems, ih]

theorem nestingItems_le_iff {items : List Json} : nestingItems items ≤ depth ↔ ∀ j ∈ items, j.nesting ≤ depth := by
  induction items with
  | nil => simp [nestingItems]
  | cons j rest ih => simp only [nestingItems, Nat.max_le, ih, List.forall_mem_cons]

/-! ### Fields -/

/-- A field is written so that it is read back, or left out where that stands for the value. -/
structure Field.Returns (field : Field α) (depth : Nat) (a : α) : Prop where
  written : ∀ j, field.write a = some j → j.Legible ∧ j.nesting ≤ depth ∧
    ∀ origin : Origin, origin.Admits depth → field.read origin (Document.ofJson j) = .ok a
  omitted : field.write a = none → field.absent = some a

theorem Field.required_returns {codec : Codec α} {a : α} (name : String) (returns : codec.Returns depth a) :
    (Field.required name codec).Returns depth a where
  written j written := by
    obtain rfl := Option.some.inj written
    exact ⟨returns.legible, returns.shallow, returns.reads⟩
  omitted := nofun

/-- A written form other than `null` is read as a value that is there. -/
theorem Decode.optional_ofJson {decoder : Decoder α} {j : Json} (filled : j ≠ .null) :
    Decode.optional decoder origin (Document.ofJson j) = (decoder origin (Document.ofJson j)).map some := by
  cases j with
  | null => exact absurd rfl filled
  | _ => rfl

theorem Field.optional_returns {codec : Codec α} (name : String) {a : Option α}
    (returns : ∀ b, a = some b → codec.Returns depth b) : (Field.optional name codec).Returns depth a where
  written j written := by
    obtain ⟨b, rfl, rfl⟩ := Option.map_eq_some_iff.mp written
    have value := returns b rfl
    refine ⟨value.legible, value.shallow, fun origin admits => ?_⟩
    change Decode.optional codec.read origin _ = _
    rw [Decode.optional_ofJson value.filled, value.reads origin admits]
    rfl
  omitted absent := by
    obtain rfl := Option.map_eq_none_iff.mp absent
    rfl

/-! ### Layouts -/

namespace Layout

/-- Every field returns its part of the value. -/
def Returns (depth : Nat) : {α σ : Type} → Layout α σ → α → Prop
  | _, _, .done, _ => True
  | _, _, .field first rest, (a, b) => first.Returns depth a ∧ rest.Returns depth b

/-- What has been read of a value once its written fields were. -/
def fill : {α σ : Type} → Layout α σ → α → σ
  | _, _, .done, _ => ()
  | _, _, .field first rest, (a, b) => ((first.write a).map fun _ => a, rest.fill b)

theorem write_names (layout : Layout α σ) (a : α) : ∀ field ∈ layout.write a, field.1 ∈ layout.names := by
  induction layout with
  | done => simp [write]
  | field first rest ih =>
    obtain ⟨a, b⟩ := a
    intro field member
    simp only [write] at member
    split at member
    · rcases List.mem_cons.mp member with rfl | member
      · exact List.mem_cons_self
      · exact List.mem_cons_of_mem _ (ih b field member)
    · exact List.mem_cons_of_mem _ (ih b field member)

/-- Entries with other names pass by the first field. -/
theorem readEntries_field (first : Field α) (rest : Layout β σ) (slot : Option α) (slots : σ)
    (fields : List (String × Json)) (others : ∀ field ∈ fields, field.1 ≠ first.name) :
    (Layout.field first rest).readEntries origin (slot, slots) (Document.ofFields fields) =
      (rest.readEntries origin slots (Document.ofFields fields)).map fun slots => (slot, slots) := by
  induction fields generalizing slots with
  | nil => rfl
  | cons field fields ih =>
    obtain ⟨name, j⟩ := field
    have other : name ≠ first.name := others (name, j) List.mem_cons_self
    have tail := fun slots => ih slots fun field member => others field (List.mem_cons_of_mem _ member)
    simp only [Document.ofFields, readEntries, Document.asText, feed, if_neg other, bind, Except.bind]
    cases rest.feed origin name (Document.ofJson j) slots with
    | none =>
      simp only [Option.map_none]
      cases (Document.ofJson j).ignore with
      | error e => rfl
      | ok => exact tail slots
    | some result =>
      simp only [Option.map_some]
      cases result with
      | error e => rfl
      | ok slots => exact tail slots

/-- The written fields of a value fill its slots. -/
theorem readEntries_write (layout : Layout α σ) (distinct : layout.names.Nodup) {a : α}
    (returns : layout.Returns depth a) (admits : origin.Admits depth) :
    layout.readEntries origin layout.empty (Document.ofFields (layout.write a)) = .ok (layout.fill a) := by
  induction layout with
  | done => rfl
  | field first rest ih =>
    obtain ⟨a, b⟩ := a
    obtain ⟨returns_first, returns_rest⟩ := returns
    obtain ⟨fresh, distinct⟩ := List.nodup_cons.mp distinct
    have others : ∀ field ∈ rest.write b, field.1 ≠ first.name := by
      rintro field member same
      exact fresh (same ▸ rest.write_names b field member)
    have tail := ih distinct returns_rest
    cases written : first.write a with
    | none =>
      simp only [write, written, empty, fill, Option.map_none]
      rw [readEntries_field first rest none rest.empty _ others, tail]
      rfl
    | some j =>
      have value := (returns_first.written j written).2.2 origin admits
      simp only [write, written, empty, fill, Option.map_some, Document.ofFields, readEntries, Document.asText,
        feed, if_pos, value, Except.map, bind, Except.bind]
      rw [readEntries_field first rest (some a) rest.empty _ others, tail]
      rfl

theorem finish_fill (layout : Layout α σ) {a : α} (returns : layout.Returns depth a) :
    layout.finish (layout.fill a) = .ok a := by
  induction layout with
  | done => rfl
  | field first rest ih =>
    obtain ⟨a, b⟩ := a
    obtain ⟨returns_first, returns_rest⟩ := returns
    have tail := ih returns_rest
    cases written : first.write a with
    | none =>
      have absent := returns_first.omitted written
      simp only [fill, written, Option.map_none, finish, absent, tail, bind, Except.bind, pure, Except.pure]
    | some j =>
      simp only [fill, written, Option.map_some, finish, tail, bind, Except.bind, pure, Except.pure]

theorem legible_write (layout : Layout α σ) {a : α} (returns : layout.Returns depth a) :
    LegibleFields (layout.write a) ∧ nestingFields (layout.write a) ≤ depth := by
  induction layout with
  | done => exact ⟨trivial, Nat.zero_le _⟩
  | field first rest ih =>
    obtain ⟨a, b⟩ := a
    obtain ⟨returns_first, returns_rest⟩ := returns
    have tail := ih returns_rest
    cases written : first.write a with
    | none =>
      simp only [write, written]
      exact tail
    | some j =>
      obtain ⟨legible, shallow, _⟩ := returns_first.written j written
      simp only [write, written]
      exact ⟨⟨legible, tail.1⟩, Nat.max_le.mpr ⟨shallow, tail.2⟩⟩

/-- A layout reads back the record that it writes. -/
theorem read_write (layout : Layout α σ) (distinct : layout.names.Nodup) {a : α}
    (returns : layout.Returns depth a) (admits : origin.Admits (depth + 1)) :
    layout.read origin (Document.ofJson (.record (layout.write a))) = .ok a := by
  obtain ⟨inner, enters, allows⟩ := admits.inside
  have entries := layout.readEntries_write distinct returns allows
  have finished := layout.finish_fill returns
  simp only [Document.ofJson, read, readRecord, enters, entries, finished, Closing.check, bind, Except.bind]

end Layout

/-- The codec of a layout returns what the fields return. -/
theorem Codec.ofLayout_returns {layout : Layout α σ} {toPairs : β → α} {ofPairs : α → β} {b : β}
    (distinct : layout.names.Nodup) (returns : layout.Returns depth (toPairs b))
    (inverse : ofPairs (toPairs b) = b) : (Codec.ofLayout layout toPairs ofPairs).Returns (depth + 1) b where
  legible := (layout.legible_write returns).1
  filled := nofun
  shallow := Nat.succ_le_succ (layout.legible_write returns).2
  reads origin admits := by
    change (layout.read origin (Document.ofJson (.record (layout.write (toPairs b))))).map ofPairs = .ok b
    rw [layout.read_write distinct returns admits]
    exact congrArg Except.ok inverse

end Reindexing.Json
