import Reindexing.Proofs.Json.Selection

/-!
# Records that are read by names

A layout writes at most one value under each of its names, so another layout that
reads the record can be served name by name: `written?` is what stands under a name,
and `Takes` says that a field makes a value of it. Order, names that the reader does
not know, and fields that are left out need no thought any more. A reader that wants
any value gets its normal form, in which the fields of records are sorted. Sorting does
not change what stands under a key, as long as the keys of a record differ; neither does
rereading, apart from the doubles inside, and it leaves the nesting alone. In the other
direction, a record that was read tells of each of its fields that it could be read.
-/
namespace Reindexing.Json

section

variable {fields done rest : List (String × Json)} {key name : String} {j : Json} {origin : Origin}

/-! ### Sorted fields -/

theorem field?_putSorted : (Json.record (putSorted name j done)).field? key =
    if name = key then some j else (Json.record done).field? key := by
  induction done with
  | nil => exact field?_cons
  | cons field rest ih =>
    obtain ⟨first, value⟩ := field
    by_cases same : name = first
    · subst same
      simp only [putSorted, if_pos, field?_cons]
      split <;> rfl
    · rw [putSorted, if_neg same]
      split
      · rw [field?_cons]
      · rw [field?_cons, field?_cons, ih]
        by_cases here : first = key
        · subst here
          simp only [if_pos, if_neg same]
        · simp only [if_neg here]

theorem mem_putSorted {field : String × Json} (member : field ∈ putSorted key j fields) :
    field = (key, j) ∨ field ∈ fields := by
  induction fields with
  | nil => exact .inl (List.mem_singleton.mp member)
  | cons first rest ih =>
    rw [putSorted] at member
    split at member
    · rcases List.mem_cons.mp member with new | old
      · exact .inl new
      · exact .inr (List.mem_cons_of_mem _ old)
    · split at member
      · rcases List.mem_cons.mp member with new | old
        · exact .inl new
        · exact .inr old
      · rcases List.mem_cons.mp member with head | tail
        · exact .inr (head ▸ List.mem_cons_self)
        · exact (ih tail).imp_right (List.mem_cons_of_mem _)

theorem field?_normalFields (unique : (fields.map Prod.fst).Nodup) :
    (Json.record (normalFields done fields)).field? key =
      (((Json.record fields).field? key).map normal).or ((Json.record done).field? key) := by
  induction fields generalizing done with
  | nil => rfl
  | cons field rest ih =>
    obtain ⟨name, j⟩ := field
    obtain ⟨fresh, unique⟩ := List.nodup_cons.mp unique
    rw [normalFields, ih unique, field?_putSorted, field?_cons]
    by_cases same : name = key
    · subst same
      rw [if_pos rfl, if_pos rfl, field?_eq_none.mpr fresh]
      rfl
    · rw [if_neg same, if_neg same]

/-- In normal form there is the same under a key, in normal form. -/
theorem field?_normal (unique : (fields.map Prod.fst).Nodup) :
    (Json.record fields).normal.field? key = ((Json.record fields).field? key).map normal := by
  rw [normal, field?_normalFields unique, field?_nil, Option.or_none]

/-! ### Reread values -/

theorem map_fst_rereadFields (fields : List (String × Json)) :
    (rereadFields fields).map Prod.fst = fields.map Prod.fst := by
  induction fields with
  | nil => rfl
  | cons field rest ih => simp only [rereadFields, List.map_cons, ih]

theorem field?_reread : (Json.record fields).reread.field? key = ((Json.record fields).field? key).map reread := by
  induction fields with
  | nil => rfl
  | cons field rest ih =>
    obtain ⟨name, j⟩ := field
    change (Json.record ((name, j.reread) :: rereadFields rest)).field? key = _
    rw [field?_cons, field?_cons]
    split
    · rfl
    · exact ih

mutual
/-- Rereading changes nothing but doubles. -/
theorem nesting_reread : (j : Json) → j.reread.nesting = j.nesting
  | .null | .bool _ | .number _ | .text _ => rfl
  | .list items => congrArg (· + 1) (nestingItems_reread items)
  | .record fields => congrArg (· + 1) (nestingFields_reread fields)

theorem nestingItems_reread : (items : List Json) → nestingItems (rereadItems items) = nestingItems items
  | [] => rfl
  | j :: rest => congrArg₂ max (nesting_reread j) (nestingItems_reread rest)

theorem nestingFields_reread : (fields : List (String × Json)) →
    nestingFields (rereadFields fields) = nestingFields fields
  | [] => rfl
  | (_, j) :: rest => congrArg₂ max (nesting_reread j) (nestingFields_reread rest)
end

/-! ### Any values -/

theorem anything_reads (admits : origin.Admits j.nesting) :
    Decode.anything origin (Document.ofJson j) = .ok j.normal := by
  rw [Decode.anything, whole_ofJson j admits]
  rfl

end

variable {origin inner : Origin} {α β σ τ : Type} {fields : List (String × Json)} {key name : String}

/-! ### What stands under a name -/

namespace Layout

/-- What a layout writes under a name. -/
def written? : {α σ : Type} → Layout α σ → α → String → Option Json
  | _, _, .done, _, _ => none
  | _, _, .field first rest, (a, b), key => if first.name = key then first.write a else rest.written? b key

theorem field?_write (layout : Layout α σ) (distinct : layout.names.Nodup) (a : α) (key : String) :
    (Json.record (layout.write a)).field? key = layout.written? a key := by
  induction layout with
  | done => rfl
  | field first rest ih =>
    obtain ⟨a, b⟩ := a
    obtain ⟨fresh, distinct⟩ := List.nodup_cons.mp distinct
    have tail := ih distinct b
    rw [written?, ← tail]
    cases written : first.write a with
    | some j => simp only [write, written, field?_cons]
    | none =>
      simp only [write, written]
      split
      · next same =>
        refine field?_eq_none.mpr fun listed => ?_
        obtain ⟨field, member, named⟩ := List.mem_map.mp listed
        exact fresh (same ▸ named ▸ rest.write_names b field member)
      · rfl

theorem map_fst_write_sublist (layout : Layout α σ) (a : α) :
    ((layout.write a).map Prod.fst).Sublist layout.names := by
  induction layout with
  | done => exact List.Sublist.slnil
  | field first rest ih =>
    obtain ⟨a, b⟩ := a
    cases written : first.write a with
    | some j =>
      simp only [write, written, List.map_cons]
      exact (ih b).cons_cons _
    | none =>
      simp only [write, written]
      exact (ih b).cons _

theorem unique_write (layout : Layout α σ) (distinct : layout.names.Nodup) (a : α) :
    ((layout.write a).map Prod.fst).Nodup := distinct.sublist (layout.map_fst_write_sublist a)

/-- One record may hold what two layouts write, if they share no name. -/
theorem field?_write_append (first : Layout α σ) (second : Layout β τ) (distinct : first.names.Nodup)
    (distinct_second : second.names.Nodup) (apart : ∀ name ∈ first.names, name ∉ second.names) (a : α) (b : β)
    (key : String) : (Json.record (first.write a ++ second.write b)).field? key =
      if key ∈ second.names then second.written? b key else first.written? a key := by
  rw [field?_append, first.field?_write distinct, second.field?_write distinct_second]
  split
  · next listed =>
    have other : key ∉ first.names := fun member => apart key member listed
    have unwritten : first.written? a key = none := by
      rw [← first.field?_write distinct]
      exact field?_eq_none.mpr fun member => other ((first.map_fst_write_sublist a).subset member)
    rw [unwritten, Option.none_or]
  · next other =>
    have unwritten : second.written? b key = none := by
      rw [← second.field?_write distinct_second]
      exact field?_eq_none.mpr fun member => other ((second.map_fst_write_sublist b).subset member)
    rw [unwritten, Option.or_none]

theorem unique_write_append (first : Layout α σ) (second : Layout β τ) (distinct : first.names.Nodup)
    (distinct_second : second.names.Nodup) (apart : ∀ name ∈ first.names, name ∉ second.names) (a : α) (b : β) :
    ((first.write a ++ second.write b).map Prod.fst).Nodup := by
  rw [List.map_append]
  refine List.nodup_append.mpr ⟨first.unique_write distinct a, second.unique_write distinct_second b, ?_⟩
  rintro key listed _ member rfl
  exact apart key ((first.map_fst_write_sublist a).subset listed) ((second.map_fst_write_sublist b).subset member)

end Layout

/-! ### What is made of it -/

/-- A field makes the value of what stands under its name, or of nothing. -/
def Field.Takes (origin : Origin) (field : Field α) (found : Option Json) (a : α) : Prop :=
  match found with
  | some j => field.read origin (Document.ofJson j) = .ok a
  | none => field.absent = some a

/-- Every field makes its part of the value of what stands under its name. -/
def Layout.Takes (origin : Origin) (found : String → Option Json) : {α σ : Type} → Layout α σ → α → Prop
  | _, _, .done, _ => True
  | _, _, .field first rest, (a, b) => first.Takes origin (found first.name) a ∧ rest.Takes origin found b

theorem Layout.finds_of_takes (layout : Layout α σ) {found : String → Option Json} {a : α}
    (same : ∀ key, (Json.record fields).field? key = found key) (takes : layout.Takes origin found a) :
    layout.Finds origin fields a := by
  induction layout with
  | done => trivial
  | field first rest ih =>
    obtain ⟨a, b⟩ := a
    obtain ⟨head, tail⟩ := takes
    refine ⟨?_, ih tail⟩
    rw [← same] at head
    exact head

/-- A value that may be missing where it is written is missing where it is read. -/
theorem Field.nullable_takes {codec : Codec α} {write : β → Json} {make : β → α} {b : Option β} (name : String)
    (reads : ∀ x, b = some x →
      write x ≠ .null ∧ codec.read origin (Document.ofJson (write x)) = .ok (make x)) :
    (Field.nullable name codec).Takes origin (b.map write) (b.map make) := by
  cases b with
  | none => rfl
  | some x =>
    obtain ⟨filled, value⟩ := reads x rfl
    change Decode.optional codec.read origin _ = _
    rw [Decode.optional_ofJson filled, value]
    rfl

/-- A record is read by a layout that makes its value of what stands under its names. -/
theorem Codec.ofLayout_takes {layout : Layout α σ} {toPairs : β → α} {ofPairs : α → β} {a : α} {b : β}
    {found : String → Option Json} (same : ∀ key, (Json.record fields).field? key = found key)
    (unique : (fields.map Prod.fst).Nodup) (distinct : layout.names.Nodup) (enters : origin.inside = .ok inner)
    (takes : layout.Takes inner found a) (inverse : ofPairs a = b) :
    (Codec.ofLayout layout toPairs ofPairs).read origin (Document.ofJson (.record fields)) = .ok b :=
  Codec.ofLayout_reads distinct unique enters (layout.finds_of_takes same takes) inverse

/-! ### What is written -/

/-- The field writes only values of a kind. -/
def Field.Writes (P : Json → Prop) (field : Field α) (a : α) : Prop := ∀ j, field.write a = some j → P j

variable {P : Json → Prop}

theorem Field.required_writes {codec : Codec α} {a : α} (name : String) (kind : P (codec.write a)) :
    (Field.required name codec).Writes P a := by
  intro j written
  obtain rfl := Option.some.inj written
  exact kind

theorem Field.optional_writes {codec : Codec α} {a : Option α} (name : String)
    (kind : ∀ x, a = some x → P (codec.write x)) : (Field.optional name codec).Writes P a := by
  intro j written
  obtain ⟨x, found, rfl⟩ := Option.map_eq_some_iff.mp written
  exact kind x found

namespace Layout

/-- Every field writes only values of a kind. -/
def Writes (P : Json → Prop) : {α σ : Type} → Layout α σ → α → Prop
  | _, _, .done, _ => True
  | _, _, .field first rest, (a, b) => first.Writes P a ∧ rest.Writes P b

theorem forall_mem_write (layout : Layout α σ) {a : α} (writes : layout.Writes P a) :
    ∀ field ∈ layout.write a, P field.2 := by
  induction layout with
  | done => exact fun _ member => absurd member List.not_mem_nil
  | field first rest ih =>
    obtain ⟨a, b⟩ := a
    obtain ⟨head, tail⟩ := writes
    cases written : first.write a with
    | none =>
      simp only [write, written]
      exact ih tail
    | some j =>
      simp only [write, written]
      exact List.forall_mem_cons.mpr ⟨head j written, ih tail⟩

end Layout

variable {depth deeper : Nat}

theorem legibleFields_iff : LegibleFields fields ↔ ∀ field ∈ fields, field.2.Legible := by
  induction fields with
  | nil => simp [LegibleFields]
  | cons field rest ih => simp only [LegibleFields, ih, List.forall_mem_cons]

theorem readableFields_iff : ReadableFields fields ↔ ∀ field ∈ fields, field.2.Readable := by
  induction fields with
  | nil => simp [ReadableFields]
  | cons field rest ih => simp only [ReadableFields, ih, List.forall_mem_cons]

theorem nestingFields_le_iff : nestingFields fields ≤ depth ↔ ∀ field ∈ fields, field.2.nesting ≤ depth := by
  induction fields with
  | nil => simp [nestingFields]
  | cons field rest ih => simp only [nestingFields, Nat.max_le, ih, List.forall_mem_cons]

/-- A value whose text is read back exactly, with at most so much nesting. -/
def LegibleWithin (depth : Nat) (j : Json) : Prop := j.Legible ∧ j.nesting ≤ depth

theorem LegibleWithin.mono {j : Json} (legible : j.LegibleWithin depth) (le : depth ≤ deeper) :
    j.LegibleWithin deeper := ⟨legible.1, Nat.le_trans legible.2 le⟩

theorem legibleWithin_text (s : String) : (Json.text s).LegibleWithin depth := ⟨trivial, Nat.zero_le depth⟩

theorem legibleWithin_bool (b : Bool) : (Json.bool b).LegibleWithin depth := ⟨trivial, Nat.zero_le depth⟩

theorem legibleWithin_int64 {i : Int} (small : Word.isInt64 i = true) : (Json.int i).LegibleWithin depth := by
  simp only [Word.isInt64, Bool.and_eq_true, decide_eq_true_eq] at small
  exact ⟨⟨small.1, Int.le_trans small.2 (by decide)⟩, Nat.zero_le depth⟩

theorem legibleWithin_nat {n : Nat} (small : n ≤ Word.max64) : (Json.nat n).LegibleWithin depth := by
  refine ⟨⟨?_, Int.ofNat_le.mpr small⟩, Nat.zero_le depth⟩
  simp only [Word.maxInt64]
  omega

theorem legibleWithin_list {items : List Json} (each : ∀ j ∈ items, j.LegibleWithin depth) :
    (Json.list items).LegibleWithin (depth + 1) :=
  ⟨legibleItems_iff.mpr fun j member => (each j member).1,
    Nat.succ_le_succ (nestingItems_le_iff.mpr fun j member => (each j member).2)⟩

theorem legibleWithin_record (each : ∀ field ∈ fields, field.2.LegibleWithin depth) :
    (Json.record fields).LegibleWithin (depth + 1) :=
  ⟨legibleFields_iff.mpr fun field member => (each field member).1,
    Nat.succ_le_succ (nestingFields_le_iff.mpr fun field member => (each field member).2)⟩

/-- A value whose text can be read, with at most so much nesting. -/
def ReadableWithin (depth : Nat) (j : Json) : Prop := j.Readable ∧ j.nesting ≤ depth

theorem LegibleWithin.readable {j : Json} (legible : j.LegibleWithin depth) : j.ReadableWithin depth :=
  ⟨(Legible.reread j legible.1).1, legible.2⟩

theorem readableWithin_record (each : ∀ field ∈ fields, field.2.ReadableWithin depth) :
    (Json.record fields).ReadableWithin (depth + 1) :=
  ⟨readableFields_iff.mpr fun field member => (each field member).1,
    Nat.succ_le_succ (nestingFields_le_iff.mpr fun field member => (each field member).2)⟩

/-! ### From one program to another -/

/-- A value that is read from its text as `a`, at most so deeply nested. -/
structure Conveys (depth : Nat) (j : Json) (decoder : Decoder α) (a : α) : Prop where
  legible : j.LegibleWithin depth
  filled : j ≠ .null
  reads : ∀ origin : Origin, origin.Admits depth → decoder origin (Document.ofJson j) = .ok a

theorem Conveys.mono {j : Json} {decoder : Decoder α} {a : α} (conveys : j.Conveys depth decoder a)
    (le : depth ≤ deeper) : j.Conveys deeper decoder a where
  legible := conveys.legible.mono le
  filled := conveys.filled
  reads origin admits := conveys.reads origin (admits.mono le)

theorem Codec.Returns.conveys {codec : Codec α} {a : α} (returns : codec.Returns depth a) :
    (codec.write a).Conveys depth codec.read a :=
  ⟨⟨returns.legible, returns.shallow⟩, returns.filled, returns.reads⟩

theorem Conveys.returns {codec : Codec α} {a : α} (conveys : (codec.write a).Conveys depth codec.read a) :
    codec.Returns depth a :=
  ⟨conveys.legible.1, conveys.filled, conveys.legible.2, conveys.reads⟩

/-- A list conveys what its items convey. -/
theorem conveys_list {write : β → Json} {codec : Codec α} {make : β → α} {bs : List β}
    (each : ∀ b ∈ bs, (write b).Conveys depth codec.read (make b)) :
    (Json.list (bs.map write)).Conveys (depth + 1) (Decode.list codec.read) (bs.map make) where
  legible := by
    refine legibleWithin_list fun j member => ?_
    obtain ⟨b, listed, rfl⟩ := List.mem_map.mp member
    exact (each b listed).legible
  filled := nofun
  reads origin admits := by
    obtain ⟨inner, enters, allows⟩ := admits.inside
    have all : Decode.all codec.read inner (Document.ofItems (bs.map write)) = .ok (bs.map make) := by
      clear enters
      induction bs with
      | nil => rfl
      | cons b rest ih =>
        have head := (each b List.mem_cons_self).reads inner allows
        have tail := ih fun c member => each c (List.mem_cons_of_mem _ member)
        simp only [List.map_cons, Document.ofItems, Decode.all, head, tail, bind, Except.bind, pure, Except.pure]
    simp only [Document.ofJson, Decode.list, enters, all, Closing.check, bind, Except.bind, pure, Except.pure]

/-! ### What was read -/

/-- The field with this name, if there is one, makes a value of what stands there. -/
def Layout.Reads (origin : Origin) (key : String) (d : Document) : {α σ : Type} → Layout α σ → Prop
  | _, _, .done => True
  | _, _, .field first rest =>
    if key = first.name then ∃ a, first.read origin d = .ok a else rest.Reads origin key d

namespace Layout

variable {layout : Layout α σ} {slots last : σ} {d : Document}

theorem reads_of_feed (fed : ∀ fault, layout.feed origin key d slots ≠ some (.error fault)) :
    layout.Reads origin key d := by
  induction layout with
  | done => trivial
  | field first rest ih =>
    obtain ⟨slot, slots⟩ := slots
    simp only [Reads]
    split
    · next here =>
      subst here
      cases slot with
      | some a => exact absurd (by simp only [feed, if_true]) (fed .mismatch)
      | none =>
        cases read : first.read origin d with
        | ok a => exact ⟨a, rfl⟩
        | error fault => exact absurd (by simp only [feed, if_true, read]; rfl) (fed fault)
    · next elsewhere =>
      refine @ih slots fun fault wrong => fed fault ?_
      simp only [feed, if_neg elsewhere, wrong]
      rfl

/-- Reading succeeds only if every field that stands in the record could be read. -/
theorem reads_of_readEntries (success : layout.readEntries origin slots (Document.ofFields fields) = .ok last) :
    ∀ field ∈ fields, layout.Reads origin field.1 (Document.ofJson field.2) := by
  induction fields generalizing slots with
  | nil => exact List.forall_mem_nil _
  | cons field rest ih =>
    obtain ⟨key, j⟩ := field
    simp only [Document.ofFields, readEntries, Document.asText, bind, Except.bind] at success
    have fed (fault : DecodeError) : layout.feed origin key (Document.ofJson j) slots ≠ some (.error fault) := by
      intro wrong
      rw [wrong] at success
      cases success
    refine List.forall_mem_cons.mpr ⟨reads_of_feed fed, ?_⟩
    · split at success
      · split at success
        · cases success
        · exact ih success
      · split at success
        · cases success
        · exact ih success

end Layout

theorem Layout.reads_of_map_read {layout : Layout α σ} {make : α → β} {b : β}
    (success : (layout.read origin (Document.ofJson (.record fields))).map make = .ok b) :
    ∃ inner, origin.inside = .ok inner ∧ ∀ field ∈ fields, layout.Reads inner field.1 (Document.ofJson field.2) := by
  cases enters : origin.inside with
  | error fault =>
    simp only [Document.ofJson, read, enters, bind, Except.bind] at success
    cases success
  | ok inner =>
    cases read : layout.readEntries inner layout.empty (Document.ofFields fields) with
    | error fault =>
      simp only [Document.ofJson, Layout.read, readRecord, enters, read, bind, Except.bind] at success
      cases success
    | ok last => exact ⟨inner, rfl, reads_of_readEntries read⟩

theorem mem_of_field? {j : Json} (found : (Json.record fields).field? key = some j) : (key, j) ∈ fields := by
  obtain ⟨⟨name, value⟩, listed, rfl⟩ := Option.map_eq_some_iff.mp found
  have same : (name == key) = true := List.find?_some (p := fun field : String × Json => field.1 == key) listed
  exact eq_of_beq same ▸ List.mem_of_find?_eq_some listed

theorem inside_text (depth : Nat) : (Origin.text (depth + 1 + 1)).inside = .ok (.text (depth + 1)) := by
  unfold Origin.inside
  exact if_pos (Nat.succ_lt_succ (Nat.succ_pos depth))

mutual
/-- What was collected whole is not nested too deeply. -/
theorem nesting_le_of_whole : (j : Json) → {depth : Nat} → {whole : Json} →
    (Document.ofJson j).whole (.text (depth + 1)) = .ok whole → j.nesting ≤ depth
  | .null, _, _, _ | .bool _, _, _, _ | .number _, _, _, _ | .text _, _, _, _ => Nat.zero_le _
  | .list _, 0, _, success | .record _, 0, _, success => by cases success
  | .list items, depth + 1, _, success => by
    cases all : wholeItems (.text (depth + 1)) (Document.ofItems items) with
    | error fault =>
      simp only [Document.ofJson, Document.whole, inside_text, all, bind, Except.bind] at success
      cases success
    | ok values => exact Nat.succ_le_succ (nestingItems_le_of_whole items all)
  | .record fields, depth + 1, _, success => by
    cases all : wholeEntries (.text (depth + 1)) (Document.ofFields fields) with
    | error fault =>
      simp only [Document.ofJson, Document.whole, inside_text, all, bind, Except.bind] at success
      cases success
    | ok values => exact Nat.succ_le_succ (nestingFields_le_of_whole fields all)

theorem nestingItems_le_of_whole : (items : List Json) → {depth : Nat} → {whole : List Json} →
    wholeItems (.text (depth + 1)) (Document.ofItems items) = .ok whole → nestingItems items ≤ depth
  | [], _, _, _ => Nat.zero_le _
  | j :: rest, depth, _, success => by
    cases first : (Document.ofJson j).whole (.text (depth + 1)) with
    | error fault =>
      simp only [Document.ofItems, wholeItems, first, bind, Except.bind] at success
      cases success
    | ok value =>
      cases others : wholeItems (.text (depth + 1)) (Document.ofItems rest) with
      | error fault =>
        simp only [Document.ofItems, wholeItems, first, others, bind, Except.bind] at success
        cases success
      | ok values => exact Nat.max_le.mpr ⟨nesting_le_of_whole j first, nestingItems_le_of_whole rest others⟩

theorem nestingFields_le_of_whole : (fields : List (String × Json)) → {depth : Nat} →
    {whole : List (String × Json)} → wholeEntries (.text (depth + 1)) (Document.ofFields fields) = .ok whole →
    nestingFields fields ≤ depth
  | [], _, _, _ => Nat.zero_le _
  | (key, j) :: rest, depth, _, success => by
    cases first : (Document.ofJson j).whole (.text (depth + 1)) with
    | error fault =>
      simp only [Document.ofFields, wholeEntries, Document.asText, first, bind, Except.bind] at success
      cases success
    | ok value =>
      cases others : wholeEntries (.text (depth + 1)) (Document.ofFields rest) with
      | error fault =>
        simp only [Document.ofFields, wholeEntries, Document.asText, first, others, bind, Except.bind] at success
        cases success
      | ok values => exact Nat.max_le.mpr ⟨nesting_le_of_whole j first, nestingFields_le_of_whole rest others⟩
end

theorem nesting_le_of_anything {j found : Json} {depth : Nat}
    (success : Decode.anything (.text (depth + 1)) (Document.ofJson j) = .ok found) : j.nesting ≤ depth := by
  cases whole : (Document.ofJson j).whole (.text (depth + 1)) with
  | error fault =>
    rw [Decode.anything, whole] at success
    cases success
  | ok value => exact nesting_le_of_whole j whole

end Reindexing.Json
