import Reindexing.Proofs.Json.Doubles
import Reindexing.Proofs.Json.Hex

/-!
# Reading undoes writing

The compact text of a value is read back as the document of the value, whatever
follows it. Texts are read back character by character; a numeral must not run
into what follows; and lists and records go through their items. A double is read
as the double that its decimals are read as, which need not be the same one; so a
`Readable` value, whose numbers are ones that there are, is read as its `reread` form.
`Legible` values have integers only, of the size that is read exactly, and are read as
they are.
-/
namespace Reindexing

namespace Json

/-! ### Texts -/

/-- A character is written by a short escape, by its number, or as it is. -/
theorem escapeChar_cases (c : Char) :
    (∃ d, d ≠ 'u' ∧ 0x20 ≤ d.toNat ∧ simpleEscape? d = some c ∧ escapeChar false c = ['\\', d]) ∨
    (c.toNat < 0x20 ∧ escapeChar false c = escapeUnit c.toNat) ∨
    (c ≠ '"' ∧ c ≠ '\\' ∧ 0x20 ≤ c.toNat ∧ escapeChar false c = [c]) := by
  by_cases short : c ∈ ['"', '\\', '\n', '\r', '\t', '\x08', '\x0c']
  · simp only [List.mem_cons, List.not_mem_nil, or_false] at short
    rcases short with rfl | rfl | rfl | rfl | rfl | rfl | rfl
    all_goals exact .inl ⟨_, by decide, by decide, rfl, rfl⟩
  · simp only [List.mem_cons, List.not_mem_nil, or_false, not_or] at short
    obtain ⟨quote, backslash, line, ret, tab, back, page⟩ := short
    rw [escapeChar, if_neg quote, if_neg backslash, if_neg line, if_neg ret, if_neg tab, if_neg back,
      if_neg page]
    by_cases control : c.toNat < 0x20
    · exact .inr (.inl ⟨control, if_pos control⟩)
    · exact .inr (.inr ⟨quote, backslash, Nat.not_lt.mp control, if_neg control⟩)

/-- The written form of a character is read as the character. -/
theorem readText_escapeChar (done : List Char) (fuel : Nat) (c : Char) (rest : List Char) :
    readText (some done) (fuel + 1) (escapeChar false c ++ rest) = readText (some (c :: done)) fuel rest := by
  rcases escapeChar_cases c with
    ⟨d, other, _, short, written⟩ | ⟨control, written⟩ | ⟨quote, backslash, above, written⟩
  · rw [written, List.cons_append, List.singleton_append, readText, short]
    · rfl
    · exact other
  · have low : ¬ (0xd800 ≤ c.toNat ∧ c.toNat < 0xdc00) ∧ ¬ (0xdc00 ≤ c.toNat ∧ c.toNat < 0xe000) := by omega
    have unit := readUnit_hexDigits (n := c.toNat) (by omega) rest
    rw [written, escapeUnit, List.cons_append, List.cons_append, readText, unit]
    dsimp only
    rw [if_neg low.1, if_neg low.2, Option.map_some, Char.ofNat_toNat]
  · rw [written, List.singleton_append, readText]
    · rw [if_neg (Nat.not_lt.mpr above), Option.map_some]
    · exact quote
    all_goals simp [backslash]

theorem readText_flatMap (cs : List Char) (done : List Char) {fuel : Nat} (enough : cs.length < fuel)
    (rest : List Char) :
    readText (some done) fuel (cs.flatMap (escapeChar false) ++ '"' :: rest) =
      (.text (String.ofList (done.reverse ++ cs)), some rest) := by
  induction cs generalizing done fuel with
  | nil =>
    obtain ⟨fuel, rfl⟩ := Nat.exists_eq_succ_of_ne_zero (Nat.ne_zero_of_lt enough)
    simp [readText]
  | cons c cs ih =>
    obtain ⟨fuel, rfl⟩ := Nat.exists_eq_succ_of_ne_zero (Nat.ne_zero_of_lt enough)
    rw [List.flatMap_cons, List.append_assoc, readText_escapeChar, ih (c :: done) (by simpa using enough)]
    simp

theorem escapeChar_ne_nil (c : Char) : escapeChar false c ≠ [] := by
  rcases escapeChar_cases c with ⟨d, _, _, _, written⟩ | ⟨_, written⟩ | ⟨_, _, _, written⟩
  all_goals
    rw [written]
    exact List.cons_ne_nil _ _

theorem length_le_flatMap (cs : List Char) : cs.length ≤ (cs.flatMap (escapeChar false)).length := by
  induction cs with
  | nil => exact Nat.le_refl 0
  | cons c cs ih =>
    have some_char := List.length_pos_iff.mpr (escapeChar_ne_nil c)
    rw [List.flatMap_cons, List.length_append, List.length_cons]
    omega

/-- A quoted text behind its opening quote. -/
def textBody (s : String) : List Char := s.toList.flatMap (escapeChar false) ++ ['"']

theorem quoteChars_eq (s : String) : quoteChars false s = '"' :: textBody s := rfl

/-- A quoted text is read back from behind its opening quote. -/
theorem readText_textBody (s : String) (rest : List Char) :
    readText (some []) ((textBody s ++ rest).length + 1) (textBody s ++ rest) = (.text s, some rest) := by
  have enough := length_le_flatMap s.toList
  rw [textBody, List.append_assoc, List.singleton_append, readText_flatMap]
  · rw [List.reverse_nil, List.nil_append, String.ofList_toList]
  · rw [List.length_append]
    omega

/-! ### Values -/

mutual
/-- A value whose text is read back exactly. -/
def Legible : Json → Prop
  | .null | .bool _ | .text _ => True
  | .number n => n.IsExact
  | .list items => LegibleItems items
  | .record fields => LegibleFields fields

def LegibleItems : List Json → Prop
  | [] => True
  | j :: rest => j.Legible ∧ LegibleItems rest

def LegibleFields : List (String × Json) → Prop
  | [] => True
  | (_, j) :: rest => j.Legible ∧ LegibleFields rest
end

mutual
/-- A value whose numbers are integers of 64 bits and finite doubles; no other numbers are held by values. -/
def Readable : Json → Prop
  | .null | .bool _ | .text _ => True
  | .number n => n.IsHeld
  | .list items => ReadableItems items
  | .record fields => ReadableFields fields

def ReadableItems : List Json → Prop
  | [] => True
  | j :: rest => j.Readable ∧ ReadableItems rest

def ReadableFields : List (String × Json) → Prop
  | [] => True
  | (_, j) :: rest => j.Readable ∧ ReadableFields rest
end

mutual
/-- What the text of a value is read as. -/
def reread : Json → Json
  | .number n => .number (n.reread?.getD n)
  | .list items => .list (rereadItems items)
  | .record fields => .record (rereadFields fields)
  | j => j

def rereadItems : List Json → List Json
  | [] => []
  | j :: rest => j.reread :: rereadItems rest

def rereadFields : List (String × Json) → List (String × Json)
  | [] => []
  | (key, j) :: rest => (key, j.reread) :: rereadFields rest
end

mutual
/-- A legible value is read as it is. -/
theorem Legible.reread : (j : Json) → j.Legible → j.Readable ∧ j.reread = j
  | .null, _ | .bool _, _ | .text _, _ => ⟨trivial, rfl⟩
  | .number n, legible => by
    have reads := reread?_of_exact legible
    exact ⟨Number.IsExact.held legible, by rw [Json.reread, reads, Option.getD_some]⟩
  | .list items, legible => by
    obtain ⟨readable, same⟩ := LegibleItems.reread items legible
    exact ⟨readable, congrArg Json.list same⟩
  | .record fields, legible => by
    obtain ⟨readable, same⟩ := LegibleFields.reread fields legible
    exact ⟨readable, congrArg Json.record same⟩

theorem LegibleItems.reread : (items : List Json) → LegibleItems items →
    ReadableItems items ∧ rereadItems items = items
  | [], _ => ⟨trivial, rfl⟩
  | j :: rest, legible => by
    obtain ⟨readable, same⟩ := Legible.reread j legible.1
    obtain ⟨readable_rest, same_rest⟩ := LegibleItems.reread rest legible.2
    exact ⟨⟨readable, readable_rest⟩, congrArg₂ List.cons same same_rest⟩

theorem LegibleFields.reread : (fields : List (String × Json)) → LegibleFields fields →
    ReadableFields fields ∧ rereadFields fields = fields
  | [], _ => ⟨trivial, rfl⟩
  | (key, j) :: rest, legible => by
    obtain ⟨readable, same⟩ := Legible.reread j legible.1
    obtain ⟨readable_rest, same_rest⟩ := LegibleFields.reread rest legible.2
    exact ⟨⟨readable, readable_rest⟩, congrArg₂ List.cons (congrArg (Prod.mk key) same) same_rest⟩
end

theorem skipSpace_cons {c : Char} (visible : isSpace c = false) (cs : List Char) :
    skipSpace (c :: cs) = c :: cs := by
  rw [skipSpace, List.dropWhile_cons_of_neg (by rw [visible]; exact Bool.false_ne_true)]

theorem ne_of_startsNumeral {c d : Char} (starts : startsNumeral c = true) (other : startsNumeral d = false) :
    c ≠ d := by
  rintro rfl
  rw [starts] at other
  cases other

theorem isSpace_of_startsNumeral {c : Char} (starts : startsNumeral c = true) : isSpace c = false := by
  have blank := ne_of_startsNumeral starts (d := ' ') rfl
  have line := ne_of_startsNumeral starts (d := '\n') rfl
  have tab := ne_of_startsNumeral starts (d := '\t') rfl
  have ret := ne_of_startsNumeral starts (d := '\r') rfl
  simp [isSpace, blank, line, tab, ret]

/-- The front of a value's text is no blank and closes nothing. -/
theorem compactChars_front {j : Json} (readable : j.Readable) :
    ∃ c cs, compactChars false j = c :: cs ∧ isSpace c = false ∧ c ≠ ']' := by
  cases j with
  | null => exact ⟨'n', _, rfl, rfl, by decide⟩
  | bool b => cases b <;> exact ⟨_, _, rfl, rfl, by decide⟩
  | number n =>
    obtain ⟨m, reads⟩ := Option.isSome_iff_exists.mp (reread?_of_held readable)
    obtain ⟨_, numeral, _⟩ := numeral_of_reread? reads
    obtain ⟨c, cs, front, starts⟩ := readNumeral_front numeral
    exact ⟨c, cs, front, isSpace_of_startsNumeral starts, ne_of_startsNumeral starts rfl⟩
  | text s => exact ⟨'"', _, rfl, rfl, by decide⟩
  | list items => cases items <;> exact ⟨'[', _, rfl, rfl, by decide⟩
  | record fields => cases fields <;> exact ⟨'\x7b', _, rfl, rfl, by decide⟩

theorem endsNumeral_cons {c : Char} (other : Decimal.isDigit c = false ∧ c ≠ '.' ∧ c ≠ 'e' ∧ c ≠ 'E')
    (rest : List Char) : EndsNumeral (c :: rest) := by
  intro d first
  obtain rfl := Option.some.inj first
  exact other

theorem endsNumeral_compactItems (items : List Json) (rest : List Char) :
    EndsNumeral (compactItems false items ++ rest) := by
  cases items <;> exact endsNumeral_cons (by decide) _

theorem endsNumeral_compactFields (fields : List (String × Json)) (rest : List Char) :
    EndsNumeral (compactFields false fields ++ rest) := by
  cases fields <;> exact endsNumeral_cons (by decide) _

/-- With so much fuel, the text of a value is read as its document. -/
def ReadsValues (fuel : Nat) : Prop :=
  ∀ (j : Json) (rest : List Char), j.Readable → 2 * (compactChars false j).length ≤ fuel → EndsNumeral rest →
    readValue fuel (compactChars false j ++ rest) = (Document.ofJson j.reread, some rest)

/-- With so much fuel, the items of a list are read from the start of one. -/
def ReadsItems (fuel : Nat) : Prop :=
  ∀ (j : Json) (items : List Json) (done : List Document) (rest : List Char),
    j.Readable → ReadableItems items →
    2 * (compactChars false j ++ compactItems false items).length < fuel →
    readItems fuel done (compactChars false j ++ (compactItems false items ++ rest)) =
      (.list (done.reverse ++ Document.ofItems (rereadItems (j :: items))) .closed, some rest)

/-- With so much fuel, the entries of a record are read from behind the quote that opens a key. -/
def ReadsEntries (fuel : Nat) : Prop :=
  ∀ (k : String) (j : Json) (fields : List (String × Json)) (done : List (Document × Document))
    (rest : List Char), j.Readable → ReadableFields fields →
    2 * (textBody k ++ ':' :: (compactChars false j ++ compactFields false fields)).length < fuel →
    readEntries fuel done (textBody k ++ ':' :: (compactChars false j ++ (compactFields false fields ++ rest))) =
      (.record (done.reverse ++ Document.ofFields (rereadFields ((k, j) :: fields))) .closed, some rest)

theorem readsItems_succ {fuel : Nat} (values : ReadsValues fuel) (items : ReadsItems fuel) :
    ReadsItems (fuel + 1) := by
  intro j more done rest readable readable_more enough
  rw [List.length_append] at enough
  have value := values j (compactItems false more ++ rest) readable (by omega) (endsNumeral_compactItems more rest)
  rw [readItems, value]
  cases more with
  | nil => simp [compactItems, skipSpace_cons (c := ']') rfl, Document.ofItems, rereadItems]
  | cons k more =>
    obtain ⟨readable_next, readable_more⟩ := readable_more
    obtain ⟨c, cs, front, visible, open_⟩ := compactChars_front readable_next
    have next := items k more (Document.ofJson j.reread :: done) rest readable_next readable_more (by
      simp only [compactItems, List.length_cons, List.length_append] at enough ⊢
      omega)
    simp only [compactItems, List.cons_append, List.append_assoc, skipSpace_cons (c := ',') rfl]
    rw [front] at next ⊢
    simp only [List.cons_append, skipSpace_cons visible] at next ⊢
    split
    · next ended => cases ended
    · next closed => exact absurd (List.cons.inj closed).1 open_
    · rw [next]
      simp [Document.ofItems, rereadItems]

theorem readsEntries_succ {fuel : Nat} (values : ReadsValues fuel) (entries : ReadsEntries fuel) :
    ReadsEntries (fuel + 1) := by
  intro k j more done rest readable readable_more enough
  simp only [List.length_append, List.length_cons] at enough
  have value := values j (compactFields false more ++ rest) readable (by omega) (endsNumeral_compactFields more rest)
  rw [readEntries, readText_textBody]
  simp only [skipSpace_cons (c := ':') rfl, value]
  cases more with
  | nil => simp [compactFields, skipSpace_cons (c := '\x7d') rfl, Document.ofFields, rereadFields]
  | cons field more =>
    obtain ⟨name, next⟩ := field
    obtain ⟨readable_next, readable_more⟩ := readable_more
    have tail := entries name next more ((.text k, Document.ofJson j.reread) :: done) rest readable_next
      readable_more (by
        simp only [compactFields, quoteChars_eq, List.length_cons, List.length_append] at enough ⊢
        omega)
    simp only [compactFields, quoteChars_eq, List.cons_append, List.append_assoc, skipSpace_cons (c := ',') rfl,
      skipSpace_cons (c := '"') rfl, tail]
    simp [Document.ofFields, rereadFields]

theorem readValue_numeral {fuel : Nat} {c : Char} {cs rest : List Char} {n : Numeral}
    (starts : startsNumeral c = true) (numeral : readNumeral (c :: cs) = .ok (n, rest)) :
    readValue (fuel + 1) (c :: cs) = ((n.value?.map Document.number).getD .hugeNumber, some rest) := by
  have ne (d : Char) (other : startsNumeral d = false) (tail : List Char) : c :: cs ≠ d :: tail :=
    fun same => ne_of_startsNumeral starts other (List.cons.inj same).1
  rw [readValue, skipSpace_cons (isSpace_of_startsNumeral starts)]
  split
  · next ended => cases ended
  · next same => exact absurd same (ne _ rfl _)
  · next same => exact absurd same (ne _ rfl _)
  · next same => exact absurd same (ne _ rfl _)
  · next same => exact absurd same (ne _ rfl _)
  · next same => exact absurd same (ne _ rfl _)
  · next same => exact absurd same (ne _ rfl _)
  · next same =>
    obtain ⟨rfl, rfl⟩ := List.cons.inj same
    unfold startsNumeral at starts
    rw [if_pos starts, numeral]
    dsimp only
    cases n.value? <;> rfl

theorem readsValues_succ {fuel : Nat} (items : ReadsItems fuel) (entries : ReadsEntries fuel) :
    ReadsValues (fuel + 1) := by
  intro j rest readable enough ends
  cases j with
  | null => rfl
  | bool b => cases b <;> rfl
  | text s => exact readText_textBody s rest
  | number n =>
    obtain ⟨m, reads⟩ := Option.isSome_iff_exists.mp (reread?_of_held readable)
    obtain ⟨read, numeral, value⟩ := numeral_of_reread? reads
    obtain ⟨c, cs, front, starts⟩ := readNumeral_front numeral
    have whole := readNumeral_stops numeral ends
    rw [front, List.cons_append] at whole
    rw [compactChars, front, List.cons_append, readValue_numeral starts whole, value, Json.reread, reads]
    rfl
  | list all =>
    cases all with
    | nil => rfl
    | cons j more =>
      obtain ⟨readable, readable_more⟩ := readable
      obtain ⟨c, cs, front, visible, open_⟩ := compactChars_front readable
      have read := items j more [] rest readable readable_more (by
        simp only [compactChars, List.length_cons] at enough
        omega)
      simp only [compactChars, List.cons_append, List.append_assoc, readValue, skipSpace_cons (c := '[') rfl]
      rw [front] at read ⊢
      simp only [List.cons_append, skipSpace_cons visible] at read ⊢
      split
      · next ended => cases ended
      · next closed => exact absurd (List.cons.inj closed).1 open_
      · rw [read]
        rfl
  | record all =>
    cases all with
    | nil => rfl
    | cons field more =>
      obtain ⟨k, j⟩ := field
      obtain ⟨readable, readable_more⟩ := readable
      have read := entries k j more [] rest readable readable_more (by
        simp only [compactChars, quoteChars_eq, List.length_cons, List.length_append] at enough ⊢
        omega)
      simp only [compactChars, quoteChars_eq, List.cons_append, List.append_assoc, readValue,
        skipSpace_cons (c := '\x7b') rfl, skipSpace_cons (c := '"') rfl, read]
      rfl

/-- With enough fuel, everything is read. -/
theorem readsAll (fuel : Nat) : ReadsValues fuel ∧ ReadsItems fuel ∧ ReadsEntries fuel := by
  induction fuel with
  | zero =>
    refine ⟨?_, fun _ _ _ _ _ _ enough => absurd enough (Nat.not_lt_zero _),
      fun _ _ _ _ _ _ _ enough => absurd enough (Nat.not_lt_zero _)⟩
    intro j rest readable enough
    obtain ⟨c, cs, front, _⟩ := compactChars_front readable
    rw [front, List.length_cons] at enough
    omega
  | succ fuel ih =>
    obtain ⟨values, items, entries⟩ := ih
    exact ⟨readsValues_succ items entries, readsItems_succ values items, readsEntries_succ values entries⟩

/-- The compact text of a readable value is read, and nothing is left. -/
theorem read_compact_readable {j : Json} (readable : j.Readable) :
    Document.read j.compact = (Document.ofJson j.reread, some []) := by
  have read := (readsAll (2 * (compactChars false j).length + 2)).1 j [] readable (by omega) nofun
  rw [List.append_nil] at read
  rw [Document.read, compact, String.toList_ofList]
  exact read

/-- The compact text of a value is read as the value, and nothing is left. -/
theorem read_compact {j : Json} (legible : j.Legible) :
    Document.read j.compact = (Document.ofJson j, some []) := by
  obtain ⟨readable, same⟩ := Legible.reread j legible
  rw [read_compact_readable readable, same]

/-! ### Control characters -/

/-- No character is a control character. -/
def Printable (cs : List Char) : Prop := ∀ c ∈ cs, 0x20 ≤ c.toNat

theorem printable_cons {c : Char} {cs : List Char} : Printable (c :: cs) ↔ 0x20 ≤ c.toNat ∧ Printable cs :=
  List.forall_mem_cons

theorem printable_append {a b : List Char} : Printable (a ++ b) ↔ Printable a ∧ Printable b :=
  List.forall_mem_append

theorem printable_escapeChar (c : Char) : Printable (escapeChar false c) := by
  rcases escapeChar_cases c with ⟨d, _, above, _, written⟩ | ⟨_, written⟩ | ⟨_, _, above, written⟩
  · rw [written, printable_cons, printable_cons]
    exact ⟨by decide, above, nofun⟩
  · rw [written, escapeUnit, printable_cons, printable_cons]
    exact ⟨by decide, by decide, fun d member => printable_hexDigits member⟩
  · rw [written, printable_cons]
    exact ⟨above, nofun⟩

theorem printable_quoteChars (s : String) : Printable (quoteChars false s) := by
  rw [quoteChars_eq, textBody, printable_cons, printable_append]
  refine ⟨by decide, ?_, by simp [Printable]⟩
  intro c member
  obtain ⟨d, _, escaped⟩ := List.mem_flatMap.mp member
  exact printable_escapeChar d c escaped

theorem printable_signed (negative : Bool) (n : Nat) : Printable (signed negative n) := by
  have digits : Printable (Decimal.digits n) := by
    intro c member
    obtain ⟨first, _⟩ := Decimal.isDigit_iff.mp (Decimal.isDigit_of_mem_digits member)
    omega
  cases negative with
  | true => exact printable_cons.mpr ⟨by decide, digits⟩
  | false => exact digits

mutual
theorem printable_compactChars : (j : Json) → j.Legible → Printable (compactChars false j)
  | .null, _ | .bool true, _ | .bool false, _ => by simp [compactChars, Printable]
  | .number (.int i), _ => by
    rw [compactChars, numberChars_int]
    exact printable_signed _ _
  | .text s, _ => printable_quoteChars s
  | .list [], _ | .record [], _ => by simp [compactChars, Printable]
  | .list (j :: rest), legible => by
    rw [compactChars, printable_cons, printable_append]
    exact ⟨by decide, printable_compactChars j legible.1, printable_compactItems rest legible.2⟩
  | .record ((k, j) :: rest), legible => by
    rw [compactChars, printable_cons, printable_append, printable_cons, printable_append]
    exact ⟨by decide, printable_quoteChars k, by decide, printable_compactChars j legible.1,
      printable_compactFields rest legible.2⟩

theorem printable_compactItems : (items : List Json) → LegibleItems items → Printable (compactItems false items)
  | [], _ => by simp [compactItems, Printable]
  | j :: rest, legible => by
    rw [compactItems, printable_cons, printable_append]
    exact ⟨by decide, printable_compactChars j legible.1, printable_compactItems rest legible.2⟩

theorem printable_compactFields :
    (fields : List (String × Json)) → LegibleFields fields → Printable (compactFields false fields)
  | [], _ => by simp [compactFields, Printable]
  | (k, j) :: rest, legible => by
    rw [compactFields, printable_cons, printable_append, printable_cons, printable_append]
    exact ⟨by decide, printable_quoteChars k, by decide, printable_compactChars j legible.1,
      printable_compactFields rest legible.2⟩
end

/-- The compact text of a value is a single line. -/
theorem compact_printable {j : Json} (legible : j.Legible) : Printable j.compact.toList := by
  rw [compact, String.toList_ofList]
  exact printable_compactChars j legible

end Json

end Reindexing
