import Reindexing.Proofs.Text.Replacement
import Reindexing.Trace

/-!
# Addresses of trace links

A template consists of places and other characters. The address that its places ask for
has the values of the link in all of them at once. What is rendered has those of the
trace first, and then those of the span in every place for a span that the text has by
then. The two differ when the trace completes such a place: the id may hold one, or form
one with the characters around it.

Whether that can happen depends on the id alone. An id is harmless in every template if no
place for a span can start in it and it cannot start in one.
-/
namespace Reindexing.TraceLinker

/-! ### Pieces of a template -/

/-- What a place in a template stands for. -/
inductive Place where
  | trace
  | span
  deriving DecidableEq, Repr

/-- What stands behind the brace that opens a place. -/
def Place.name : Place → List Char
  | .trace => "trace_id\x7d".toList
  | .span => "span_id\x7d".toList

/-- A place as it stands in a template. -/
abbrev Place.chars (p : Place) : List Char := '{' :: p.name

theorem toList_tracePlace : tracePlace.toList = Place.trace.chars := rfl

theorem toList_spanPlace : spanPlace.toList = Place.span.chars := rfl

/-- The place that a text starts with. -/
def placeAt? (cs : List Char) : Option Place := [Place.trace, .span].find? (·.chars.isPrefixOf cs)

inductive Piece where
  | text (c : Char)
  | place (p : Place)
  deriving DecidableEq, Repr

/-- The pieces of a template; `skip` characters belong to the last place. -/
def piecesFrom : Nat → List Char → List Piece
  | _, [] => []
  | skip + 1, _ :: rest => piecesFrom skip rest
  | 0, c :: rest =>
    match placeAt? (c :: rest) with
    | some p => .place p :: piecesFrom p.name.length rest
    | none => .text c :: piecesFrom 0 rest

def values (trace span : List Char) : Place → List Char
  | .trace => trace
  | .span => span

/-- The text of pieces, with a value in each place. -/
def fill (value : Place → List Char) (pieces : List Piece) : List Char :=
  pieces.flatMap fun
    | .text c => [c]
    | .place p => value p

/-- A template with all its places filled at once. Values and other characters are taken as they are. -/
def substitute (template trace span : String) : String :=
  String.ofList (fill (values trace.toList span.toList) (piecesFrom 0 template.toList))

/-- How many places for a span a text has. -/
def spanPlaces (text : String) : Nat := Text.occurrences spanPlace.toList text.toList

variable {p other : Place} {value : Place → List Char} {c : Char} {pieces : List Piece}
  {cs trace span front back : List Char}

@[simp] theorem fill_nil : fill value [] = [] := rfl

@[simp] theorem fill_text : fill value (.text c :: pieces) = c :: fill value pieces := rfl

@[simp] theorem fill_place : fill value (.place p :: pieces) = value p ++ fill value pieces := rfl

@[simp] theorem values_trace : values trace span .trace = trace := rfl

@[simp] theorem values_span : values trace span .span = span := rfl

theorem Place.opened (p : Place) : '{' ∉ p.name := by cases p <;> decide

/-- Two places do not start at the same position. -/
theorem Place.unique (here : p.chars <+: cs) (there : other.chars <+: cs) : p = other := by
  have agree := List.prefix_or_prefix_of_prefix here there
  revert agree
  cases p <;> cases other <;> decide

theorem Place.not_starts (different : p ≠ other) : ¬ p.chars <+: '{' :: (other.name ++ cs) := fun starts =>
  different (Place.unique starts (List.prefix_append other.chars cs))

theorem starts_of_placeAt? (found : placeAt? cs = some p) : p.chars <+: cs := by
  have here := List.find?_some (p := fun p : Place => p.chars.isPrefixOf cs) found
  exact List.isPrefixOf_iff_prefix.mp here

theorem placeAt?_eq_some_iff : placeAt? cs = some p ↔ p.chars <+: cs := by
  refine ⟨starts_of_placeAt?, fun here => ?_⟩
  cases found : placeAt? cs with
  | none =>
    have missing := List.find?_eq_none.mp found p (by cases p <;> simp)
    exact absurd (List.isPrefixOf_iff_prefix.mpr here) missing
  | some first => rw [Place.unique (starts_of_placeAt? found) here]

/-- A template as it is read from left to right: a place where one starts, and else a character. -/
inductive Reads : List Char → List Piece → Prop
  | nil : Reads [] []
  | place {cs : List Char} {pieces : List Piece} (p : Place) (rest : Reads cs pieces) :
      Reads (p.chars ++ cs) (.place p :: pieces)
  | text {c : Char} {cs : List Char} {pieces : List Piece} (none : ∀ p : Place, ¬ p.chars <+: c :: cs)
      (rest : Reads cs pieces) : Reads (c :: cs) (.text c :: pieces)

theorem piecesFrom_skip (front cs : List Char) : piecesFrom front.length (front ++ cs) = piecesFrom 0 cs := by
  induction front with
  | nil => rfl
  | cons c front ih => exact ih

theorem piecesFrom_place (p : Place) (cs : List Char) :
    piecesFrom 0 (p.chars ++ cs) = .place p :: piecesFrom 0 cs := by
  have found : placeAt? ('{' :: (p.name ++ cs)) = some p :=
    placeAt?_eq_some_iff.mpr (List.prefix_append p.chars cs)
  simp only [List.cons_append, piecesFrom, found, piecesFrom_skip]

theorem piecesFrom_text (none : ∀ p : Place, ¬ p.chars <+: c :: cs) :
    piecesFrom 0 (c :: cs) = .text c :: piecesFrom 0 cs := by
  have found : placeAt? (c :: cs) = .none :=
    Option.eq_none_iff_forall_ne_some.mpr fun p found => none p (placeAt?_eq_some_iff.mp found)
  simp only [piecesFrom, found]

theorem reads_piecesFrom (cs : List Char) : Reads cs (piecesFrom 0 cs) := by
  induction size : cs.length using Nat.strong_induction_on generalizing cs with
  | h n ih =>
    subst size
    cases cs with
    | nil => exact .nil
    | cons c cs =>
      by_cases none : ∀ p : Place, ¬ p.chars <+: c :: cs
      · rw [piecesFrom_text none]
        exact .text none (ih _ (Nat.lt_succ_self _) cs rfl)
      · push Not at none
        obtain ⟨p, rest, whole⟩ := none
        have shorter : rest.length < (c :: cs).length := by
          rw [← whole, List.length_append, List.length_cons]
          omega
        rw [← whole, piecesFrom_place]
        exact .place p (ih _ shorter rest rfl)

/-- A template is read in one way only. -/
theorem Reads.eq_piecesFrom (reads : Reads cs pieces) : pieces = piecesFrom 0 cs := by
  induction reads with
  | nil => rfl
  | place p _ ih => rw [piecesFrom_place, ih]
  | text none _ ih => rw [piecesFrom_text none, ih]

/-! ### Trace first, then span -/

/-- The places for the trace are filled, those for the span still stand. -/
theorem Reads.traced (reads : Reads cs pieces) :
    Text.replaceChars Place.trace.chars trace 0 cs = fill (values trace Place.span.chars) pieces := by
  induction reads with
  | nil => rfl
  | @place cs _ p _ ih =>
    cases p with
    | trace => rw [Text.replaceChars_self, ih, fill_place, values_trace]
    | span =>
      rw [List.cons_append, Text.replaceChars_of_not (Place.not_starts (by decide)),
        Text.replaceChars_of_notMem Place.span.opened, ih, fill_place, values_span, List.cons_append]
  | text none _ ih => rw [Text.replaceChars_of_not (none .trace), ih, fill_text]

theorem Reads.occurrences_span (reads : Reads cs pieces) :
    Text.occurrences Place.span.chars cs = pieces.count (.place .span) := by
  induction reads with
  | nil => rfl
  | @place cs _ p _ ih =>
    cases p with
    | trace =>
      rw [List.cons_append, Text.occurrences_cons_of_not (Place.not_starts (by decide)),
        Text.occurrences_append_of_notMem Place.trace.opened, ih, List.count_cons_of_ne (by decide)]
    | span => rw [Text.occurrences_append_self Place.span.opened, ih, List.count_cons_self]
  | text none _ ih => rw [Text.occurrences_cons_of_not (none .span), ih, List.count_cons_of_ne Piece.noConfusion]

/-- The text with the trace in its places, in which the places for the span are marked. -/
def marked (trace : List Char) (pieces : List Piece) : List (Option Char) :=
  pieces.flatMap fun
    | .text c => [some c]
    | .place .trace => trace.map some
    | .place .span => [none]

@[simp] theorem marked_text : marked trace (.text c :: pieces) = some c :: marked trace pieces := rfl

@[simp] theorem marked_trace :
    marked trace (.place .trace :: pieces) = trace.map some ++ marked trace pieces := rfl

@[simp] theorem marked_span : marked trace (.place .span :: pieces) = none :: marked trace pieces := rfl

theorem unmark_marked (span : List Char) :
    Text.unmark span (marked trace pieces) = fill (values trace span) pieces := by
  induction pieces with
  | nil => rfl
  | cons piece pieces ih =>
    match piece with
    | .text c => rw [marked_text, Text.unmark_char, ih, fill_text]
    | .place .trace => rw [marked_trace, Text.unmark_chars, ih, fill_place, values_trace]
    | .place .span => rw [marked_span, Text.unmark_mark, ih, fill_place, values_span]

theorem count_marked : (marked trace pieces).count none = pieces.count (.place .span) := by
  induction pieces with
  | nil => rfl
  | cons piece pieces ih =>
    match piece with
    | .text c =>
      rw [marked_text, List.count_cons_of_ne (Option.some_ne_none c), ih, List.count_cons_of_ne Piece.noConfusion]
    | .place .trace => rw [marked_trace, Text.count_marks, ih, List.count_cons_of_ne (by decide)]
    | .place .span => rw [marked_span, List.count_cons_self, ih, List.count_cons_self]

/-- Filling the places one kind after the other gives what both ask for at once, exactly if the span is a place for
the span itself, or if the trace leaves as many of them in the text as there were. -/
theorem Reads.replaced_iff (reads : Reads cs pieces) :
    Text.replaceChars Place.span.chars span 0 (Text.replaceChars Place.trace.chars trace 0 cs) =
        fill (values trace span) pieces ↔
      span = Place.span.chars ∨ Text.occurrences Place.span.chars (fill (values trace Place.span.chars) pieces) =
        Text.occurrences Place.span.chars cs := by
  rw [reads.traced, reads.occurrences_span, ← count_marked, ← unmark_marked, ← unmark_marked]
  exact Text.replaceChars_unmark_iff Place.span.opened

theorem render_eq_substitute_iff (template : String) (link : TraceLink) :
    render template link = substitute template link.traceId (link.spanId.getD "") ↔
      link.spanId = some spanPlace ∨
        spanPlaces (substitute template link.traceId spanPlace) = spanPlaces template := by
  have unnamed : link.spanId.getD "" = spanPlace ↔ link.spanId = some spanPlace := by
    cases link.spanId with
    | none => exact iff_of_false (by decide) nofun
    | some span => simp
  have reads := reads_piecesFrom template.toList
  rw [render, Text.replaceAll, Text.replaceAll, substitute, substitute, spanPlaces, spanPlaces, String.toList_ofList,
    String.toList_ofList, String.ofList_inj, toList_tracePlace, toList_spanPlace, reads.replaced_iff, ← unnamed,
    ← String.toList_inj, toList_spanPlace]

/-! ### Harmless ids -/

/-- Neither can a place for a span start in the id, nor can the id start in such a place. -/
def Harmless (traceId : String) : Prop :=
  ¬ Text.StartsIn spanPlace.toList traceId.toList ∧ ¬ Text.StartsIn traceId.toList spanPlace.toList

instance (traceId : String) : Decidable (Harmless traceId) := inferInstanceAs (Decidable (_ ∧ _))

/-- What the filled template has of the inside of a place stood there before. -/
theorem Reads.starts_of_filled (reads : Reads cs pieces) (apart : ¬ Text.StartsIn trace Place.span.chars)
    (inner : front <:+ Place.span.name) (starts : front <+: fill (values trace Place.span.chars) pieces) :
    front <+: cs := by
  induction reads generalizing front with
  | nil => exact starts
  | @place cs _ p _ _ =>
    cases front with
    | nil => exact List.nil_prefix
    | cons c front =>
      cases p with
      | trace =>
        have agree := List.prefix_or_prefix_of_prefix starts (List.prefix_append trace _)
        have ends : c :: front <:+ Place.span.chars := inner.trans (List.suffix_cons _ _)
        exact absurd ⟨c :: front, (List.mem_tails _ _).mpr ends, List.cons_ne_nil _ _, agree⟩ apart
      | span =>
        obtain ⟨rfl, _⟩ := List.cons_prefix_cons.mp starts
        exact absurd (inner.subset List.mem_cons_self) Place.span.opened
  | text none _ ih =>
    cases front with
    | nil => exact List.nil_prefix
    | cons c front =>
      obtain ⟨rfl, behind⟩ := List.cons_prefix_cons.mp starts
      exact List.cons_prefix_cons.mpr ⟨rfl, ih ((List.suffix_cons _ _).trans inner) behind⟩

theorem Reads.occurrences_filled (reads : Reads cs pieces) (around : ¬ Text.StartsIn Place.span.chars trace)
    (inside : ¬ Text.StartsIn trace Place.span.chars) :
    Text.occurrences Place.span.chars (fill (values trace Place.span.chars) pieces) =
      pieces.count (.place .span) := by
  induction reads with
  | nil => rfl
  | place p _ ih =>
    cases p with
    | trace =>
      rw [fill_place, values_trace, Text.occurrences_append_of_not_startsIn around, ih,
        List.count_cons_of_ne (by decide)]
    | span => rw [fill_place, values_span, Text.occurrences_append_self Place.span.opened, ih, List.count_cons_self]
  | @text c cs pieces none rest ih =>
    have other : ¬ Place.span.chars <+: c :: fill (values trace Place.span.chars) pieces := by
      intro starts
      obtain ⟨rfl, behind⟩ := List.cons_prefix_cons.mp starts
      have before := rest.starts_of_filled inside List.suffix_rfl behind
      exact none .span (List.cons_prefix_cons.mpr ⟨rfl, before⟩)
    rw [fill_text, Text.occurrences_cons_of_not other, ih, List.count_cons_of_ne Piece.noConfusion]

theorem Harmless.spanPlaces_substitute {traceId : String} (harmless : Harmless traceId) (template : String) :
    spanPlaces (substitute template traceId spanPlace) = spanPlaces template := by
  have reads := reads_piecesFrom template.toList
  rw [spanPlaces, substitute, String.toList_ofList, spanPlaces, toList_spanPlace, reads.occurrences_span]
  exact reads.occurrences_filled harmless.1 harmless.2

theorem closing_mem_of_suffix (ends : back <:+ Place.span.chars) (filled : back ≠ []) : '}' ∈ back := by
  obtain ⟨before, same⟩ := ends
  have last : Place.span.chars.getLast? = some '}' := rfl
  rw [← same, List.getLast?_append_of_ne_nil _ filled] at last
  exact List.mem_of_getLast? last

/-- An id without braces that is no shorter than the inside of a place is harmless, as those of tracers are. -/
theorem harmless_of_no_braces {traceId : String} (unopened : '{' ∉ traceId.toList) (unclosed : '}' ∉ traceId.toList)
    (long : Place.span.name.length ≤ traceId.toList.length) : Harmless traceId := by
  constructor
  · rintro ⟨rest, ends, filled, agree⟩
    have opening : '{' ∈ rest := by
      cases rest with
      | nil => exact absurd rfl filled
      | cons c rest =>
        have same : c = '{' := agree.elim (fun starts => (List.cons_prefix_cons.mp starts).1)
          fun starts => (List.cons_prefix_cons.mp starts).1.symm
        exact same ▸ List.mem_cons_self
    exact unopened (((List.mem_tails _ _).mp ends).subset opening)
  · rintro ⟨rest, ends, filled, agree⟩
    have ends : rest <:+ Place.span.chars := (List.mem_tails _ _).mp ends
    have closing := closing_mem_of_suffix ends filled
    rcases agree with starts | starts
    · exact unclosed (starts.subset closing)
    · rcases List.suffix_cons_iff.mp ends with rfl | inner
      · cases chars : traceId.toList with
        | nil =>
          rw [chars] at long
          exact absurd long (by decide)
        | cons c cs =>
          rw [chars] at starts unopened
          exact unopened ((List.cons_prefix_cons.mp starts).1 ▸ List.mem_cons_self)
      · have whole := starts.eq_of_length_le (inner.length_le.trans long)
        exact unclosed (whole ▸ closing)

example : ¬ Harmless "span" ∧ ¬ Harmless "" ∧ Harmless "4bf9" := by decide

/-! ### Templates that an id completes -/

theorem reads_chars (plain : '{' ∉ front) (reads : Reads cs pieces) :
    Reads (front ++ cs) (front.map .text ++ pieces) := by
  induction front with
  | nil => exact reads
  | cons c front ih =>
    rw [List.mem_cons, not_or] at plain
    exact .text (fun p => Text.not_starts_of_ne (Ne.symm plain.1)) (ih plain.2)

theorem reads_plain (plain : '{' ∉ back) : Reads back (back.map .text) := by
  simpa using reads_chars plain .nil

/-- What comes in front of an opening brace is all that the start of a place can have. -/
theorem Place.starts_before (starts : p.chars <+: '{' :: (front ++ '{' :: cs)) : p.chars <+: '{' :: front := by
  obtain ⟨_, behind⟩ := List.cons_prefix_cons.mp starts
  refine List.cons_prefix_cons.mpr ⟨rfl, ?_⟩
  rcases List.prefix_or_prefix_of_prefix behind (List.prefix_append front ('{' :: cs)) with within | ⟨rest, same⟩
  · exact within
  · cases rest with
    | nil =>
      rw [List.append_nil] at same
      exact same ▸ List.prefix_rfl
    | cons c rest =>
      rw [← same, List.prefix_append_right_inj] at behind
      obtain ⟨rfl, _⟩ := List.cons_prefix_cons.mp behind
      exact absurd (same ▸ List.mem_append_right front List.mem_cons_self) p.opened

/-- The place for the trace with characters around it. -/
def around (front back : List Char) : List Piece := front.map .text ++ .place .trace :: back.map .text

theorem count_around (front back : List Char) : (around front back).count (.place .span) = 0 :=
  List.count_eq_zero.mpr (by simp [around])

theorem fill_chars (value : Place → List Char) (front : List Char) (pieces : List Piece) :
    fill value (front.map .text ++ pieces) = front ++ fill value pieces := by
  induction front with
  | nil => rfl
  | cons c front ih => rw [List.map_cons, List.cons_append, fill_text, ih, List.cons_append]

theorem fill_around (value : Place → List Char) (front back : List Char) :
    fill value (around front back) = front ++ (value .trace ++ back) := by
  have plain := fill_chars value back []
  rw [List.append_nil, fill_nil, List.append_nil] at plain
  rw [around, fill_chars, fill_place, plain]

/-- The start of a place for the span in front of the place for the trace makes no place with it. -/
theorem reads_around (starts : front <+: Place.span.chars) (proper : front ≠ Place.span.chars)
    (plain : '{' ∉ back) : Reads (front ++ (Place.trace.chars ++ back)) (around front back) := by
  have behind := Reads.place .trace (reads_plain plain)
  cases front with
  | nil => exact behind
  | cons c front =>
    obtain ⟨rfl, inner⟩ := List.cons_prefix_cons.mp starts
    refine .text (fun p here => ?_) (reads_chars (fun member => Place.span.opened (inner.subset member)) behind)
    have before := Place.starts_before here
    obtain rfl := Place.unique (before.trans starts) List.prefix_rfl
    exact proper (starts.eq_of_length_le before.length_le)

/-- A template in which an id completes a place for the span is not rendered as it asks for. -/
theorem exists_template_of_completed {traceId : String} (starts : front <+: Place.span.chars)
    (proper : front ≠ Place.span.chars) (plain : '{' ∉ back)
    (completed : Place.span.chars <:+: front ++ (traceId.toList ++ back)) :
    ∃ template, Text.isBlankText template = false ∧
      render template ⟨traceId, none, none⟩ ≠ substitute template traceId "" := by
  have reads := reads_around starts proper plain
  refine ⟨String.ofList (front ++ (Place.trace.chars ++ back)), ?_, ?_⟩
  · simp [Text.isBlankText, Text.isBlank, Text.inRanges, Text.blankRanges]
  · intro same
    have filled := ((render_eq_substitute_iff _ ⟨traceId, none, none⟩).mp same).resolve_left nofun
    rw [spanPlaces, spanPlaces, substitute, String.toList_ofList, String.toList_ofList, toList_spanPlace,
      ← reads.eq_piecesFrom, fill_around, values_trace, reads.occurrences_span, count_around] at filled
    exact (Text.occurrences_pos_iff.mpr completed).ne' filled

/-- Behind the start of a place stands no opening brace. -/
theorem notMem_behind (whole : front ++ back = p.chars) (filled : front ≠ []) : '{' ∉ back := by
  cases front with
  | nil => exact absurd rfl filled
  | cons c front =>
    obtain ⟨_, same⟩ := List.cons.inj whole
    exact fun member => p.opened (same ▸ List.mem_append_right front member)

theorem exists_template_of_harmful {traceId : String} (harmful : ¬ Harmless traceId) :
    ∃ template, Text.isBlankText template = false ∧
      render template ⟨traceId, none, none⟩ ≠ substitute template traceId "" := by
  rw [Harmless, not_and_or, not_not, not_not, toList_spanPlace] at harmful
  rcases harmful with ⟨rest, ends, filled, agree⟩ | ⟨rest, ends, filled, agree⟩
  · obtain ⟨before, same⟩ := (List.mem_tails _ _).mp ends
    rcases agree with ⟨back, whole⟩ | ⟨back, whole⟩
    · -- the id ends with the start of a place, and the template goes on with its end
      refine exists_template_of_completed List.nil_prefix nofun (notMem_behind whole filled) ⟨before, [], ?_⟩
      rw [← same, ← whole, List.append_nil, List.nil_append, List.append_assoc]
    · -- the id holds a place
      refine exists_template_of_completed List.nil_prefix nofun List.not_mem_nil ⟨before, back, ?_⟩
      rw [← same, ← whole, List.append_nil, List.nil_append, List.append_assoc]
  · obtain ⟨before, same⟩ := (List.mem_tails _ _).mp ends
    have starts : before <+: Place.span.chars := ⟨rest, same⟩
    have proper : before ≠ Place.span.chars := fun all => filled (List.append_right_eq_self.mp (same.trans all.symm))
    rcases agree with ⟨back, whole⟩ | ⟨back, whole⟩
    · -- the id starts with the end of a place, and the template has its start
      refine exists_template_of_completed starts proper List.not_mem_nil ⟨[], back, ?_⟩
      rw [← same, ← whole, List.append_nil, List.nil_append, List.append_assoc]
    · -- the id lies inside a place, and the template has both ends of it
      have around : before ++ traceId.toList ++ back = Place.span.chars := by rw [List.append_assoc, whole, same]
      by_cases empty : before ++ traceId.toList = []
      · -- an empty id is everywhere, also behind the brace
        obtain ⟨rfl, none⟩ := List.append_eq_nil_iff.mp empty
        have brace : ['{'] <+: Place.span.chars := List.prefix_append ['{'] Place.span.name
        refine exists_template_of_completed brace (by decide) Place.span.opened ⟨[], [], ?_⟩
        rw [none, List.append_nil]
        rfl
      · refine exists_template_of_completed starts proper (notMem_behind around empty) ⟨[], [], ?_⟩
        rw [← around, List.append_nil, List.nil_append, List.append_assoc]

/-! ### Decorated links -/

theorem template_ofTemplate {template : String} (filled : Text.isBlankText template = false) :
    (ofTemplate (some template)).template = some template := by
  simp [ofTemplate, filled]

theorem url_decorate {linker : TraceLinker} {template : String} (templated : linker.template = some template)
    {link : TraceLink} (unaddressed : link.url = none) :
    (linker.decorate link).url = some (render template link) := by
  rw [decorate, unaddressed, templated]

theorem decorate_decorate (linker : TraceLinker) (link : TraceLink) :
    linker.decorate (linker.decorate link) = linker.decorate link := by
  obtain ⟨template⟩ := linker
  obtain ⟨traceId, spanId, url⟩ := link
  cases url <;> cases template <;> rfl

/-- The address that a link without one is given has the ids of trace and span in all their places at once, exactly
if the span is a place for a span itself, or if with the trace in its places the text has as many places for a span
as the template. For an id of a trace that is so in all templates and with all spans exactly if it is harmless. A
link that has been decorated stays as it is. -/
theorem addresses_are_substituted_unless_a_place_is_completed (linker : TraceLinker) (link : TraceLink) :
    (∀ template, linker.template = some template → link.url = none →
      ((linker.decorate link).url = some (substitute template link.traceId (link.spanId.getD "")) ↔
        link.spanId = some spanPlace ∨
          spanPlaces (substitute template link.traceId spanPlace) = spanPlaces template)) ∧
    (Harmless link.traceId ↔
      ∀ (template : String) (spanId : Option String), Text.isBlankText template = false →
        ((ofTemplate (some template)).decorate ⟨link.traceId, spanId, none⟩).url =
          some (substitute template link.traceId (spanId.getD ""))) ∧
    linker.decorate (linker.decorate link) = linker.decorate link := by
  refine ⟨fun template templated unaddressed => ?_, ⟨fun harmless template spanId filled => ?_, fun always => ?_⟩,
    decorate_decorate linker link⟩
  · rw [url_decorate templated unaddressed, Option.some.injEq, render_eq_substitute_iff]
  · rw [url_decorate (template_ofTemplate filled) rfl, Option.some.injEq]
    exact (render_eq_substitute_iff template ⟨link.traceId, spanId, none⟩).mpr
      (.inr (harmless.spanPlaces_substitute template))
  · by_contra harmful
    obtain ⟨template, filled, other⟩ := exists_template_of_harmful harmful
    have same := always template none filled
    rw [url_decorate (template_ofTemplate filled) rfl, Option.some.injEq] at same
    exact other same

/-- The id of the first link forms a place with the braces around it, that of the second one is harmless. -/
theorem addresses_of_ids_between_braces :
    let template := "https://t/\x7b\x7btrace_id\x7d_id\x7d?s=\x7bspan_id\x7d"
    let linker := ofTemplate (some template)
    linker.template = some template ∧
    (linker.decorate ⟨"span", some "1", none⟩).url ≠ some (substitute template "span" "1") ∧
    Harmless "4bf92f3577b34da6" ∧ Text.isBlankText template = false ∧
    (linker.decorate ⟨"4bf92f3577b34da6", some "1", none⟩).url =
      some (substitute template "4bf92f3577b34da6" "1") := by
  have filled : Text.isBlankText "https://t/\x7b\x7btrace_id\x7d_id\x7d?s=\x7bspan_id\x7d" = false := by decide
  have templated := template_ofTemplate filled
  have harmless : Harmless "4bf92f3577b34da6" := harmless_of_no_braces (by decide) (by decide) (by decide)
  obtain ⟨exactly, -, -⟩ := addresses_are_substituted_unless_a_place_is_completed (ofTemplate (some _))
    ⟨"span", some "1", none⟩
  obtain ⟨-, always, -⟩ := addresses_are_substituted_unless_a_place_is_completed (ofTemplate none)
    ⟨"4bf92f3577b34da6", some "1", none⟩
  have completed := (exactly _ templated rfl).not.mpr (by decide)
  exact ⟨templated, completed, harmless, filled, always.mp harmless _ (some "1") filled⟩

/-- A place for a span in an id that a caller names is filled as well, although the template has none. -/
theorem span_place_in_an_id_is_filled :
    let template := "https://t/\x7btrace_id\x7d"
    (ofTemplate (some template)).link none (some "\x7bspan_id\x7d") =
        some ⟨"\x7bspan_id\x7d", none, some "https://t/"⟩ ∧
      substitute template "\x7bspan_id\x7d" "" = "https://t/\x7bspan_id\x7d" := by
  decide

end Reindexing.TraceLinker
