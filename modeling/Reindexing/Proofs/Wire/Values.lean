import Reindexing.Proofs.Json.Lookup
import Reindexing.Proofs.Wire.Records

/-!
# Tasks and views on the wire

Evidence, outcomes, tasks and views of entries are returned by their codecs.
Evidence shows a total that is not read back, so it is read as a record with one
field too many. A view is the record of an entry with three more fields behind,
which are taken out before the entry is read. With the records of the audit trail
these are all values that are written in one place and read in another.
-/
namespace Reindexing

structure Sample.Fits (s : Sample) : Prop where
  updatedAt : ∀ t, s.updatedAt = some t → t.Expressible

/-- The counts add up to a word, so the total does not wrap around, and the times of the samples can be
written. -/
structure Evidence.Fits (e : Evidence) : Prop where
  total : e.created.toNat + e.updated.toNat + e.removed.toNat ≤ Word.max64
  samples : ∀ s ∈ e.samples, s.Fits

def Outcome.Fits : Outcome → Prop
  | .success e | .partly e => e.Fits
  | .failure .. => True

/-- The scope of the task is accepted, its times can be written, and its numbers have their sizes. -/
structure Task.Fits (t : Task) : Prop where
  scope : t.scope.IsAccepted
  createdAt : t.createdAt.Expressible
  startedAt : ∀ s, t.startedAt = some s → s.Expressible
  finishedAt : ∀ f, t.finishedAt = some f → f.Expressible
  durationMillis : ∀ d, t.durationMillis = some d → Word.isInt64 d = true
  evidence : ∀ e, t.evidence = some e → e.Fits

structure EntryView.Fits (v : EntryView) : Prop where
  entry : v.entry.Fits
  attemptsRemaining : ∀ n, v.attemptsRemaining = some n → n ≤ Word.max32

namespace Wire

open Json

variable {α : Type} {origin : Origin} {depth : Nat}

/-! ### Simple values -/

theorem changeKind_returns (k : ChangeKind) : changeKind.Returns 0 k :=
  choice_returns (by cases k <;> decide) (by decide)

theorem retryState_returns (s : RetryState) : retryState.Returns 0 s :=
  choice_returns (by cases s <;> decide) (by decide)

theorem bool_returns (b : Bool) : bool.Returns 0 b where
  legible := trivial
  filled := nofun
  shallow := Nat.le_refl 0
  reads _ _ := rfl

theorem integer_returns {i : Int} (small : Word.isInt64 i = true) : integer.Returns 0 i where
  legible := by
    simp only [Word.isInt64, Bool.and_eq_true, decide_eq_true_eq] at small
    constructor
    · exact small.1
    · refine Int.le_trans small.2 ?_
      decide
  filled := nofun
  shallow := Nat.le_refl 0
  reads _ _ := if_pos small

theorem list_returns {codec : Codec α} {as : List α} (each : ∀ a ∈ as, codec.Returns depth a) :
    (list codec).Returns (depth + 1) as := by
  have all := conveys_list fun a listed => (each a listed).conveys
  rw [List.map_id'] at all
  exact all.returns

/-! ### Evidence and outcomes -/

theorem sample_returns {s : Sample} (fits : s.Fits) : sample.Returns 1 s :=
  Codec.ofLayout_returns (by decide)
    ⟨optionalText_returns _ _, optionalText_returns _ _, Field.required_returns _ (changeKind_returns _),
      Field.required_returns _ (text_returns _), optionalText_returns _ _, optionalText_returns _ _,
      Field.optional_returns _ fun t found => instant_returns (fits.updatedAt t found), trivial⟩
    rfl

/-- The total stands between the fields that are read. -/
theorem evidence_returns {e : Evidence} (fits : e.Fits) : evidence.Returns 3 e := by
  have each (w : UInt64) : word.Returns 2 w.toNat := (word_returns (Word.toNat_le_max64 w)).atAnyDepth
  have created := each e.created
  have updated := each e.updated
  have removed := each e.removed
  have sum := each e.totalChanges
  have samples : (list sample).Returns 2 e.samples :=
    list_returns fun s member => sample_returns (fits.samples s member)
  constructor
  · exact ⟨created.legible, updated.legible, removed.legible, sum.legible, samples.legible, trivial⟩
  · exact nofun
  · refine Nat.succ_le_succ ?_
    simp only [nestingFields, Nat.max_le]
    exact ⟨created.shallow, updated.shallow, removed.shallow, sum.shallow, samples.shallow, Nat.zero_le 2⟩
  · intro origin admits
    obtain ⟨inner, enters, allows⟩ := admits.inside
    have unique : ["created", "updated", "removed", "total_changes", "samples"].Nodup := by decide
    change storedEvidence.read origin (Document.ofJson (.record [_, _, _, _, _])) = .ok e
    apply Codec.ofLayout_reads (a := (e.created.toNat, e.updated.toNat, e.removed.toNat, e.samples, ()))
    · decide
    · exact unique
    · exact enters
    · exact ⟨created.reads inner allows, updated.reads inner allows, removed.reads inner allows,
        samples.reads inner allows, trivial⟩
    · simp only [UInt64.ofNat_toNat]

/-- An outcome is returned when the choice that its tag names reads the rest of its record. -/
theorem outcome_returns_of_choice {o : Outcome} {name : String} {fields : List (String × Json)}
    {read : Decoder Outcome} (written : outcome.write o = .record (("outcome", .text name) :: fields))
    (known : Decode.lookup [("success", evidenceOutcome .success), ("partial", evidenceOutcome .partly),
      ("failure", failureOutcome)] name = .ok read)
    (others : ∀ field ∈ fields, field.1 ≠ "outcome") (legible : LegibleFields fields)
    (shallow : nestingFields fields ≤ depth)
    (reads : ∀ origin : Origin, origin.Admits (depth + 1) →
      read origin (Document.ofJson (.record fields)) = .ok o) : outcome.Returns (depth + 1) o := by
  constructor <;> rw [written]
  · exact ⟨trivial, legible⟩
  · exact nofun
  · refine Nat.succ_le_succ ?_
    simp only [nestingFields, Json.nesting, Nat.zero_max]
    exact shallow
  · intro origin admits
    exact readTagged_record known others (admits.mono (Nat.succ_le_succ shallow))
      (reads (insideOf origin) (admits_insideOf admits))

theorem evidenceOutcome_reads {e : Evidence} (fits : e.Fits) (make : Evidence → Outcome)
    (admits : origin.Admits 4) :
    evidenceOutcome make origin (Document.ofJson (.record [("evidence", evidence.write e)])) = .ok (make e) := by
  obtain ⟨inner, enters, allows⟩ := admits.inside
  have reads := (evidence_returns fits).reads inner allows
  unfold evidenceOutcome
  apply Codec.ofLayout_reads (a := (e, ()))
  · decide
  · exact List.nodup_singleton "evidence"
  · exact enters
  · exact ⟨reads, trivial⟩
  · rfl

theorem outcome_returns {o : Outcome} (fits : o.Fits) : outcome.Returns 4 o := by
  cases o with
  | success e =>
    have returns := evidence_returns fits
    exact outcome_returns_of_choice rfl rfl (by simp) ⟨returns.legible, trivial⟩
      (Nat.max_le.mpr ⟨returns.shallow, Nat.zero_le 3⟩) fun origin => evidenceOutcome_reads fits .success
  | partly e =>
    have returns := evidence_returns fits
    exact outcome_returns_of_choice rfl rfl (by simp) ⟨returns.legible, trivial⟩
      (Nat.max_le.mpr ⟨returns.shallow, Nat.zero_le 3⟩) fun origin => evidenceOutcome_reads fits .partly
  | failure code message =>
    have returns : failureLayout.Returns 3 (code, message, ()) :=
      ⟨Field.required_returns _ (text_returns code).atAnyDepth, optionalText_returns _ message, trivial⟩
    have others : ∀ field ∈ failureLayout.write (code, message, ()), field.1 ≠ "outcome" := by
      intro field member same
      have named := failureLayout.write_names _ field member
      rw [same] at named
      exact absurd named (by decide)
    obtain ⟨legible, shallow⟩ := failureLayout.legible_write returns
    refine outcome_returns_of_choice rfl rfl others legible shallow fun origin admits => ?_
    exact congrArg (Except.map _) (failureLayout.read_write (by decide) returns admits)

/-! ### Tasks -/

theorem task_returns {t : Task} (fits : t.Fits) : task.Returns 4 t :=
  Codec.ofLayout_returns (by decide)
    ⟨Field.required_returns _ (taskId_returns _).atAnyDepth,
      Field.required_returns _ ((scope_returns fits.scope).mono (by decide)),
      Field.required_returns _ (text_returns _).atAnyDepth,
      optionalText_returns _ _,
      Field.required_returns _ (taskStatus_returns _).atAnyDepth,
      Field.required_returns _ (instant_returns fits.createdAt).atAnyDepth,
      Field.optional_returns _ fun s found => (instant_returns (fits.startedAt s found)).atAnyDepth,
      Field.optional_returns _ fun f found => (instant_returns (fits.finishedAt f found)).atAnyDepth,
      Field.optional_returns _ fun d found => (integer_returns (fits.durationMillis d found)).atAnyDepth,
      Field.optional_returns _ fun l _ => (traceLink_returns l).mono (by decide),
      Field.optional_returns _ fun e found => evidence_returns (fits.evidence e found),
      optionalText_returns _ _,
      optionalText_returns _ _,
      Field.optional_returns _ fun id _ => (entryId_returns id).atAnyDepth,
      trivial⟩
    rfl

/-! ### Views -/

/-- A layout takes in exactly the entries that have one of its names. -/
theorem feed_eq_none_iff {σ : Type} (layout : Layout α σ) {name : String} {d : Document} {slots : σ} :
    layout.feed origin name d slots = none ↔ name ∉ layout.names := by
  induction layout with
  | done => simp [Layout.feed, Layout.names]
  | field first rest ih =>
    obtain ⟨slot, slots⟩ := slots
    rw [Layout.names, List.mem_cons, not_or]
    by_cases same : name = first.name
    · simp only [Layout.feed, if_pos same]
      cases slot <;> simp [same]
    · simp only [Layout.feed, if_neg same, Option.map_eq_none_iff, ih]
      simp [same]

/-- Entries that a view does not derive are collected. -/
theorem readView_others {fields : List (String × Json)} (rest : List (Document × Document))
    (slots : Option RetryState × Option Bool × Option (Option Nat) × Unit)
    (others : ∀ field ∈ fields, field.1 ∉ derivedLayout.names) (admits : origin.Admits (nestingFields fields)) :
    readView origin slots (Document.ofFields fields ++ rest) =
      (readView origin slots rest).map fun (slots, more) => (slots, fields ++ more) := by
  induction fields with
  | nil =>
    change readView origin slots rest = _
    cases readView origin slots rest <;> rfl
  | cons field fields ih =>
    obtain ⟨name, j⟩ := field
    have passes : derivedLayout.feed origin name (Document.ofJson j) slots = none :=
      (feed_eq_none_iff derivedLayout).mpr (others (name, j) List.mem_cons_self)
    have value := whole_ofJson j (admits.mono (Nat.le_max_left ..))
    have tail := ih (fun field member => others field (List.mem_cons_of_mem _ member))
      (admits.mono (Nat.le_max_right ..))
    simp only [Document.ofFields, List.cons_append, readView, Document.asText, passes, value, tail, bind, Except.bind]
    cases readView origin slots rest <;> rfl

/-- The derived fields are decoded as by their layout. -/
theorem readView_derived {fields : List (String × Json)} (origin : Origin)
    (slots : Option RetryState × Option Bool × Option (Option Nat) × Unit)
    (derived : ∀ field ∈ fields, field.1 ∈ derivedLayout.names) :
    readView origin slots (Document.ofFields fields) =
      (derivedLayout.readEntries origin slots (Document.ofFields fields)).map (·, []) := by
  induction fields generalizing slots with
  | nil => rfl
  | cons field fields ih =>
    obtain ⟨name, j⟩ := field
    have listed : name ∈ derivedLayout.names := derived (name, j) List.mem_cons_self
    have tail := fun slots => ih slots fun field member => derived field (List.mem_cons_of_mem _ member)
    simp only [Document.ofFields, readView, Layout.readEntries, Document.asText, bind, Except.bind]
    cases fed : derivedLayout.feed origin name (Document.ofJson j) slots with
    | none => exact absurd listed ((feed_eq_none_iff derivedLayout).mp fed)
    | some result =>
      cases result with
      | error e => rfl
      | ok filled => exact tail filled

/-- A record type whose names a view does not derive is returned with the derived fields behind it. -/
theorem view_returns_of_layout {α σ : Type} {layout : Layout α σ} {toPairs : QueueEntry → α}
    {ofPairs : α → QueueEntry} {v : EntryView} (form : entry = Codec.ofLayout layout toPairs ofPairs)
    (others : ∀ name ∈ layout.names, name ∉ derivedLayout.names) (returns : entry.Returns 2 v.entry)
    (derives : derivedLayout.Returns 1 (v.state, v.eligible, v.attemptsRemaining, ())) : view.Returns 2 v := by
  let fields := layout.write (toPairs v.entry)
  let derived := derivedLayout.write (v.state, v.eligible, v.attemptsRemaining, ())
  have entry_form : entry.write v.entry = .record fields := by rw [form]; rfl
  have written : view.write v = .record (fields ++ derived) := by
    change viewToJson v = _
    simp only [viewToJson, entry_form, derived]
  have legible := returns.legible
  have shallow := returns.shallow
  rw [entry_form] at legible shallow
  have shallow_fields : nestingFields fields ≤ 1 := Nat.le_of_succ_le_succ shallow
  obtain ⟨legible_derived, shallow_derived⟩ := derivedLayout.legible_write derives
  refine ⟨?_, ?_, ?_, fun origin admits => ?_⟩ <;> rw [written]
  · exact legibleFields_append legible legible_derived
  · exact nofun
  · exact Nat.succ_le_succ (nestingFields_append shallow_fields shallow_derived)
  · obtain ⟨inner, enters, allows⟩ := admits.inside
    have passes := readView_others (Document.ofFields derived) derivedLayout.empty
      (fun field member => others _ (layout.write_names _ field member)) (allows.mono shallow_fields)
    have takes := readView_derived inner derivedLayout.empty
      (derivedLayout.write_names (v.state, v.eligible, v.attemptsRemaining, ()))
    have filled := derivedLayout.readEntries_write (by decide) derives allows
    have finished := derivedLayout.finish_fill derives
    have inside := returns.reads (insideOf origin) (admits_insideOf admits)
    rw [entry_form] at inside
    simp only [view, Document.ofJson, ofFields_append, enters, passes, takes, derived, filled, finished, fields,
      Except.map, Closing.check, bind, Except.bind, pure, Except.pure, List.append_nil] at inside ⊢
    rw [inside]

theorem view_returns {v : EntryView} (fits : v.Fits) : view.Returns 2 v := by
  refine view_returns_of_layout rfl (by decide) (entry_returns fits.entry) ⟨?_, ?_, ?_, trivial⟩
  · exact Field.required_returns _ (retryState_returns _).atAnyDepth
  · exact Field.required_returns _ (bool_returns _).atAnyDepth
  · exact Field.optional_returns _ fun n found => (count_returns (fits.attemptsRemaining n found)).atAnyDepth

/-- Every value that is written to a text is read back from it as it was, whichever of its optional parts
are there: tasks, outcomes and evidence, events and trace links, entries, their views and mutations, and
audit records. Scopes must be accepted ones, instants must have a text, and integers their size. -/
theorem values_are_read_back :
    (∀ t : Task, t.Fits → decodeText task.read (task.write t).compact = .ok t) ∧
    (∀ o : Outcome, o.Fits → decodeText outcome.read (outcome.write o).compact = .ok o) ∧
    (∀ e : Evidence, e.Fits → decodeText evidence.read (evidence.write e).compact = .ok e) ∧
    (∀ e : HistoryEvent, e.Fits → decodeText event.read (event.write e).compact = .ok e) ∧
    (∀ l : TraceLink, decodeText traceLink.read (traceLink.write l).compact = .ok l) ∧
    (∀ e : QueueEntry, e.Fits → decodeText entry.read (entry.write e).compact = .ok e) ∧
    (∀ v : EntryView, v.Fits → decodeText view.read (view.write v).compact = .ok v) ∧
    (∀ m : Mutation, m.Fits → decodeText mutation.read (mutation.write m).compact = .ok m) ∧
    (∀ r : AuditRecord, r.Fits → decodeText record.read (record.write r).compact = .ok r) := by
  refine ⟨?_, ?_, ?_, ?_, ?_, ?_, ?_, ?_, ?_⟩
  · exact fun t fits => (task_returns fits).decodeText (by decide)
  · exact fun o fits => (outcome_returns fits).decodeText (by decide)
  · exact fun e fits => (evidence_returns fits).decodeText (by decide)
  · exact fun e fits => (event_returns fits).decodeText (by decide)
  · exact fun l => (traceLink_returns l).decodeText (by decide)
  · exact fun e fits => (entry_returns fits).decodeText (by decide)
  · exact fun v fits => (view_returns fits).decodeText (by decide)
  · exact fun m fits => (mutation_returns fits).decodeText (by decide)
  · exact fun r fits => (record_returns fits).decodeText (by decide)

/-- One value of each kind: quotes, blanks and line ends in texts, a leap second, the largest integers,
and optional parts both there and left out. -/
theorem awkward_values_are_read_back :
    ∃ (t : Task) (o : Outcome) (e : Evidence) (v : EntryView) (m : Mutation) (l : TraceLink) (h : HistoryEvent),
      t.evidence = some e ∧ o = .partly e ∧ e.totalChanges.toNat = Word.max64 ∧ e.samples.length = 1 ∧
      t.durationMillis = some (-(Word.maxInt64 : Int) - 1) ∧ t.trace = some l ∧ m.entry = v.entry ∧
      v.attemptsRemaining = some Word.max32 ∧
      decodeText task.read (task.write t).compact = .ok t ∧
      decodeText outcome.read (outcome.write o).compact = .ok o ∧
      decodeText evidence.read (evidence.write e).compact = .ok e ∧
      decodeText event.read (event.write h).compact = .ok h ∧
      decodeText traceLink.read (traceLink.write l).compact = .ok l ∧
      decodeText entry.read (entry.write v.entry).compact = .ok v.entry ∧
      decodeText view.read (view.write v).compact = .ok v ∧
      decodeText mutation.read (mutation.write m).compact = .ok m ∧
      decodeText record.read (record.write (.mutation m)).compact = .ok (.mutation m) := by
  let leap : Instant := ⟨1483228799, 1500000000⟩
  let sample : Sample := ⟨none, some "\"", .removed, "\u2028", none, some "", some leap⟩
  let evidence : Evidence := ⟨.ofNat Word.max64, 0, 0, [sample]⟩
  let link : TraceLink := ⟨"\t", none, some "日本"⟩
  let scope : Scope := .sources ["\x00", "\"ключ\"", "a\nb"]
  let task : Task :=
    { id := ⟨Uuid.ofNat 1⟩, scope, actor := "", note := some "\n", status := .partly, createdAt := .epoch,
      startedAt := some leap, finishedAt := none, durationMillis := some (-(Word.maxInt64 : Int) - 1),
      trace := some link, evidence := some evidence, errorCode := none, errorMessage := some "null",
      retryOf := some ⟨Uuid.ofNat 2⟩ }
  let entry : QueueEntry :=
    { id := ⟨Uuid.ofNat 1⟩, originalTask := ⟨Uuid.ofNat 2⟩, currentTask := none, lastTask := ⟨Uuid.ofNat 3⟩,
      scope, status := .failed, attempts := Word.max32, maxAttempts := 5, mode := .auto, cooldownUntil := some leap,
      lastAttemptAt := none, lastError := some "E\\", note := none, createdAt := .epoch, updatedAt := none }
  let view : EntryView := ⟨entry, .coolingDown, false, some Word.max32⟩
  let mutation : Mutation := ⟨.created, entry, some "ops\n", leap⟩
  let event : HistoryEvent := ⟨Word.max64, ⟨Uuid.ofNat 1⟩, .failed, leap, some "", some link⟩
  have accepted : scope.IsAccepted := ⟨[" a\nb\n", "\"ключ\"", "\r\x00"], rfl⟩
  have expressible : leap.Expressible := by decide
  have epoch : Instant.epoch.Expressible := by decide
  have fits_evidence : evidence.Fits := by
    refine ⟨Nat.le_refl _, fun s member => ?_⟩
    obtain rfl := List.mem_singleton.mp member
    exact ⟨fun t found => Option.some.inj found ▸ expressible⟩
  have fits_entry : entry.Fits := by
    refine ⟨accepted, Nat.le_refl _, by decide, ?_, nofun, epoch, nofun⟩
    exact fun t found => Option.some.inj found ▸ expressible
  have fits_task : task.Fits := by
    refine ⟨accepted, epoch, ?_, nofun, ?_, ?_⟩
    · exact fun s found => Option.some.inj found ▸ expressible
    · exact fun d found => Option.some.inj found ▸ by decide
    · exact fun e found => Option.some.inj found ▸ fits_evidence
  have fits_view : view.Fits := ⟨fits_entry, fun n found => Option.some.inj found ▸ Nat.le_refl _⟩
  obtain ⟨tasks, outcomes, evidences, events, links, entries, views, mutations, records⟩ := values_are_read_back
  exact ⟨task, .partly evidence, evidence, view, mutation, link, event, rfl, rfl, rfl, rfl, rfl, rfl, rfl, rfl,
    tasks task fits_task, outcomes (.partly evidence) fits_evidence, evidences evidence fits_evidence,
    events event ⟨Nat.le_refl _, expressible⟩, links link, entries entry fits_entry, views view fits_view,
    mutations mutation ⟨fits_entry, expressible⟩, records (.mutation mutation) ⟨fits_entry, expressible⟩⟩

end Wire

end Reindexing
