import Reindexing.Audit
import Reindexing.Proofs.Wire.Basic

/-!
# Audit records on the wire

Every audit record is returned by its codec, and so is every part of it: trace
links, history events, queue entries and mutations. The line of a record is
therefore read back as the record, and as no line holds a line end, records that
are written one to a line stay apart.
-/
namespace Reindexing

/-- The number of the event is a word, and its time can be written. -/
structure HistoryEvent.Fits (e : HistoryEvent) : Prop where
  sequence : e.sequence ≤ Word.max64
  timestamp : e.timestamp.Expressible

/-- The scope of the entry is accepted, its counts are words, and its times can be written. -/
structure QueueEntry.Fits (e : QueueEntry) : Prop where
  scope : e.scope.IsAccepted
  attempts : e.attempts ≤ Word.max32
  maxAttempts : e.maxAttempts ≤ Word.max32
  cooldownUntil : ∀ t, e.cooldownUntil = some t → t.Expressible
  lastAttemptAt : ∀ t, e.lastAttemptAt = some t → t.Expressible
  createdAt : e.createdAt.Expressible
  updatedAt : ∀ t, e.updatedAt = some t → t.Expressible

structure Mutation.Fits (m : Mutation) : Prop where
  entry : m.entry.Fits
  timestamp : m.timestamp.Expressible

/-- The record has values of the types that are written. -/
def AuditRecord.Fits : AuditRecord → Prop
  | .event e => e.Fits
  | .mutation m => m.Fits

namespace Wire

open Json

/-! ### Records without a tag -/

theorem optionalText_returns {depth : Nat} (name : String) (s : Option String) :
    (Field.optional name text).Returns depth s :=
  Field.optional_returns name fun s _ => (text_returns s).atAnyDepth

theorem traceLink_returns (l : TraceLink) : traceLink.Returns 1 l :=
  Codec.ofLayout_returns (by decide)
    ⟨Field.required_returns _ (text_returns _), optionalText_returns _ _, optionalText_returns _ _, trivial⟩ rfl

theorem event_returns {e : HistoryEvent} (fits : e.Fits) : event.Returns 2 e :=
  Codec.ofLayout_returns (by decide)
    ⟨Field.required_returns _ (word_returns fits.sequence).atAnyDepth,
      Field.required_returns _ (taskId_returns _).atAnyDepth,
      Field.required_returns _ (taskStatus_returns _).atAnyDepth,
      Field.required_returns _ (instant_returns fits.timestamp).atAnyDepth,
      optionalText_returns _ _,
      Field.optional_returns _ fun _ _ => traceLink_returns _, trivial⟩
    rfl

theorem entry_returns {e : QueueEntry} (fits : e.Fits) : entry.Returns 2 e :=
  Codec.ofLayout_returns (by decide)
    ⟨Field.required_returns _ (entryId_returns _).atAnyDepth,
      Field.required_returns _ (taskId_returns _).atAnyDepth,
      Field.optional_returns _ fun _ _ => (taskId_returns _).atAnyDepth,
      Field.required_returns _ (taskId_returns _).atAnyDepth,
      Field.required_returns _ (scope_returns fits.scope),
      Field.required_returns _ (queueStatus_returns _).atAnyDepth,
      Field.required_returns _ (count_returns fits.attempts).atAnyDepth,
      Field.required_returns _ (count_returns fits.maxAttempts).atAnyDepth,
      Field.required_returns _ (retryMode_returns _).atAnyDepth,
      Field.optional_returns _ fun t found => (instant_returns (fits.cooldownUntil t found)).atAnyDepth,
      Field.optional_returns _ fun t found => (instant_returns (fits.lastAttemptAt t found)).atAnyDepth,
      optionalText_returns _ _,
      optionalText_returns _ _,
      Field.required_returns _ (instant_returns fits.createdAt).atAnyDepth,
      Field.optional_returns _ fun t found => (instant_returns (fits.updatedAt t found)).atAnyDepth,
      trivial⟩
    rfl

theorem mutation_returns {m : Mutation} (fits : m.Fits) : mutation.Returns 3 m :=
  Codec.ofLayout_returns (by decide)
    ⟨Field.required_returns _ (mutationKind_returns _).atAnyDepth,
      Field.required_returns _ (entry_returns fits.entry),
      optionalText_returns _ _,
      Field.required_returns _ (instant_returns fits.timestamp).atAnyDepth, trivial⟩
    rfl

/-! ### Tagged records -/

section
variable {α : Type} {origin : Origin} {tag name : String} {choices : Choices α} {fields : List (String × Json)}

/-- Fields with other names than the tag are collected. -/
theorem collectTagged_ofFields (choices : Choices α) (found : Option (Decoder α))
    (others : ∀ field ∈ fields, field.1 ≠ tag) (admits : origin.Admits (nestingFields fields)) :
    collectTagged tag choices origin found (Document.ofFields fields) = .ok (found, fields) := by
  induction fields with
  | nil => rfl
  | cons field fields ih =>
    obtain ⟨name, j⟩ := field
    have other : name ≠ tag := others (name, j) List.mem_cons_self
    have value := whole_ofJson j (admits.mono (Nat.le_max_left ..))
    have rest := ih (fun field member => others field (List.mem_cons_of_mem _ member))
      (admits.mono (Nat.le_max_right ..))
    simp only [Document.ofFields, collectTagged, Document.asText, if_neg other, value, rest, bind, Except.bind,
      pure, Except.pure]

/-- A record with its tag in front is read by the choice that the tag names. -/
theorem readTagged_record {read : Decoder α} {a : α} (known : Decode.lookup choices name = .ok read)
    (others : ∀ field ∈ fields, field.1 ≠ tag) (admits : origin.Admits (nestingFields fields + 1))
    (reads : read (insideOf origin) (Document.ofJson (.record fields)) = .ok a) :
    readTagged tag choices origin (Document.ofJson (.record ((tag, .text name) :: fields))) = .ok a := by
  obtain ⟨inner, enters, allows⟩ := admits.inside
  have collected := collectTagged_ofFields choices (some read) others allows
  simp only [Document.ofJson, Document.ofFields, readTagged, enters, collectTagged, Document.asText, if_pos, known,
    collected, Closing.check, bind, Except.bind]
  exact reads

end

theorem admits_insideOf {origin : Origin} {depth : Nat} (admits : origin.Admits depth) :
    (insideOf origin).Admits depth := by
  cases origin <;> trivial

/-- A record type is returned with a tag in front as it is without. -/
theorem tagged_returns {α β σ : Type} {layout : Layout α σ} {toPairs : β → α} {ofPairs : α → β} {b : β} {depth : Nat}
    (name : String) (wrap : β → AuditRecord)
    (returns : (Codec.ofLayout layout toPairs ofPairs).Returns (depth + 1) b) (other : "record" ∉ layout.names)
    (known : Decode.lookup [("history_event", fun origin d => (event.read origin d).map .event),
      ("queue_mutation", fun origin d => (mutation.read origin d).map .mutation)] name =
        .ok fun origin d => ((Codec.ofLayout layout toPairs ofPairs).read origin d).map wrap)
    (written : record.write (wrap b) = tagged name ((Codec.ofLayout layout toPairs ofPairs).write b)) :
    record.Returns (depth + 1) (wrap b) := by
  have others : ∀ field ∈ layout.write (toPairs b), field.1 ≠ "record" := fun field member same =>
    other (same ▸ layout.write_names (toPairs b) field member)
  change record.write (wrap b) = .record (("record", .text name) :: layout.write (toPairs b)) at written
  refine ⟨?_, ?_, ?_, fun origin admits => ?_⟩ <;> rw [written]
  · exact ⟨trivial, returns.legible⟩
  · exact nofun
  · change max 0 _ + 1 ≤ depth + 1
    rw [Nat.zero_max]
    exact returns.shallow
  · refine readTagged_record known others (admits.mono returns.shallow) ?_
    have inner := returns.reads (insideOf origin) (admits_insideOf admits)
    exact congrArg (Except.map wrap) inner

theorem record_returns {r : AuditRecord} (fits : r.Fits) : record.Returns 3 r := by
  cases r with
  | event e => exact (tagged_returns "history_event" .event (event_returns fits) (by decide) rfl rfl).mono (by decide)
  | mutation m => exact tagged_returns "queue_mutation" .mutation (mutation_returns fits) (by decide) rfl rfl

end Wire

namespace AuditRecord

variable {r : AuditRecord}

/-- The line of a record is read back as the record. -/
theorem decodeText_line (fits : r.Fits) : Json.decodeText Wire.record.read r.line = .ok r :=
  (Wire.record_returns fits).decodeText (by decide)

/-- The line of a record is one line. -/
theorem newline_notMem_line (fits : r.Fits) : '\n' ∉ r.line.toList := by
  intro member
  exact absurd (Json.compact_printable (Wire.record_returns fits).legible '\n' member) (by decide)

end AuditRecord

end Reindexing
