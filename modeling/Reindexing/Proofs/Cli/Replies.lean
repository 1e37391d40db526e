import Reindexing.Cli.Client
import Reindexing.Proofs.Cli.Answers
import Reindexing.Proofs.Text.Utf8

/-!
# Replies that arrive

A reply that brings the response of a server is taken apart by the client: data
comes out of its envelope as what the text conveys. An error comes out of its own
envelope with its code, its message and the time to wait, whatever else is told
about it, as long as that can be read at all: the reader of the client allows only
so much nesting, and four of the levels are used up around the context of an error.
With one level too many the status and the bare text are all that is left of it.
-/
namespace Reindexing

/-- A reply has the status, the media type and the whole content of a response. -/
structure Http.Arrival.Brings (reply : Http.Arrival) (response : Http.Response) : Prop where
  status : reply.status = response.status
  type : reply.textHeader? "content-type" = response.header? "content-type"
  body : reply.body = .ok (Text.utf8 response.content.toText)

/-- A reply with a JSON value and nothing else. -/
def Http.Arrival.ofJson (status : Nat) (value : Json) : Http.Arrival :=
  ⟨status, [("content-type", Text.utf8 "application/json")], .ok (Text.utf8 value.compact)⟩

theorem Http.Arrival.ofJson_brings (status : Nat) (value : Json) :
    (Http.Arrival.ofJson status value).Brings (.json status value) := by
  have visible : Http.visibleText? (Text.utf8 "application/json") = some "application/json" := by decide +kernel
  exact ⟨rfl, visible, rfl⟩

namespace Json

variable {α : Type} {decoder : Decoder α} {a : α}

/-- A text is decoded as what its value is read as. -/
theorem decodeText_of_readable {j : Json} (readable : j.Readable) :
    decodeText decoder j.compact = decoder (.text nestingLimit) (Document.ofJson j.reread) := by
  simp only [decodeText, read_compact_readable readable]
  cases decoder (.text nestingLimit) (Document.ofJson j.reread) <;> rfl

theorem decodeText_of_legible {j : Json} (legible : j.Legible)
    (reads : decoder (.text nestingLimit) (Document.ofJson j) = .ok a) : decodeText decoder j.compact = .ok a := by
  obtain ⟨readable, same⟩ := Legible.reread j legible
  rw [decodeText_of_readable readable, same, reads]

end Json

/-- The text of an error can be read by a reader of limited depth: its context is not nested
too deeply. Four levels are used up by the envelope, the error, the details and the context
itself. Numbers are of the kinds that there are, integers of 64 bits and finite doubles. -/
structure Error.IsReadable (e : Error) : Prop where
  context : Json.ReadableFields e.details.context
  nesting : Json.nestingFields e.details.context + 4 < Json.nestingLimit
  retryAfter : ∀ n, e.details.retryAfter = some n → n ≤ Word.max64

namespace Cli

open Json

variable {reply : Http.Arrival} {depth status : Nat} {α : Type} {decoder : Decoder α} {a : α}

/-! ### Data -/

theorem readEnvelope_reads {data : Json} (conveys : data.Conveys depth decoder a) (shallow : depth + 1 < nestingLimit) :
    readEnvelope decoder (.text nestingLimit) (Document.ofJson (Wire.dataEnvelope data)) =
      .ok ⟨true, some a, none⟩ := by
  have allows : (Origin.text (nestingLimit - 1)).Admits depth := Nat.lt_sub_of_add_lt shallow
  have value : Decode.optional decoder (.text (nestingLimit - 1)) (Document.ofJson data) = .ok (some a) := by
    rw [Decode.optional_ofJson conveys.filled, conveys.reads _ allows]
    rfl
  have unique : ([("success", Json.bool true), ("data", data)].map Prod.fst).Nodup := by simp
  have distinct : ["success", "data", "error", "error_code"].Nodup := by decide
  change Except.map _ (Layout.read _ _ (Document.ofJson (.record [("success", .bool true), ("data", data)]))) = _
  refine Layout.map_read_of_finds _ ?_ ?_ ?_
    (?_ : Layout.Finds (.text (nestingLimit - 1)) _ _ (true, some a, none, none, ())) ?_
  · exact distinct
  · exact unique
  · rfl
  · exact ⟨rfl, value, rfl, rfl, trivial⟩
  · rfl

theorem dataOf_of_conveys {data : Json} (conveys : data.Conveys depth decoder a) (shallow : depth + 1 < nestingLimit)
    (brings : reply.Brings (Api.succeed status data)) (label : String) :
    Client.dataOf decoder label reply = .ok a := by
  have legible : (Wire.dataEnvelope data).LegibleWithin (depth + 1) := by
    have each : ∀ field ∈ [("success", Json.bool true), ("data", data)], field.2.LegibleWithin depth := by
      simp only [List.forall_mem_cons]
      exact ⟨legibleWithin_bool _, conveys.legible, nofun⟩
    exact legibleWithin_record each
  have decoded := decodeText_of_legible legible.1 (readEnvelope_reads conveys shallow)
  have body : reply.body = .ok (Text.utf8 (Wire.dataEnvelope data).compact) := brings.body
  simp only [Client.dataOf, Client.valueOf, body, Text.ofUtf8?_utf8, Option.map_some, decoded, bind, Except.bind]
  rfl

/-! ### Errors -/

/-- The text of a JSON response is decoded as UTF-8. -/
theorem textOf_of_json {fields : List (String × Json)} (brings : reply.Brings (.json status (.record fields))) :
    Client.textOf reply = .ok (Json.record fields).compact := by
  have unnamed : (((reply.textHeader? "content-type").bind Http.MediaType.ofText?).bind (·.charset?)) = none := by
    rw [brings.type]
    exact (by decide : ((some "application/json").bind Http.MediaType.ofText?).bind (·.charset?) = none)
  have front : ∃ cs, (Json.record fields).compact = String.ofList ('\x7b' :: cs) := by
    cases fields <;> exact ⟨_, rfl⟩
  obtain ⟨cs, front⟩ := front
  have body : reply.body = .ok (Text.utf8 (Json.record fields).compact) := brings.body
  simp only [Client.textOf, unnamed, body, Except.map, front]
  rw [Text.decodeAs_utf8 (by decide)]

/-- The fields that the server shows of an error. -/
def reportLayout : Layout (ErrorCode × Nat × String × Option ErrorDetails × String × Unit)
    (Option ErrorCode × Option Nat × Option String × Option (Option ErrorDetails) × Option String × Unit) :=
  .field (.required "code" Wire.errorCode) <|
    .field (.required "numeric_code" Wire.word) <|
    .field (.required "message" Wire.text) <|
    .field (.optional "details" Wire.details) <|
    .field (.required "timestamp" Wire.text) .done

/-- The details that the server shows of an error. -/
def shownDetails (e : Error) : Option ErrorDetails := if e.details.isEmpty then none else some e.details

def reportPairs (e : Error) (timestamp : String) :
    ErrorCode × Nat × String × Option ErrorDetails × String × Unit :=
  (e.code, e.code.number, e.user, shownDetails e, timestamp, ())

theorem errorEnvelope_eq (e : Error) (timestamp : String) : Wire.errorEnvelope e timestamp =
    .record [("success", .bool false), ("error", .record (reportLayout.write (reportPairs e timestamp)))] := by
  unfold Wire.errorEnvelope reportPairs shownDetails
  by_cases empty : e.details.isEmpty = true
  · simp only [if_pos empty]
    rfl
  · simp only [if_neg empty]
    rfl

theorem shownDetails_readable {e : Error} (context : ReadableFields e.details.context)
    (retryAfter : ∀ n, e.details.retryAfter = some n → n ≤ Word.max64) {d : ErrorDetails}
    (shown : shownDetails e = some d) :
    (Wire.details.write d).ReadableWithin (nestingFields e.details.context + 2) := by
  have text (s : String) : (Json.text s).ReadableWithin (nestingFields e.details.context + 1) :=
    (legibleWithin_text s).readable
  obtain rfl : e.details = d := by
    unfold shownDetails at shown
    split at shown
    · cases shown
    · exact Option.some.inj shown
  apply readableWithin_record
  apply Layout.forall_mem_write
  refine ⟨?_, ?_, ?_, ?_, ?_, trivial⟩
  · intro j written
    simp only [Wire.contextField] at written
    split at written
    · cases written
    · obtain rfl := Option.some.inj written
      exact ⟨context, Nat.le_refl _⟩
  · exact Field.optional_writes "entity_id" fun s _ => text s
  · exact Field.optional_writes "entity_type" fun s _ => text s
  · exact Field.optional_writes "retry_after_secs" fun n found => (legibleWithin_nat (retryAfter n found)).readable
  · exact Field.optional_writes "suggested_action" fun s _ => text s

theorem field?_reread_write {σ : Type} {layout : Layout α σ} (distinct : layout.names.Nodup) (a : α) (key : String) :
    (Json.record (layout.write a)).reread.field? key = (layout.written? a key).map reread := by
  rw [field?_reread, layout.field?_write distinct]

theorem unique_reread_write {σ : Type} {layout : Layout α σ} (distinct : layout.names.Nodup) (a : α) :
    ((rereadFields (layout.write a)).map Prod.fst).Nodup := by
  rw [map_fst_rereadFields]
  exact layout.unique_write distinct a

/-- Whatever is in the details of an error, the time to wait is found in them. -/
theorem wordOf?_details {d : ErrorDetails} (small : ∀ n, d.retryAfter = some n → n ≤ Word.max64) :
    wordOf? ((Wire.details.write d).reread.normal.field "retry_after_secs") = d.retryAfter := by
  have written : (Wire.details.write d).reread.field? "retry_after_secs" = (d.retryAfter.map Json.nat).map reread :=
    field?_reread_write (by decide) _ _
  have found : (Wire.details.write d).reread.normal.field? "retry_after_secs" =
      ((d.retryAfter.map Json.nat).map reread).map normal :=
    (field?_normal (unique_reread_write (by decide) _)).trans (congrArg _ written)
  rw [Json.field, found]
  cases waits : d.retryAfter with
  | none => rfl
  | some n =>
    have legible : (Json.nat n).LegibleWithin 0 := legibleWithin_nat (small n waits)
    have same : (Json.nat n).reread = .nat n := (Legible.reread _ legible.1).2
    simp only [Option.map_some, same, Option.getD_some]
    exact if_pos (small n waits)

/-- What the client reads of an error. -/
def ErrorAnswer.of (e : Error) : ErrorAnswer :=
  ⟨e.code.name, e.user, (shownDetails e).map fun d => (Wire.details.write d).reread.normal⟩

theorem errorReport_reads {e : Error} {timestamp : String} {origin : Origin}
    (nesting : ∀ d, shownDetails e = some d → (Wire.details.write d).nesting ≤ depth)
    (admits : origin.Admits (depth + 2)) :
    errorReport.read origin (Document.ofJson (Wire.errorEnvelope e timestamp).reread) = .ok (ErrorAnswer.of e) := by
  rw [errorEnvelope_eq]
  obtain ⟨outer, enters, allows⟩ := admits.inside
  obtain ⟨inner, enters_inner, allows_inner⟩ := allows.inside
  have answer : errorAnswer.read outer (Document.ofJson
      (Json.record (reportLayout.write (reportPairs e timestamp))).reread) = .ok (ErrorAnswer.of e) := by
    apply Codec.ofLayout_takes (a := (e.code.name, e.user,
      (shownDetails e).map fun d => (Wire.details.write d).reread.normal, ()))
    · exact field?_reread_write (by decide) _
    · exact unique_reread_write (by decide) _
    · decide
    · exact enters_inner
    · refine ⟨rfl, rfl, ?_, trivial⟩
      have found : (reportLayout.written? (reportPairs e timestamp) "details").map reread =
          (shownDetails e).map fun d => (Wire.details.write d).reread := Option.map_map _ _ _
      change (Field.nullable "details" anything).Takes inner
        ((reportLayout.written? (reportPairs e timestamp) "details").map reread) _
      rw [found]
      refine Field.nullable_takes _ fun d shown => ⟨nofun, anything_reads ?_⟩
      rw [nesting_reread]
      exact allows_inner.mono (nesting d shown)
    · rfl
  apply Codec.ofLayout_takes (a := (ErrorAnswer.of e, ()))
  · exact fun _ => rfl
  · exact (by decide : ["success", "error"].Nodup)
  · decide
  · exact enters
  · exact ⟨answer, trivial⟩
  · rfl

theorem number_le_max64 (code : ErrorCode) : code.number ≤ Word.max64 := by
  cases code <;> decide

theorem retryAfter_of {e : Error} (small : ∀ n, e.details.retryAfter = some n → n ≤ Word.max64) :
    (ErrorAnswer.of e).retryAfter = e.details.retryAfter := by
  simp only [ErrorAnswer.retryAfter, ErrorAnswer.of, shownDetails]
  split
  · next empty =>
    simp only [ErrorDetails.isEmpty, Bool.and_eq_true, Option.isNone_iff_eq_none] at empty
    exact empty.1.2.symm
  · exact wordOf?_details small

theorem errorEnvelope_readable {e : Error} (context : ReadableFields e.details.context)
    (retryAfter : ∀ n, e.details.retryAfter = some n → n ≤ Word.max64) (timestamp : String) :
    (Wire.errorEnvelope e timestamp).Readable := by
  have text (s : String) : (Json.text s).ReadableWithin (nestingFields e.details.context + 2) :=
    (legibleWithin_text s).readable
  have report : (Json.record (reportLayout.write (reportPairs e timestamp))).ReadableWithin
      (nestingFields e.details.context + 3) := by
    apply readableWithin_record
    apply Layout.forall_mem_write
    refine ⟨?_, ?_, ?_, ?_, ?_, trivial⟩
    · exact Field.required_writes _ (text _)
    · exact Field.required_writes _ (legibleWithin_nat (number_le_max64 e.code)).readable
    · exact Field.required_writes _ (text _)
    · exact Field.optional_writes _ fun _ shown => shownDetails_readable context retryAfter shown
    · exact Field.required_writes _ (text _)
  have envelope : ∀ field ∈ [("success", Json.bool false),
      ("error", .record (reportLayout.write (reportPairs e timestamp)))],
      field.2.ReadableWithin (nestingFields e.details.context + 3) := by
    simp only [List.forall_mem_cons]
    exact ⟨(legibleWithin_bool _).readable, report, nofun⟩
  rw [errorEnvelope_eq]
  exact (readableWithin_record envelope).1

theorem textOf_of_error {e : Error} {timestamp : String}
    (brings : reply.Brings (.json status (Wire.errorEnvelope e timestamp))) :
    Client.textOf reply = .ok (Wire.errorEnvelope e timestamp).compact := by
  rw [errorEnvelope_eq] at brings ⊢
  exact textOf_of_json brings

/-- A readable error that a server answers with reaches the caller as what it says. -/
theorem faultOf_of_error {e : Error} {timestamp : String} (readable : e.IsReadable)
    (brings : reply.Brings (.json status (Wire.errorEnvelope e timestamp))) :
    Client.faultOf reply = .rejected status (ErrorAnswer.of e) := by
  have admits : (Origin.text nestingLimit).Admits (nestingFields e.details.context + 2 + 2) := readable.nesting
  have reads : errorReport.read (.text nestingLimit) (Document.ofJson (Wire.errorEnvelope e timestamp).reread) =
      .ok (ErrorAnswer.of e) :=
    errorReport_reads (fun _ shown => (shownDetails_readable readable.context readable.retryAfter shown).2) admits
  have decoded : decodeText errorReport.read (Wire.errorEnvelope e timestamp).compact = .ok (ErrorAnswer.of e) := by
    rw [decodeText_of_readable (errorEnvelope_readable readable.context readable.retryAfter timestamp), reads]
  simp only [Client.faultOf, textOf_of_error brings, Except.toOption, Option.getD_some, decoded, brings.status]
  rfl

/-- An error whose report cannot be read is taken for a failure without a report. -/
theorem faultOf_of_unread {e : Error} {timestamp : String} {fault : DecodeError}
    (readable : (Wire.errorEnvelope e timestamp).Readable)
    (unread : errorReport.read (.text nestingLimit) (Document.ofJson (Wire.errorEnvelope e timestamp).reread) =
      .error fault)
    (brings : reply.Brings (.json status (Wire.errorEnvelope e timestamp))) :
    Client.faultOf reply = .unexpected status (Wire.errorEnvelope e timestamp).compact := by
  have decoded : decodeText errorReport.read (Wire.errorEnvelope e timestamp).compact = .error fault := by
    rw [decodeText_of_readable readable, unread]
  simp only [Client.faultOf, textOf_of_error brings, Except.toOption, Option.getD_some, decoded, brings.status]
  rfl

section

variable {e : Error} {timestamp : String}

/-- A report is read only if its details are not nested too deeply. -/
theorem nesting_le_of_errorReport {answer : ErrorAnswer} {d : ErrorDetails} (shown : shownDetails e = some d)
    (success : errorReport.read (.text (depth + 3)) (Document.ofJson (Wire.errorEnvelope e timestamp).reread) =
      .ok answer) : (Wire.details.write d).nesting ≤ depth := by
  rw [errorEnvelope_eq] at success
  obtain ⟨outer, enters, fields⟩ := Layout.reads_of_map_read success
  obtain rfl := Except.ok.inj ((inside_text _).symm.trans enters)
  obtain ⟨report, read⟩ := fields ("error", _) (List.mem_cons_of_mem _ List.mem_cons_self)
  obtain ⟨inner, enters, fields⟩ := Layout.reads_of_map_read read
  obtain rfl := Except.ok.inj ((inside_text _).symm.trans enters)
  have written : (Json.record (reportLayout.write (reportPairs e timestamp))).field? "details" =
      some (Wire.details.write d) :=
    (reportLayout.field?_write (by decide) _ _).trans (congrArg (Option.map _) shown)
  have found : (Json.record (reportLayout.write (reportPairs e timestamp))).reread.field? "details" =
      some (Wire.details.write d).reread :=
    field?_reread.trans (congrArg (Option.map reread) written)
  obtain ⟨details, read⟩ := fields _ (mem_of_field? found)
  change Decode.optional anything.read (.text (depth + 1)) (Document.ofJson (Wire.details.write d).reread) = _ at read
  have filled : (Wire.details.write d).reread ≠ .null := nofun
  rw [Decode.optional_ofJson filled] at read
  cases whole : anything.read (.text (depth + 1)) (Document.ofJson (Wire.details.write d).reread) with
  | error fault =>
    rw [whole] at read
    cases read
  | ok value =>
    rw [← nesting_reread]
    exact nesting_le_of_anything whole

theorem nesting_details {d : ErrorDetails} (filled : d.context ≠ []) :
    nestingFields d.context + 2 ≤ (Wire.details.write d).nesting := by
  have written : Wire.contextField.write d.context = some (.record d.context) :=
    if_neg fun empty => filled (List.isEmpty_iff.mp empty)
  have found : (Wire.details.write d).field? "context" = some (.record d.context) :=
    (Layout.field?_write _ (by decide) _ _).trans written
  exact Nat.succ_le_succ (nestingFields_le_iff.mp (Nat.le_refl _) _ (mem_of_field? found))

/-- Of an error whose context is nested too deeply the caller gets the status and the bare text. -/
theorem faultOf_of_deep_error (context : ReadableFields e.details.context)
    (retryAfter : ∀ n, e.details.retryAfter = some n → n ≤ Word.max64)
    (deep : nestingLimit ≤ nestingFields e.details.context + 4)
    (brings : reply.Brings (.json status (Wire.errorEnvelope e timestamp))) :
    Client.faultOf reply = .unexpected status (Wire.errorEnvelope e timestamp).compact := by
  have filled : e.details.context ≠ [] := by
    intro empty
    rw [empty] at deep
    exact absurd deep (by decide)
  have shown : shownDetails e = some e.details := by
    refine if_neg fun empty => filled ?_
    simp only [ErrorDetails.isEmpty, Bool.and_eq_true, List.isEmpty_iff] at empty
    exact empty.1.1.1
  have nesting : nestingFields e.details.context + 2 ≤ (Wire.details.write e.details).nesting :=
    nesting_details filled
  cases read : errorReport.read (.text nestingLimit) (Document.ofJson (Wire.errorEnvelope e timestamp).reread) with
  | error fault => exact faultOf_of_unread (errorEnvelope_readable context retryAfter timestamp) read brings
  | ok answer =>
    have shallow : (Wire.details.write e.details).nesting ≤ 125 := nesting_le_of_errorReport shown read
    simp only [nestingLimit] at deep
    omega

end

end Cli
end Reindexing
