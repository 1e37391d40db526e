import Reindexing.Proofs.Engine.Passages
import Reindexing.Proofs.Queue.Replay

/-!
# The audit trail as a replay

Every call writes into the audit trail what it does to history and queue, though
not always at once: in between some records are owed. An account is what the
trail is compared with, the books of the queue and the events of the history,
with the clock. It tells the truth if the records in the trail and those that are
owed make up the history and retell the entries. Reading the clock, a call of the
queue, an event of the history and a record that is written keep it so; between
complete calls nothing is owed, so that the trail alone reconstructs both.
-/
namespace Reindexing

def AuditRecord.event? : AuditRecord → Option HistoryEvent
  | .event e => some e
  | .mutation _ => none

def AuditRecord.mutation? : AuditRecord → Option Mutation
  | .event _ => none
  | .mutation m => some m

namespace AuditLog

def events (log : AuditLog) : List HistoryEvent := log.records.filterMap AuditRecord.event?

def mutations (log : AuditLog) : List Mutation := log.records.filterMap AuditRecord.mutation?

/-- A log that has let no record go was complete before, and has one record more. -/
theorem append_complete {log : AuditLog} {r : AuditRecord} {disk : Disk}
    (complete : (log.append r disk).1.evicted = 0) :
    log.evicted = 0 ∧ (log.append r disk).1.records = log.records ++ [r] := by
  have kept : ∀ log : AuditLog, (log.keep r).evicted = 0 →
      log.evicted = 0 ∧ (log.keep r).records = log.records ++ [r] := by
    intro log complete
    unfold keep at complete ⊢
    split at complete
    · cases complete
    · next room =>
      rw [if_neg room]
      exact ⟨complete, rfl⟩
  unfold append at complete ⊢
  split at complete
  · exact kept _ complete
  · dsimp only at complete ⊢
    split at complete <;> exact kept _ complete

end AuditLog

/-! ### Events of the registry -/

namespace Registry

/-- A transition appends its event to the history, with the next number. -/
structure Appends (r after : Registry) (tr : Transition) : Prop where
  events : after.history.events = r.history.events ++ [tr.event]
  sequence : tr.event.sequence = r.history.events.length

variable {r after : Registry} {id : TaskId} {tr : Transition} {now : Instant}

theorem submit_appends {s : Submission} (success : r.submit id s now = .ok (after, tr)) :
    r.Appends after tr := by
  obtain ⟨_, rfl, rfl⟩ := submit_ok_iff.mp success
  exact ⟨rfl, rfl⟩

theorem markRunning_appends {trace : Option TraceLink}
    (success : r.markRunning id trace now = .ok (after, tr)) :
    r.Appends after tr := by
  obtain ⟨t, _, _, same⟩ := markRunning_ok success
  cases same
  exact ⟨rfl, rfl⟩

theorem recordOutcome_appends {o : Outcome} {note : Option String} {trace : Option TraceLink}
    (success : r.recordOutcome id o note trace now = .ok (after, tr)) : r.Appends after tr := by
  obtain ⟨t, _, _, same⟩ := recordOutcome_ok success
  cases same
  exact ⟨rfl, rfl⟩

end Registry

/-! ### Accounts -/

namespace Moment

/-- The clock has shown this time. -/
def Read (m : Moment) (time : Instant) : Prop := ∃ k < m.readings, m.clock k = time

/-- The clock has shown this time or a later one. -/
def Past (m : Moment) (time : Instant) : Prop := ∃ k < m.readings, time ≤ m.clock k

theorem Read.past {m : Moment} {time ending : Instant} (read : m.Read time) (le : ending ≤ time) :
    m.Past ending := by
  obtain ⟨k, before, rfl⟩ := read
  exact ⟨k, before, le⟩

/-- A call at a time that the clock has shown names no other time. -/
theorem Read.of_some {m : Moment} {now : Instant} (read : m.Read now) :
    ∀ time, some now = some time → m.Read time :=
  fun _ same => Option.some.inj same ▸ read

end Moment

/-- What the audit trail of an engine is compared with. -/
structure Account extends Moment where
  history : List HistoryEvent
  audit : AuditLog

namespace Account

/-- The records in the trail and those that are owed make up the history and retell the entries, while
these claims are held. -/
structure Balanced (a : Account) (held : List Claim) (owed : List AuditRecord) : Prop where
  sound : Ledger.Sound ⟨a.toBooks, held⟩
  numbered : a.history.map (·.sequence) = List.range a.history.length
  events : (a.audit.records ++ owed).filterMap AuditRecord.event? = a.history
  retold : a.toBooks.Retold a.Past ((a.audit.records ++ owed).filterMap AuditRecord.mutation?)

/-- The account is balanced, unless records were let go or identifiers were given twice. -/
def Tells (a : Account) (held : List Claim) (owed : List AuditRecord) : Prop :=
  a.audit.evicted = 0 → a.entryIds.Nodup → a.Balanced held owed

variable {a : Account} {held fewer : List Claim} {owed : List AuditRecord} {c : Queue.Call}

theorem Balanced.wait (before : a.Balanced held owed) {readings : Nat} (later : a.readings ≤ readings) :
    Balanced { a with readings } held owed where
  sound := before.sound
  numbered := before.numbered
  events := before.events
  retold := before.retold.mono fun _ ⟨k, read, le⟩ => ⟨k, Nat.lt_of_lt_of_le read later, le⟩

namespace Tells

theorem wait (before : a.Tells held owed) {readings : Nat} (later : a.readings ≤ readings) :
    Tells { a with readings } held owed :=
  fun complete distinct => (before complete distinct).wait later

/-- A record that is owed is written. -/
theorem pay {r : AuditRecord} (before : a.Tells held (r :: owed)) (disk : Disk) :
    Tells { a with audit := (a.audit.append r disk).1 } held owed := by
  intro complete distinct
  obtain ⟨earlier, records⟩ := AuditLog.append_complete complete
  obtain ⟨sound, numbered, events, retold⟩ := before earlier distinct
  have same : (a.audit.append r disk).1.records ++ owed = a.audit.records ++ r :: owed := by
    rw [records, List.append_assoc]
    rfl
  rw [← same] at events retold
  exact ⟨sound, numbered, events, retold⟩

/-- An event is appended to the history, and owed to the trail. -/
theorem append_event (before : a.Tells held []) {event : HistoryEvent}
    (next : event.sequence = a.history.length) :
    Tells { a with history := a.history ++ [event] } held [.event event] := by
  intro complete distinct
  obtain ⟨sound, numbered, events, retold⟩ := before complete distinct
  rw [List.append_nil] at events retold
  refine ⟨sound, ?_, ?_, ?_⟩
  · simp only [List.map_append, List.length_append, List.length_singleton, List.range_succ, numbered]
    rw [List.map_singleton, next]
  · rw [List.filterMap_append, events]
    rfl
  · rw [List.filterMap_append]
    exact (List.append_nil (a.audit.records.filterMap AuditRecord.mutation?)).symm ▸ retold

/-- Claims need not be held any longer. -/
theorem forget (before : a.Tells held owed) (subset : ∀ taken ∈ fewer, taken ∈ held) :
    a.Tells fewer owed := by
  intro complete distinct
  obtain ⟨sound, numbered, events, retold⟩ := before complete distinct
  refine ⟨⟨sound.toSound, ?_, ?_⟩, numbered, events, retold⟩
  · exact fun taken member => sound.known taken (subset taken member)
  · exact fun taken member => sound.scope taken (subset taken member)

/-- A call of the queue owes its mutations to the trail. -/
theorem call (before : a.Tells held []) {next : Ledger} {ms : List Mutation}
    (performs : Ledger.perform ⟨a.toBooks, held⟩ c = next) (tells : a.queue.mutations c = ms)
    (listed : c.ReleasesFrom held) (read : ∀ now, c.time? = some now → a.Read now) :
    Tells { a with toBooks := next.toBooks } next.claims (ms.map .mutation) := by
  intro complete distinct
  have step := Ledger.step ⟨a.toBooks, held⟩ c
  rw [performs, tells] at step
  dsimp only at complete distinct
  obtain ⟨sound, numbered, events, retold⟩ := before complete (distinct.sublist step.ids_prefix.sublist)
  have renews : Ledger.Renews ⟨a.toBooks, held⟩ next.toBooks := by
    intro id given
    rw [given] at distinct
    exact Keyed.not_mem_of_nodup_append distinct
  have effect := step.effect sound listed renews
  have sound_next : next.Sound := performs ▸ sound.perform_of_effect (performs.symm ▸ effect)
  refine ⟨sound_next, numbered, ?_, ?_⟩
  · rw [List.append_nil] at events
    have none : (ms.map AuditRecord.mutation).filterMap AuditRecord.event? = [] := by
      simp [List.filterMap_map, AuditRecord.event?, Function.comp_def]
    rw [List.filterMap_append, events, none, List.append_nil]
  · rw [List.append_nil] at retold
    have told := step.retold sound listed renews (fun now same ending le => (read now same).past le) retold
    have all : (ms.map AuditRecord.mutation).filterMap AuditRecord.mutation? = ms := by
      simp [List.filterMap_map, AuditRecord.mutation?, Function.comp_def]
    rw [List.filterMap_append, all]
    exact told

end Tells

end Account

namespace Engine

def account (e : Engine) : Account := ⟨e.moment, e.registry.history.events, e.audit⟩

/-! ### What leaves the account alone -/

section frame
variable (e : Engine)

@[simp] theorem account_tell (event : LogEvent) : (e.tell event).account = e.account := rfl
@[simp] theorem account_mapMetrics (f : Metrics → Metrics) : (e.mapMetrics f).account = e.account := rfl
@[simp] theorem account_countRefusal (r : Refusal) : (e.countRefusal r).account = e.account := rfl
@[simp] theorem account_takeDraw : e.takeDraw.account = e.account := rfl
@[simp] theorem account_showQueueDepth : e.showQueueDepth.account = e.account := rfl
@[simp] theorem account_showRunning : e.showRunning.account = e.account := rfl
@[simp] theorem account_withDispatched (dispatched : List Run) :
    { e with dispatched }.account = e.account := rfl

theorem account_takeEntryId : e.takeEntryId.account =
    { e.account with entryIds := e.account.entryIds ++ [e.nextEntryId] } := by
  rw [account, moment_takeEntryId]
  rfl

@[simp] theorem account_openSpan (span : LogSpan) : (e.openSpan span).2.account = e.account :=
  apply_openSpan account (fun _ _ => rfl) e span

@[simp] theorem account_tellTruncation (o : Outcome) : (e.tellTruncation o).account = e.account :=
  apply_tellTruncation account (fun _ _ => rfl) e o

theorem account_record (r : AuditRecord) :
    (e.record r).account = { e.account with audit := (e.audit.append r e.disk).1 } := by
  unfold Engine.record
  split <;> simp [account, moment, books, stores, count, tell, mapMetrics, *]

end frame

variable {e after : Engine} {held : List Claim} {owed : List AuditRecord} {now : Instant}

/-! ### Records and the clock -/

theorem record_tells {r : AuditRecord} (before : e.account.Tells held (r :: owed)) :
    (e.record r).account.Tells held owed := by
  rw [account_record]
  exact before.pay e.disk

theorem recordMutations_tells {ms : List Mutation} (before : e.account.Tells held (ms.map .mutation)) :
    (ms.foldl recordMutation e).account.Tells held [] := by
  induction ms generalizing e with
  | nil => exact before
  | cons m rest ih => exact ih (record_tells before)

theorem now_tells (before : e.account.Tells held owed) : e.now.2.account.Tells held owed :=
  before.wait (Nat.le_succ _)

theorem read_now (e : Engine) : e.now.2.moment.Read e.now.1 := ⟨e.supply.readings, Nat.lt_succ_self _, rfl⟩

/-! ### Tasks -/

/-- A transition is an event of the history, which is owed to the trail. -/
theorem transition_tells (before : e.account.Tells held []) {registry : Registry} {tr : Transition}
    (appends : e.registry.Appends registry tr) :
    { e with registry }.account.Tells held [.event tr.event] := by
  have told := before.append_event appends.sequence
  rw [show e.account.history ++ [tr.event] = registry.history.events from appends.events.symm] at told
  exact told

theorem create_tells (before : e.account.Tells held []) {s : Submission} {created : Transition}
    (success : e.create s now = (after, .ok created)) :
    after.moment = e.moment ∧ after.account.Tells held [.event created.event] := by
  cases result : e.registry.submit e.nextTaskId s now with
  | error r =>
    rw [create_error result] at success
    cases success
  | ok value =>
    simp only [create, result] at success
    cases success
    exact ⟨rfl, transition_tells before (Registry.submit_appends result)⟩

theorem create_refused {s : Submission} {r : Refusal} (failure : e.create s now = (after, .error r)) :
    after.account = e.account := by
  cases result : e.registry.submit e.nextTaskId s now with
  | error r =>
    rw [create_error result] at failure
    cases failure
    rfl
  | ok value =>
    obtain ⟨between, accepted, _⟩ := create_ok result
    rw [accepted] at failure
    cases failure

theorem dispatch_tells (before : e.account.Tells held []) (t : Task) (attempt : Nat) :
    (e.dispatch t attempt).1.account.Tells held [] := by
  cases result : e.registry.markRunning t.id t.trace e.now.1 with
  | error r =>
    simp only [dispatch, registry_now, result, account_countRefusal]
    exact now_tells before
  | ok value =>
    obtain ⟨registry, running⟩ := value
    simp only [dispatch, registry_now, result, account_withDispatched, account_openSpan, account_showRunning]
    exact record_tells (transition_tells (now_tells before) (Registry.markRunning_appends result))

theorem submit_tells (before : e.account.Tells held []) (c : SubmitCommand) :
    (e.submit c).1.account.Tells held [] := by
  cases result : e.now.2.create ⟨c.scope, c.actor, c.note, e.link c.traceId, none⟩ e.now.1 with
  | mk between answer =>
    cases answer with
    | error r =>
      simp only [submit, result, create_refused result]
      exact now_tells before
    | ok created =>
      simp only [submit, result]
      refine dispatch_tells ?_ created.task 0
      exact record_tells (create_tells (now_tells before) result).2

/-! ### Outcomes -/

/-- What the trail is owed after a failure was recorded. -/
def owedFor : Except Refusal Mutation → List AuditRecord
  | .ok m => [.mutation m]
  | .error _ => []

theorem enqueue_tells (before : e.account.Tells held []) (failed : Task) (read : e.moment.Read now) :
    (e.enqueue failed now).1.account.Tells held (owedFor (e.enqueue failed now).2) := by
  cases result : e.queue.enqueue failed .auto now e.nextEntryId e.nextDraw with
  | error r =>
    simp only [enqueue, result, account_countRefusal]
    exact before
  | ok value =>
    obtain ⟨queue, m⟩ := value
    let c : Queue.Call := .enqueue failed .auto now e.nextEntryId e.nextDraw
    have performs : Ledger.perform ⟨e.books, held⟩ c = ⟨⟨queue, if m.kind = .created then
        e.books.entryIds ++ [e.nextEntryId] else e.books.entryIds⟩, held⟩ := by
      simp only [Ledger.perform, c, queue_books, result]
    have tells : e.queue.mutations c = [m] := by simp only [Queue.mutations, c, result, Queue.toldOf]
    have called := before.call performs tells trivial read.of_some
    simp only [enqueue, result, account_tell]
    split
    · next created =>
      rw [if_pos created] at called
      rw [account_takeEntryId]
      exact called
    · next other =>
      rw [if_neg other] at called
      exact called

theorem routeFailure_tells (before : e.account.Tells held []) (failed : Task) (read : e.moment.Read now) :
    (e.routeFailure failed now).1.account.Tells held (owedFor (e.routeFailure failed now).2) := by
  cases retried : failed.retryOf with
  | none =>
    simp only [routeFailure, retried]
    exact enqueue_tells before failed read
  | some id =>
    cases result : e.queue.recordRetryFailure id failed now e.nextDraw with
    | error r =>
      simp only [routeFailure, retried, result]
      exact enqueue_tells (e := e.countRefusal r) before failed read
    | ok value =>
      obtain ⟨queue, m⟩ := value
      let c : Queue.Call := .recordRetryFailure id failed now e.nextDraw
      have performs : Ledger.perform ⟨e.books, held⟩ c = ⟨{ e.books with queue }, held⟩ := by
        simp only [Ledger.perform, c, queue_books, result]
      have tells : e.queue.mutations c = [m] := by simp only [Queue.mutations, c, result, Queue.toldOf]
      simp only [routeFailure, retried, result, account_tell, account_takeDraw]
      exact before.call performs tells trivial read.of_some

theorem resolveRetry_tells (before : e.account.Tells held []) (done : Task) (read : e.moment.Read now) :
    (e.resolveRetry done now).account.Tells held [] := by
  cases retried : done.retryOf with
  | none =>
    simp only [resolveRetry, retried]
    exact before
  | some id =>
    let c : Queue.Call := .resolve id now
    cases result : e.queue.resolve id now with
    | mk queue m =>
      have performs : Ledger.perform ⟨e.books, held⟩ c = ⟨{ e.books with queue }, held⟩ := by
        simp only [Ledger.perform, c, queue_books, result]
      have tells : e.queue.mutations c = m.toList := by simp only [Queue.mutations, c, result]
      have called := before.call performs tells trivial read.of_some
      cases m with
      | none =>
        simp only [resolveRetry, retried, result]
        exact called
      | some m =>
        simp only [resolveRetry, retried, result]
        exact record_tells called

theorem settleQueue_tells (before : e.account.Tells held []) (done : Task) (read : e.moment.Read now) :
    (e.settleQueue done now).1.account.Tells held [] := by
  unfold settleQueue
  split
  · have routed := routeFailure_tells before done read
    cases result : e.routeFailure done now with
    | mk after answer =>
      rw [result] at routed
      cases answer with
      | error r => exact routed
      | ok m => exact record_tells routed
  · exact resolveRetry_tells before done read

theorem recordOutcome_tells (before : e.account.Tells held []) (id : TaskId) (reported : Outcome) :
    (e.recordOutcome id reported).1.account.Tells held [] := by
  have told : (e.tellTruncation reported).account.Tells held [] := by
    rw [account_tellTruncation]
    exact before
  rcases e.recordOutcome_cases id reported with ⟨r, result⟩ | ⟨registry, finished, accepted, settles⟩
  · rw [result]
    exact now_tells told
  · have appends : (e.tellTruncation reported).now.2.registry.Appends registry finished := by
      rw [registry_now, e.registry_tellTruncation reported]
      exact Registry.recordOutcome_appends accepted
    have between : (e.settling reported registry finished).account.Tells held [] :=
      record_tells (transition_tells (now_tells told) appends)
    have read : (e.settling reported registry finished).moment.Read e.now.1 := by
      rw [moment_settling]
      exact e.read_now
    have settled := settleQueue_tells between finished.task read
    cases result : (e.settling reported registry finished).settleQueue finished.task e.now.1 with
    | mk after answer =>
      rw [result] at settled
      cases answer with
      | error r => rwa [settles.refuses after r result]
      | ok =>
        rw [settles.accepts after result]
        exact settled

/-! ### Retries -/

/-- The claim that is held after a claim was tried. -/
def heldFor : Except Refusal Claim → List Claim
  | .ok taken => [taken]
  | .error _ => []

theorem claim_tells (before : e.account.Tells held []) (id : EntryId) (c : RetryCommand)
    (read : e.moment.Read now) : (e.claim id c now).1.moment.Read now ∧
      (e.claim id c now).1.account.Tells (heldFor (e.claim id c now).2 ++ held) [] := by
  let call : Queue.Call := .claim id c.actor c.note c.force now
  cases result : e.queue.claim id c.actor c.note c.force now with
  | mk queue answer =>
    cases answer with
    | error r =>
      have performs : Ledger.perform ⟨e.books, held⟩ call = ⟨{ e.books with queue }, held⟩ := by
        simp only [Ledger.perform, call, queue_books, result]
      have tells : e.queue.mutations call = [] := by simp only [Queue.mutations, call, result]
      simp only [Engine.claim, result, account_countRefusal]
      exact ⟨read, before.call performs tells trivial read.of_some⟩
    | ok taken =>
      have performs : Ledger.perform ⟨e.books, held⟩ call = ⟨{ e.books with queue }, taken :: held⟩ := by
        simp only [Ledger.perform, call, queue_books, result]
      have tells : e.queue.mutations call = taken.mutations := by simp only [Queue.mutations, call, result]
      simp only [Engine.claim, result, moment_recordMutations]
      exact ⟨read, recordMutations_tells (before.call performs tells trivial read.of_some)⟩

theorem release_tells {taken : Claim} (before : e.account.Tells [taken] []) (read : e.moment.Read now) :
    (e.release taken now).account.Tells [] [] := by
  let c : Queue.Call := .release taken now
  cases result : e.queue.release taken now with
  | mk queue m =>
    have performs : Ledger.perform ⟨e.books, [taken]⟩ c = ⟨{ e.books with queue }, [taken].erase taken⟩ := by
      simp only [Ledger.perform, c, queue_books, result]
    have tells : e.queue.mutations c = m.toList := by simp only [Queue.mutations, c, result]
    have called := (before.call performs tells (List.mem_singleton_self taken) read.of_some).forget
      (List.forall_mem_nil _)
    cases m with
    | none =>
      simp only [Engine.release, result]
      exact called
    | some m =>
      simp only [Engine.release, result]
      exact record_tells called

theorem attach_tells (before : e.account.Tells held []) (id : EntryId) (task : TaskId) :
    (e.attach id task).account.Tells held [] := by
  let c : Queue.Call := .attach id task
  cases result : e.queue.attach id task with
  | error r =>
    simp only [Engine.attach, result, account_countRefusal]
    exact before
  | ok queue =>
    have performs : Ledger.perform ⟨e.books, held⟩ c = ⟨{ e.books with queue }, held⟩ := by
      simp only [Ledger.perform, c, queue_books, result]
    simp only [Engine.attach, result]
    exact before.call (c := c) performs rfl trivial fun _ same => by cases same

theorem retry_tells (before : e.account.Tells [] []) (id : EntryId) (c : RetryCommand) :
    (e.retry id c).1.account.Tells [] [] := by
  obtain ⟨read, claimed⟩ := claim_tells (now_tells before) id c e.read_now
  cases claims : e.now.2.claim id c e.now.1 with
  | mk holding answer =>
    rw [claims] at read claimed
    cases answer with
    | error r =>
      simp only [retry, claims]
      exact claimed
    | ok taken =>
      let s : Submission := ⟨taken.entry.scope, c.actor, c.note, holding.link none, some id⟩
      cases creates : holding.create s e.now.1 with
      | mk between answer =>
        cases answer with
        | error r =>
          have same := create_refused creates
          have held : between.account.Tells [taken] [] := by rwa [same]
          have read_between : between.moment.Read e.now.1 := by
            rwa [show between.moment = holding.moment from congrArg Account.toMoment same]
          have result : e.retry id c = (between.release taken e.now.1, .error r) := by
            simp only [retry, claims]
            rw [show holding.create _ e.now.1 = (between, .error r) from creates]
          rw [result]
          exact release_tells held read_between
        | ok created =>
          let counted := (between.recordTransition created).mapMetrics fun m =>
            (m.increment (Metrics.submittedSeries true)).increment (Metrics.retriesSeries taken.entry.mode)
          have ready : counted.account.Tells [taken] [] := record_tells (create_tells claimed creates).2
          have dispatched := dispatch_tells (attach_tells ready id created.task.id) created.task
            taken.entry.attempts
          have result : (e.retry id c).1.account =
              ((counted.attach id created.task.id).dispatch created.task taken.entry.attempts).1.account := by
            simp only [retry, claims]
            rw [show holding.create _ e.now.1 = (between, .ok created) from creates]
            dsimp only
            split <;> simp [counted, *]
          rw [result]
          exact dispatched.forget (List.forall_mem_nil _)

/-! ### Operators -/

theorem remove_tells (before : e.account.Tells held []) (id : EntryId) (actor : Option String) :
    (e.remove id actor).1.account.Tells held [] := by
  let c : Queue.Call := .remove id actor e.now.1
  cases result : e.queue.remove id actor e.now.1 with
  | error r =>
    simp only [Engine.remove, queue_now, result, account_countRefusal]
    exact now_tells before
  | ok value =>
    obtain ⟨queue, m⟩ := value
    have performs : Ledger.perform ⟨e.books, held⟩ c = ⟨{ e.books with queue }, held⟩ := by
      simp only [Ledger.perform, c, queue_books, result]
    have tells : e.queue.mutations c = [m] := by simp only [Queue.mutations, c, result, Queue.toldOf]
    simp only [Engine.remove, queue_now, result, account_showQueueDepth]
    exact record_tells ((now_tells before).call performs tells trivial e.read_now.of_some)

theorem setRetryMode_tells (before : e.account.Tells held []) (id : EntryId) (mode : RetryMode)
    (actor : String) : (e.setRetryMode id mode actor).1.account.Tells held [] := by
  let c : Queue.Call := .setMode id mode actor e.now.1 e.nextDraw
  cases result : e.queue.setMode id mode actor e.now.1 e.nextDraw with
  | error r =>
    simp only [Engine.setRetryMode, queue_now, nextDraw_now, result, account_countRefusal]
    exact now_tells before
  | ok value =>
    obtain ⟨queue, m⟩ := value
    have performs : Ledger.perform ⟨e.books, held⟩ c = ⟨{ e.books with queue }, held⟩ := by
      simp only [Ledger.perform, c, queue_books, result]
    have tells : e.queue.mutations c = [m] := by simp only [Queue.mutations, c, result, Queue.toldOf]
    simp only [Engine.setRetryMode, queue_now, nextDraw_now, result]
    exact record_tells ((now_tells before).call performs tells trivial e.read_now.of_some)

/-! ### Scheduling -/

theorem timeOut_tells (before : e.account.Tells held []) (id : TaskId) :
    (e.timeOut id).1.account.Tells held [] := by
  have told := recordOutcome_tells before id .timeout
  unfold timeOut
  split <;> simpa [*] using told

theorem timeOutAll_tells (before : e.account.Tells held []) (ids : List TaskId) :
    (e.timeOutAll ids).1.account.Tells held [] := by
  induction ids generalizing e with
  | nil => exact before
  | cons id rest ih => exact ih (timeOut_tells before id)

theorem retryOne_tells (before : e.account.Tells [] []) (id : EntryId) :
    (e.retryOne id).1.account.Tells [] [] := by
  have told := retry_tells before id ⟨schedulerActor, none, false⟩
  unfold retryOne
  split <;> simpa [*] using told

theorem retryAll_tells (before : e.account.Tells [] []) (ids : List EntryId) :
    (e.retryAll ids).1.account.Tells [] [] := by
  induction ids generalizing e with
  | nil => exact before
  | cons id rest ih => exact ih (retryOne_tells before id)

theorem cleared_tells (before : e.account.Tells held []) : e.cleared.account.Tells held [] :=
  (now_tells before).call (c := .clearElapsed e.now.1) rfl rfl trivial e.read_now.of_some

theorem perform_tells (before : e.account.Tells [] []) (c : Call) : (e.perform c).account.Tells [] [] := by
  cases c with
  | submit c => exact submit_tells before c
  | retry id c => exact retry_tells before id c
  | recordOutcome id reported => exact recordOutcome_tells before id reported
  | remove id actor => exact remove_tells before id actor
  | setRetryMode id mode actor => exact setRetryMode_tells before id mode actor
  | runWatchdog => exact timeOutAll_tells (now_tells before) _
  | tick =>
    have swept : e.swept.account.Tells [] [] := timeOutAll_tells (now_tells (cleared_tells before)) _
    exact retryAll_tells (now_tells swept) e.due

/-! ### Runs -/

section
variable {config : Config} {audit : AuditLog} {disk : Disk} {runner : Runner} {supply : Supply}
  {notes : List Note}

theorem account_of_aside (beside : Aside e after) (clock : after.supply.clock = e.supply.clock) :
    after.account = { e.account with readings := after.supply.readings } := by
  have registry : after.registry = e.registry := congrArg Stores.registry beside.stores
  rw [account, moment_of_aside beside clock, beside.audit, registry]
  rfl

/-- After complete calls nothing is owed to the trail. -/
theorem Chronicle.balanced (run : Chronicle (.ofConfig config audit disk runner supply) notes e)
    (empty : audit.records = []) (complete : e.audit.evicted = 0) : e.account.Balanced [] [] := by
  induction run with
  | start =>
    have records : (Engine.ofConfig config audit disk runner supply).account.audit.records = [] := empty
    refine ⟨⟨⟨List.nodup_nil, List.forall_mem_nil _, .empty⟩, List.forall_mem_nil _, List.forall_mem_nil _⟩,
      rfl, ?_, ?_⟩
    · rw [records]
      rfl
    · rw [records]
      exact .empty _ config.policy config.retry.maxAttempts _
  | aside _ beside clock readings ih =>
    rw [account_of_aside beside clock]
    exact (ih (beside.audit ▸ complete)).wait readings
  | call c _ distinct ih => exact perform_tells (fun complete _ => ih complete) c complete distinct.2

/-- The audit trail reconstructs history and queue, as long as no record was let go. Its events are those
of the history, numbered from zero on. For every identifier its mutations begin with the creation of the
entry and end at the latest when the entry is gone, so that they tell whether it is there; and an entry
that is there is as its last mutation shows it, but for the task that it names and a cooldown that was
dropped after its end. -/
theorem audit_trail_reconstructs_history_and_queue
    (run : Chronicle (.ofConfig config audit disk runner supply) notes e) (empty : audit.records = [])
    (complete : e.audit.evicted = 0) :
    (e.audit.events = e.registry.history.events ∧
      e.audit.events.map (·.sequence) = List.range e.audit.events.length) ∧
    (∀ id,
      (∀ m, (mutationsOf id e.audit.mutations).head? = some m → m.kind = .created) ∧
      (∀ first m later, mutationsOf id e.audit.mutations = first ++ m :: later → m.kind.isFinal = true →
        later = []) ∧
      ((∃ q, e.queue.find? id = some q) ↔
        ∃ m, (mutationsOf id e.audit.mutations).getLast? = some m ∧ m.kind.isFinal = false)) ∧
    (∀ q ∈ e.queue.entries, ∃ m, (mutationsOf q.id e.audit.mutations).getLast? = some m ∧
      m.entry.Resembles e.moment.Past q) := by
  obtain ⟨sound, numbered, events, retold⟩ := run.balanced empty complete
  rw [List.append_nil] at events retold
  have events : e.audit.events = e.registry.history.events := events
  have retold : e.books.Retold e.moment.Past e.audit.mutations := retold
  refine ⟨⟨events, ?_⟩, fun id => ?_, fun q member => ?_⟩
  · rw [events]
    exact numbered
  · obtain ⟨shown, course, _⟩ := retold.course id
    exact ⟨fun m first => course.created_first first,
      fun _ _ _ parts final => course.final_last parts final, retold.there_iff id⟩
  · obtain ⟨shown, course, alike⟩ := retold.course_of_find? (sound.find?_of_mem member)
    obtain ⟨m, last, rfl, _⟩ := course.shown_last
    exact ⟨m, last, alike⟩

end

/-- An entry is handed over to an operator and retried, and is gone when its retry succeeds. A task that
fails afterwards opens another one. -/
theorem audit_trail_of_a_successful_retry :
    ∃ (audit : AuditLog) (supply : Supply) (notes : List Note) (e : Engine),
      Chronicle (.ofConfig .default audit .empty .parked supply) notes e ∧
      audit.records = [] ∧ e.audit.evicted = 0 ∧
      e.audit.mutations.map (·.kind) = [.created, .modeChanged, .claimed, .resolved, .created] ∧
      e.audit.events = e.registry.history.events ∧ e.queue.find? ⟨.ofNat 0⟩ = none ∧
      ∃ q ∈ e.queue.entries, q.id = ⟨.ofNat 1⟩ ∧
        ∃ m, (mutationsOf q.id e.audit.mutations).getLast? = some m ∧ m.entry.Resembles e.moment.Past q := by
  let supply : Supply :=
    ⟨fun _ => .epoch, fun n => ⟨.ofNat n⟩, fun n => ⟨.ofNat n⟩, fun _ => 0, 0, 0, 0, 0⟩
  let submitted := (Engine.ofConfig .default (.inMemory 100) .empty .parked supply).perform
    (.submit ⟨.all, "ops", none, none⟩)
  let failed := submitted.perform (.recordOutcome ⟨.ofNat 0⟩ (.failure "E1" none))
  let manual := failed.perform (.setRetryMode ⟨.ofNat 0⟩ .manual "ops")
  let retried := manual.perform (.retry ⟨.ofNat 0⟩ ⟨"ops", none, false⟩)
  let resolved := retried.perform (.recordOutcome ⟨.ofNat 1⟩ (.success .none))
  let resubmitted := resolved.perform (.submit ⟨.all, "ops", none, none⟩)
  let reopened := resubmitted.perform (.recordOutcome ⟨.ofNat 2⟩ (.failure "E2" none))
  have run : Chronicle (.ofConfig .default (.inMemory 100) .empty .parked supply) _ reopened :=
    (((((((Chronicle.start).call _ (by decide)).call _ (by decide)).call _ (by decide)).call _
      (by decide)).call _ (by decide +kernel)).call _ (by decide +kernel)).call _ (by decide +kernel)
  have complete : reopened.audit.evicted = 0 := by decide +kernel
  have kinds : reopened.audit.mutations.map (·.kind) =
      [.created, .modeChanged, .claimed, .resolved, .created] := by decide +kernel
  obtain ⟨⟨events, _⟩, _, shown⟩ := audit_trail_reconstructs_history_and_queue run rfl complete
  obtain ⟨q, member, id⟩ : ∃ q ∈ reopened.queue.entries, q.id = ⟨.ofNat 1⟩ := by decide +kernel
  have absent : reopened.queue.find? ⟨.ofNat 0⟩ = none := by decide +kernel
  exact ⟨_, supply, _, reopened, run, rfl, complete, kinds, events, absent, q, member, id, shown q member⟩

end Engine

end Reindexing
