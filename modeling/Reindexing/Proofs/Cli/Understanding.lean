import Reindexing.Proofs.Cli.Replies
import Reindexing.Proofs.Engine.Sizes

/-!
# What a client understands of a server

Everything that the server answers in a run reaches the client: data as the value
that belongs to the result of the engine, errors with their status, code, message
and time to wait. Errors may be made with any context, but those that the server
answers with have only texts in theirs. An error whose context is nested too deeply
would reach the client as a failure without a report.
-/
namespace Reindexing

open Json

/-! ### Errors of the server -/

/-- The context of an error consists of texts, and its time to wait is a word. -/
structure Error.IsPlain (e : Error) : Prop where
  context : ∀ field ∈ e.details.context, ∃ s, field.2 = Json.text s
  retryAfter : ∀ n, e.details.retryAfter = some n → n ≤ Word.max64

namespace Error

variable {e : Error}

theorem IsPlain.readable (plain : e.IsPlain) : e.IsReadable := by
  have flat : nestingFields e.details.context ≤ 0 := by
    refine nestingFields_le_iff.mpr fun field member => ?_
    obtain ⟨s, text⟩ := plain.context field member
    rw [text]
    exact Nat.le_refl 0
  refine ⟨readableFields_iff.mpr fun field member => ?_, ?_, plain.retryAfter⟩
  · obtain ⟨s, text⟩ := plain.context field member
    rw [text]
    trivial
  · simp only [nestingLimit]
    omega

theorem plain_of_empty (empty : e.details = .empty) : e.IsPlain := by
  constructor
  · rw [empty]
    exact List.forall_mem_nil _
  · rw [empty]
    exact nofun

/-- Another text leaves the context one of texts. -/
theorem texts_withContext {d : ErrorDetails} (texts : ∀ field ∈ d.context, ∃ s, field.2 = Json.text s)
    (key s : String) : ∀ field ∈ (d.withContext key (.text s)).context, ∃ s, field.2 = Json.text s := by
  intro field member
  rcases mem_putSorted member with rfl | old
  · exact ⟨s, rfl⟩
  · exact texts field old

theorem notEligible_plain (entry reason : String) {wait : Option Nat} (small : ∀ n, wait = some n → n ≤ Word.max64) :
    (notEligible entry reason wait).IsPlain :=
  ⟨texts_withContext (List.forall_mem_nil _) "reason" reason, small⟩

/-- The error of a refusal is plain unless it names a time that is too long for a word. -/
theorem ofRefusal_plain {r : Refusal}
    (small : ∀ entry wait, r = .notEligible entry (.coolingDown wait) → wait ≤ Word.max64) : (ofRefusal r).IsPlain := by
  have none : ∀ field ∈ ErrorDetails.empty.context, ∃ s, field.2 = Json.text s := List.forall_mem_nil _
  cases r with
  | taskNotFound | entryNotFound => exact ⟨none, nofun⟩
  | scopeBusy | outcomeRecorded => exact ⟨texts_withContext none _ _, nofun⟩
  | invalidTransition => exact ⟨texts_withContext (texts_withContext none _ _) _ _, nofun⟩
  | notEligible entry reason =>
    cases reason with
    | inFlight | exhausted => exact notEligible_plain _ _ nofun
    | coolingDown wait =>
      exact notEligible_plain _ _ fun n same => Option.some.inj same ▸ small entry wait rfl

theorem ofRefusal_plain_of_task {r : Refusal} (other : r.isOfEntry = false) : (ofRefusal r).IsPlain := by
  refine ofRefusal_plain fun entry wait same => ?_
  rw [same] at other
  cases other

end Error

/-! ### Actions -/

namespace Api

variable {α : Type} {e after : Engine} {response : Http.Response} {error : Error}

theorem map_ok {ε β : Type} {value : Except ε α} {f : α → β} {b : β} (success : value.map f = .ok b) :
    ∃ a, value = .ok a ∧ b = f a := by
  cases value with
  | ok a => exact ⟨a, rfl, (Except.ok.inj success).symm⟩
  | error => cases success

theorem bind_ok {ε β : Type} {value : Except ε α} {f : α → Except ε β} {b : β} (success : (value >>= f) = .ok b) :
    ∃ a, value = .ok a ∧ f a = .ok b := by
  cases value with
  | ok a => exact ⟨a, rfl, success⟩
  | error => cases success

/-- What is checked is wrong, or the action goes on with it. -/
theorem checked_cases {value : Except Error α} {act : α → Action} {result : Except Error Http.Response}
    (acts : checked value act e = (after, result)) :
    (∃ error, value = .error error ∧ result = .error error) ∨ ∃ a, value = .ok a ∧ act a e = (after, result) := by
  cases value with
  | ok a => exact .inr ⟨a, rfl, acts⟩
  | error error => exact .inl ⟨error, rfl, (Prod.mk.inj acts).2.symm⟩

theorem checked_ok {value : Except Error α} {act : α → Action}
    (success : checked value act e = (after, .ok response)) : ∃ a, value = .ok a ∧ act a e = (after, .ok response) := by
  rcases checked_cases success with ⟨_, _, wrong⟩ | goes_on
  · cases wrong
  · exact goes_on

theorem checked_error {value : Except Error α} {act : α → Action}
    (failure : checked value act e = (after, .error error)) :
    value = .error error ∨ ∃ a, value = .ok a ∧ act a e = (after, .error error) := by
  rcases checked_cases failure with ⟨_, wrong, same⟩ | goes_on
  · exact .inl (wrong.trans (congrArg Except.error (Except.error.inj same).symm))
  · exact .inr goes_on

theorem answered_ok {f : α → Http.Response} {result : Engine × Except Refusal α}
    (success : answered f result = (after, .ok response)) : ∃ a, result = (after, .ok a) ∧ response = f a := by
  obtain ⟨last, answer⟩ := result
  cases answer with
  | ok a =>
    cases success
    exact ⟨a, rfl, rfl⟩
  | error => cases success

theorem answered_error {f : α → Http.Response} {result : Engine × Except Refusal α}
    (failure : answered f result = (after, .error error)) : ∃ r, result = (after, .error r) ∧ error = .ofRefusal r := by
  obtain ⟨last, answer⟩ := result
  cases answer with
  | ok a => cases failure
  | error r =>
    cases failure
    exact ⟨r, rfl, rfl⟩

theorem readActor_error {actor : String} (failure : readActor actor = .error error) : error.IsPlain := by
  unfold readActor at failure
  dsimp only at failure
  split at failure
  · rw [← Except.error.inj failure]
    exact Error.plain_of_empty rfl
  · cases failure

theorem readStatuses_error {what : String} {ofText? : String → Option α} {list : Option String}
    (failure : readStatuses what ofText? list = .error error) : error.IsPlain := by
  unfold readStatuses at failure
  generalize (list.map Text.commaList).getD [] = names at failure
  induction names with
  | nil => cases failure
  | cons name rest ih =>
    rw [List.mapM_cons] at failure
    cases known : ofText? name with
    | none =>
      rw [known] at failure
      rw [← Except.error.inj failure]
      exact Error.plain_of_empty rfl
    | some status =>
      simp only [known, bind, Except.bind, pure, Except.pure] at failure
      split at failure
      · next wrong =>
        obtain rfl := Except.error.inj failure
        exact ih wrong
      · cases failure

theorem exportAudit_error (failure : e.exportAudit = (after, .error error)) : error.IsPlain := by
  have fault : e.audit.toExport e.disk = .error error := by
    unfold Engine.exportAudit at failure
    split at failure
    · cases failure
    · next reason => rw [reason, (Except.error.inj (Prod.mk.inj failure).2)]
  refine Error.plain_of_empty ?_
  have read (file : AuditFile) (disk : Disk)
      (failed : AuditLog.toExport.read e.audit file disk = .error error) : error.details = .empty := by
    unfold AuditLog.toExport.read at failed
    split at failed
    · rw [← Except.error.inj failed]
      rfl
    · cases failed
  unfold AuditLog.toExport at fault
  split at fault
  · cases fault
  · split at fault
    · split at fault
      · rw [← Except.error.inj fault]
        rfl
      · exact read _ _ fault
    · exact read _ _ fault

end Api

namespace Engine

variable {e after : Engine} {r : Refusal} {id : EntryId}

/-- A submission is never refused because of an entry. -/
theorem submit_refuses {c : SubmitCommand} (failure : e.submit c = (after, .error r)) : r.isOfEntry = false := by
  unfold submit at failure
  dsimp only at failure
  split at failure
  · next refused =>
    cases failure
    exact create_refuses refused
  · exact dispatch_refuses failure

/-! Nothing but an identifier that is not there keeps a call from being looked up, removed or changed. -/

theorem queueEntry_refuses (failure : (e.queueEntry id).2 = .error r) : r = .entryNotFound id := by
  rw [queueEntry, Queue.get_eq] at failure
  cases found : e.queue.find? id with
  | none =>
    rw [found] at failure
    exact (Except.error.inj failure).symm
  | some q =>
    rw [found] at failure
    cases failure

theorem remove_refuses {actor : Option String} (failure : (e.remove id actor).2 = .error r) :
    r = .entryNotFound id := by
  cases found : e.queue.find? id with
  | none =>
    simp only [remove, queue_now, Queue.remove_eq, found] at failure
    exact (Except.error.inj failure).symm
  | some q =>
    simp only [remove, queue_now, Queue.remove_eq, found] at failure
    cases failure

theorem setRetryMode_refuses {mode : RetryMode} {actor : String}
    (failure : (e.setRetryMode id mode actor).2 = .error r) : r = .entryNotFound id := by
  cases found : e.queue.find? id with
  | none =>
    simp only [setRetryMode, queue_now, Queue.setMode_eq, found] at failure
    exact (Except.error.inj failure).symm
  | some q =>
    simp only [setRetryMode, queue_now, Queue.setMode_eq, found] at failure
    cases failure

theorem taskHistory_refuses {task : TaskId} (failure : (e.taskHistory task).2 = .error r) :
    r = .taskNotFound task := by
  cases found : e.registry.grouped task with
  | none =>
    simp only [taskHistory, Registry.taskHistory, answer, found] at failure
    exact (Except.error.inj failure).symm
  | some h =>
    simp only [taskHistory, Registry.taskHistory, answer, found] at failure
    cases failure

end Engine

namespace Api

variable {α : Type} {e after : Engine} {error : Error}

theorem retry_error (sized : e.IsSized) {id : EntryId} {b : RetryBody}
    (failure : retry id b e = (after, .error error)) : error.IsPlain := by
  rcases checked_error failure with wrong | ⟨actor, _, acts⟩
  · exact readActor_error wrong
  · dsimp only at acts
    split at acts
    · next r refused =>
      rw [← Except.error.inj (Prod.mk.inj acts).2]
      refine Error.ofRefusal_plain fun entry wait same => ?_
      exact sized.wait_le (by rw [refused, same])
    · cases acts

/-- The answer to an identifier that is not there is plain. -/
theorem missing_error {f : α → Http.Response} {result : Engine × Except Refusal α}
    (failure : answered f result = (after, .error error))
    (missing : ∀ r, result.2 = .error r → (∃ id, r = .entryNotFound id) ∨ ∃ id, r = .taskNotFound id) :
    error.IsPlain := by
  obtain ⟨r, refused, rfl⟩ := answered_error failure
  rcases missing r (congrArg Prod.snd refused) with ⟨id, rfl⟩ | ⟨id, rfl⟩
  · exact Error.ofRefusal_plain nofun
  · exact Error.ofRefusal_plain nofun

theorem submit_error {b : SubmitBody} (failure : submit b e = (after, .error error)) : error.IsPlain := by
  rcases checked_error failure with wrong | ⟨scope, _, acts⟩
  · cases read : Scope.ofKeys b.scope.toKeys with
    | ok scope =>
      rw [read] at wrong
      cases wrong
    | error r =>
      rw [read] at wrong
      rw [← Except.error.inj wrong]
      exact Error.plain_of_empty rfl
  · rcases checked_error acts with wrong | ⟨actor, _, acts⟩
    · exact readActor_error wrong
    · obtain ⟨r, refused, rfl⟩ := answered_error acts
      exact Error.ofRefusal_plain_of_task (Engine.submit_refuses refused)

theorem setMode_error {id : EntryId} {b : ModeBody} (failure : setMode id b e = (after, .error error)) :
    error.IsPlain := by
  rcases checked_error failure with wrong | ⟨actor, _, acts⟩
  · exact readActor_error wrong
  · exact missing_error acts fun _ refused => .inl ⟨_, Engine.setRetryMode_refuses refused⟩

/-- The errors that the server answers with in a run are plain. -/
theorem Server.action_error {s : Server} {route : Route} {request : Http.Request} {act : Action}
    (sized : e.IsSized) (acts : s.action route request = .ok act) (failure : act e = (after, .error error)) :
    error.IsPlain := by
  cases route with
  | health | metrics =>
    cases acts
    cases failure
  | auditTrail =>
    cases acts
    unfold auditTrail at failure
    split at failure
    · cases failure
    · next reason =>
      obtain rfl := Except.error.inj (Prod.mk.inj failure).2
      exact exportAudit_error reason
  | submission =>
    obtain ⟨b, _, rfl⟩ := map_ok acts
    exact submit_error failure
  | history =>
    obtain ⟨query, _, rfl⟩ := map_ok acts
    rcases checked_error failure with wrong | ⟨statuses, _, shows_⟩
    · exact readStatuses_error wrong
    · cases shows_
  | task segment =>
    obtain ⟨id, _, rfl⟩ := map_ok acts
    exact missing_error failure fun _ refused => .inr ⟨_, Engine.taskHistory_refuses refused⟩
  | queue =>
    obtain ⟨query, _, rfl⟩ := map_ok acts
    rcases checked_error failure with wrong | ⟨statuses, _, shows_⟩
    · exact readStatuses_error wrong
    · cases shows_
  | entry segment =>
    obtain ⟨id, _, acts⟩ := bind_ok acts
    split at acts
    · obtain ⟨query, _, acts⟩ := bind_ok acts
      cases acts
      exact missing_error failure fun _ refused => .inl ⟨_, Engine.remove_refuses refused⟩
    · cases acts
      exact missing_error failure fun _ refused => .inl ⟨_, Engine.queueEntry_refuses refused⟩
  | retry segment =>
    obtain ⟨id, _, acts⟩ := bind_ok acts
    obtain ⟨b, _, acts⟩ := bind_ok acts
    obtain rfl := Except.ok.inj acts
    exact retry_error sized failure
  | mode segment =>
    obtain ⟨id, _, acts⟩ := bind_ok acts
    obtain ⟨b, _, acts⟩ := bind_ok acts
    obtain rfl := Except.ok.inj acts
    exact setMode_error failure

end Api

/-! ### Data of the server -/

namespace Cli

open Api

variable {e after : Engine} {reply : Http.Arrival} {response : Http.Response} {label : String}

/-- What the client makes of a reply of the server belongs to what the engine gave. -/
def Understood (e after : Engine) (request : Http.Request) (label : String) (reply : Http.Arrival) : Route → Prop
  | .submission => ∃ c t, e.submit c = (after, .ok t) ∧
      Client.dataOf submitAnswer.read label reply = .ok (SubmitAnswer.of t)
  | .history => ∃ query statuses, readQuery listNames request = .ok query ∧
      readStatuses "task status" TaskStatus.ofText? (query "status") = .ok statuses ∧
      Client.dataOf (Wire.list historyAnswer).read label reply =
        .ok ((e.listHistory ⟨statuses, query "q"⟩).map HistoryAnswer.of)
  | .task segment => ∃ id h, readId segment = .ok id ∧ e.taskHistory ⟨id⟩ = (after, .ok h) ∧
      Client.dataOf historyAnswer.read label reply = .ok (HistoryAnswer.of h)
  | .queue => ∃ query statuses, readQuery listNames request = .ok query ∧
      readStatuses "queue status" QueueStatus.ofText? (query "status") = .ok statuses ∧
      Client.dataOf (Wire.list entryAnswer).read label reply =
        .ok ((e.listQueue ⟨statuses, query "q"⟩).2.map EntryAnswer.of)
  | .entry segment => request.method ≠ "DELETE" →
      ∃ id v, readId segment = .ok id ∧ e.queueEntry ⟨id⟩ = (after, .ok v) ∧
        Client.dataOf entryAnswer.read label reply = .ok (EntryAnswer.of v)
  | .retry segment => ∃ id c retried entry, readId segment = .ok id ∧ e.retry ⟨id⟩ c = (retried, .ok entry) ∧
      after = retried.now.2 ∧
      Client.dataOf entryAnswer.read label reply = .ok (EntryAnswer.of (entry.view retried.now.1))
  | .mode segment => ∃ id mode actor v, readId segment = .ok id ∧
      e.setRetryMode ⟨id⟩ mode actor = (after, .ok v) ∧
      Client.dataOf entryAnswer.read label reply = .ok (EntryAnswer.of v)
  | .health | .metrics | .auditTrail => True

theorem listQueue_conveys (sized : e.IsSized) (filter : QueueFilter) :
    ((Wire.list Wire.view).write (e.listQueue filter).2).Conveys 3 (Wire.list entryAnswer).read
      ((e.listQueue filter).2.map EntryAnswer.of) := by
  obtain ⟨now, entries, views, small⟩ := sized.listQueue filter
  have each := conveys_list fun q listed => view_conveys (small q listed) now
  rw [views, List.map_map]
  change (Json.list ((entries.map (·.view now)).map Wire.view.write)).Conveys 3 _ _
  rw [List.map_map]
  exact each

theorem action_understood {s : Server} {route : Route} {request : Http.Request} {act : Action} (sized : e.IsSized)
    (acts : s.action route request = .ok act) (success : act e = (after, .ok response))
    (brings : reply.Brings response) : Understood e after request label reply route := by
  cases route with
  | health | metrics | auditTrail => trivial
  | submission =>
    obtain ⟨b, _, rfl⟩ := map_ok acts
    obtain ⟨scope, _, success⟩ := checked_ok success
    obtain ⟨actor, _, success⟩ := checked_ok success
    obtain ⟨t, submitted, rfl⟩ := answered_ok success
    exact ⟨_, t, submitted, dataOf_of_conveys (submitted_conveys t) (by decide) brings label⟩
  | history =>
    obtain ⟨query, read, rfl⟩ := map_ok acts
    obtain ⟨statuses, known, success⟩ := checked_ok success
    cases success
    have each := conveys_list fun h listed => history_conveys (sized.listHistory ⟨statuses, query "q"⟩ h listed)
    exact ⟨query, statuses, read, known, dataOf_of_conveys each (by decide) brings label⟩
  | task segment =>
    obtain ⟨id, read, rfl⟩ := map_ok acts
    obtain ⟨h, found, rfl⟩ := answered_ok success
    have conveys := history_conveys (sized.taskHistory (congrArg Prod.snd found))
    exact ⟨id, h, read, found, dataOf_of_conveys conveys (by decide) brings label⟩
  | queue =>
    obtain ⟨query, read, rfl⟩ := map_ok acts
    obtain ⟨statuses, known, success⟩ := checked_ok success
    cases success
    have conveys := listQueue_conveys sized ⟨statuses, query "q"⟩
    exact ⟨query, statuses, read, known, dataOf_of_conveys conveys (by decide) brings label⟩
  | entry segment =>
    intro shown
    obtain ⟨id, read, acts⟩ := bind_ok acts
    rw [if_neg shown] at acts
    cases acts
    obtain ⟨v, found, rfl⟩ := answered_ok success
    obtain ⟨now, entry, rfl, small⟩ := sized.queueEntry (congrArg Prod.snd found)
    exact ⟨id, _, read, found, dataOf_of_conveys (view_conveys small now) (by decide) brings label⟩
  | retry segment =>
    obtain ⟨id, read, acts⟩ := bind_ok acts
    obtain ⟨b, _, acts⟩ := bind_ok acts
    obtain rfl := Except.ok.inj acts
    obtain ⟨actor, _, success⟩ := checked_ok success
    dsimp only at success
    split at success
    · cases success
    · next retried entry done =>
      cases success
      have small := sized.retry (congrArg Prod.snd done)
      exact ⟨id, _, retried, entry, read, done, rfl,
        dataOf_of_conveys (view_conveys small retried.now.1) (by decide) brings label⟩
  | mode segment =>
    obtain ⟨id, read, acts⟩ := bind_ok acts
    obtain ⟨b, _, acts⟩ := bind_ok acts
    obtain rfl := Except.ok.inj acts
    obtain ⟨actor, _, success⟩ := checked_ok success
    obtain ⟨v, changed, rfl⟩ := answered_ok success
    obtain ⟨now, entry, rfl, small⟩ := sized.setRetryMode (congrArg Prod.snd changed)
    exact ⟨id, b.mode, actor, _, read, changed, dataOf_of_conveys (view_conveys small now) (by decide) brings label⟩

/-! ### Everything -/

/-- A list inside so many lists. -/
def nestedList : Nat → Json
  | 0 => .list []
  | depth + 1 => .list [nestedList depth]

theorem nestedList_readable (depth : Nat) : (nestedList depth).Readable := by
  induction depth with
  | zero => trivial
  | succ depth ih => exact ⟨ih, trivial⟩

/-- An error that names a time to wait, and has lists inside lists in its context. -/
def nestedError (depth : Nat) : Error :=
  { Error.new .notEligible "cooling down" with
    details := { ErrorDetails.empty with context := [("trail", nestedList depth)], retryAfter := some 42 } }

/-- In every run whose clock shows times that can be written, the client understands what the server
answers. It decodes all data as the values that belong to the results of the engine, and labels every
scope as the server does. Of every error whose context is not nested too deeply it gets status, code,
message and the time to wait; and all errors that the server answers with are of that kind. -/
theorem client_understands_the_server {config : Config} {audit : AuditLog} {disk : Disk} {runner : Runner}
    {supply : Supply} {notes : List Note} (run : Engine.Chronicle (.ofConfig config audit disk runner supply) notes e)
    (readable : ∀ n, (supply.clock n).Expressible) (budget : config.retry.maxAttempts ≤ Word.max32)
    (counted : e.registry.history.events.length ≤ Word.max64) :
    (∀ (s : Server) (route : Route) (request : Http.Request) (act : Action) (after : Engine)
      (response : Http.Response) (reply : Http.Arrival) (label : String), s.action route request = .ok act →
      act e = (after, .ok response) → reply.Brings response → Understood e after request label reply route) ∧
    (∀ scope : Scope, scopeLabel (Wire.scopeToJson scope) = scope.label) ∧
    (∀ (error : Error) (timestamp : String) (reply : Http.Arrival), error.IsReadable →
      reply.Brings (.json error.code.httpStatus (Wire.errorEnvelope error timestamp)) →
      ∃ answer, Client.faultOf reply = .rejected error.code.httpStatus answer ∧ answer.code = error.code.name ∧
        answer.message = error.user ∧ answer.retryAfter = error.details.retryAfter) ∧
    (∀ (s : Server) (route : Route) (request : Http.Request) (act : Action) (after : Engine) (error : Error),
      s.action route request = .ok act → act e = (after, .error error) → error.IsReadable) := by
  have sized := run.sized readable budget counted
  refine ⟨?_, scopeLabel_scope, ?_, ?_⟩
  · intro s route request act after response reply label acts success brings
    exact action_understood sized acts success brings
  · intro error timestamp reply readable brings
    exact ⟨ErrorAnswer.of error, faultOf_of_error readable brings, rfl, rfl, retryAfter_of readable.retryAfter⟩
  · intro s route request act after error acts failure
    exact (Server.action_error sized acts failure).readable

/-- A task has failed, and its entry is listed. An error is reported whose context is as deep as it may be. -/
theorem client_understands_a_failed_task :
    ∃ (e : Engine) (entries : List EntryAnswer) (error : Error) (answer : ErrorAnswer),
      e.queue.entries.length = 1 ∧
      Client.dataOf (Wire.list entryAnswer).read "GET /reindex/queue"
        (.ofJson 200 (Wire.dataEnvelope ((Wire.list Wire.view).write (e.listQueue .any).2))) = .ok entries ∧
      entries.map (fun v => (v.status, v.attempts, v.lastError)) = [("queued", 0, some "E")] ∧
      entries.map (fun v => (v.mode, v.maxAttempts, scopeLabel v.scope)) = [("auto", 3, "a,b")] ∧
      nestingFields error.details.context = 123 ∧
      Client.faultOf (.ofJson 409 (Wire.errorEnvelope error "2026-01-01T00:00:00Z")) = .rejected 409 answer ∧
      answer.code = "NOT_ELIGIBLE" ∧ answer.retryAfter = some 42 := by
  let supply : Supply :=
    ⟨fun _ => ⟨0, 0⟩, fun n => ⟨.ofNat n⟩, fun n => ⟨.ofNat n⟩, fun _ => 0, 0, 0, 0, 0⟩
  let start := Engine.ofConfig .default (.inMemory 100) .empty .parked supply
  let submitted := start.perform (.submit ⟨.sources ["a", "b"], "ops", none, none⟩)
  let failed := submitted.perform (.recordOutcome ⟨.ofNat 0⟩ (.failure "E" none))
  have run : Engine.Chronicle start _ failed :=
    .call (.recordOutcome ⟨.ofNat 0⟩ (.failure "E" none))
      (.call (.submit ⟨.sources ["a", "b"], "ops", none, none⟩) .start (by decide +kernel)) (by decide +kernel)
  have readable (n : Nat) : (supply.clock n).Expressible := (by decide : (⟨0, 0⟩ : Instant).Expressible)
  have counted : failed.registry.history.events.length ≤ Word.max64 := by decide +kernel
  obtain ⟨data, _, errors, _⟩ := client_understands_the_server run readable (by decide) counted
  have listed : Understood failed _ ⟨"GET", "/reindex/queue", none, [], ""⟩ "GET /reindex/queue" _ .queue :=
    data ⟨none, "", ""⟩ .queue _ _ _ _ _ _ rfl rfl (Http.Arrival.ofJson_brings _ _)
  obtain ⟨query, statuses, asked, known, read⟩ := listed
  obtain rfl := Except.ok.inj asked
  obtain rfl := Except.ok.inj known
  have shallow : (nestedError 122).IsReadable :=
    ⟨⟨nestedList_readable 122, trivial⟩, by decide +kernel, fun n same => Option.some.inj same ▸ by decide⟩
  obtain ⟨answer, rejected, code, _, wait⟩ :=
    errors (nestedError 122) "2026-01-01T00:00:00Z" _ shallow (Http.Arrival.ofJson_brings _ _)
  exact ⟨failed, _, nestedError 122, answer, by decide +kernel, read, by decide +kernel, by decide +kernel,
    by decide +kernel, rejected, code, wait⟩

/-- With one list more than the client can read, the report is lost, and the time to wait with it. -/
theorem report_lost_in_deep_context :
    ∃ (error : Error) (timestamp : String) (reply : Http.Arrival),
      nestingFields error.details.context = 124 ∧ error.details.retryAfter = some 42 ∧
      reply.Brings (.json error.code.httpStatus (Wire.errorEnvelope error timestamp)) ∧
      Client.faultOf reply = .unexpected 409 (Wire.errorEnvelope error timestamp).compact ∧
      ∀ answer, Client.faultOf reply ≠ .rejected error.code.httpStatus answer := by
  let time := "2026-01-01T00:00:00Z"
  have brings := Http.Arrival.ofJson_brings 409 (Wire.errorEnvelope (nestedError 123) time)
  have context : ReadableFields (nestedError 123).details.context := ⟨nestedList_readable 123, trivial⟩
  have wait (n : Nat) (same : (nestedError 123).details.retryAfter = some n) : n ≤ Word.max64 := by
    rw [← Option.some.inj same]
    decide
  have fault := faultOf_of_deep_error context wait (by decide +kernel) brings
  refine ⟨nestedError 123, time, _, by decide +kernel, rfl, brings, fault, fun answer rejected => ?_⟩
  rw [fault] at rejected
  cases rejected

end Cli
end Reindexing
