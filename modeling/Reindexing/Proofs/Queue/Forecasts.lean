import Reindexing.Error
import Reindexing.Proofs.Queue.Bounds

/-!
# What the retry state foretells

Operators see the retry state of an entry, and decide by it whether to claim the
entry and whether to force the claim. The state is found without a claim, which
looks at mode, attempts and cooldown in another order and drops an ended cooldown
before. What the state foretells comes true all the same, and a claim that is
refused leaves the queue as it was.
-/
namespace Reindexing

namespace QueueEntry

variable {e : QueueEntry} {now : Instant}

/-- What a retry state says of an entry. -/
inductive IsIn (e : QueueEntry) (now : Instant) : RetryState → Prop where
  | inFlight : e.status = .running → IsIn e now .inFlight
  | manual : e.status ≠ .running → e.mode = .manual → IsIn e now .manual
  | autoExhausted : e.status ≠ .running → e.isAutoExhausted = true → IsIn e now .autoExhausted
  | eligible : e.mode = .auto → e.isEligible now = true → IsIn e now .eligible
  | coolingDown {ending : Instant} : e.CoolsDown ending now → IsIn e now .coolingDown

theorem isIn_retryState (e : QueueEntry) (now : Instant) : e.IsIn now (e.retryState now) := by
  unfold retryState
  split
  · next running => exact .inFlight running
  · next idle =>
    split
    · next manual => exact .manual idle manual
    · next not_manual =>
      split
      · next exhausted => exact .autoExhausted idle exhausted
      · next spared =>
        split
        · next ready =>
          cases mode : e.mode with
          | auto => exact .eligible mode ready
          | manual => exact absurd mode not_manual
        · next refused =>
          -- Why the entry is not eligible was asked before, except for the cooldown.
          rcases e.cases_of_idle idle now with ready | exhausted | ⟨ending, cools⟩
          · exact absurd ready refused
          · exact absurd exhausted spared
          · exact .coolingDown cools

theorem IsIn.isEligible_iff {state : RetryState} (shown : e.IsIn now state) :
    e.isEligible now = true ↔ state = .eligible ∨ state = .manual := by
  cases shown with
  | inFlight running => simp [isEligible, running]
  | manual idle manual => simp [isEligible, idle, manual]
  | autoExhausted _ exhausted => simp [not_isEligible_of_exhausted exhausted]
  | eligible _ ready => simp [ready]
  | coolingDown cools => simp [cools.not_isEligible]

end QueueEntry

namespace Queue

/-- Every claim of the entry succeeds; the entry is in this mode then, and the claim tells of these
changes. -/
def Grants (q : Queue) (e : QueueEntry) (force : Bool) (now : Instant) (mode : RetryMode)
    (kinds : List MutationKind) : Prop :=
  ∀ actor note, ∃ taken, q.claim e.id actor note force now = (q.replace taken.entry, .ok taken) ∧
    taken.entry.mode = mode ∧ taken.mutations.map (·.kind) = kinds

/-- Every claim of the entry is refused for this reason, and clients are told to wait so long. -/
def Denies (q : Queue) (e : QueueEntry) (force : Bool) (now : Instant) (reason : Ineligibility)
    (retryAfter : Option Nat) : Prop :=
  (∀ actor note, q.claim e.id actor note force now = (q, .error (.notEligible e.id reason))) ∧
    (Error.ofRefusal (.notEligible e.id reason)).details.retryAfter = retryAfter

/-- What a retry state foretells of claims of the entry. -/
def Foretells (q : Queue) (e : QueueEntry) (now : Instant) : RetryState → Prop
  | .inFlight => ∀ force, q.Denies e force now .inFlight none
  | .eligible => q.Grants e false now .auto [.claimed]
  | .manual => q.Grants e false now .manual [.claimed]
  | .coolingDown =>
    (∃ wait, q.Denies e false now (.coolingDown wait) (some wait)) ∧ q.Grants e true now .auto [.claimed]
  | .autoExhausted =>
    q.Denies e false now .exhausted none ∧ q.Grants e true now .manual [.modeChanged, .claimed]

variable {q : Queue} {e : QueueEntry} {force : Bool} {now : Instant}

/-- A claim that succeeds leaves the mode alone, unless the automatic attempts are used up. -/
theorem grants_spared (found : q.find? e.id = some e) (idle : e.status ≠ .running)
    (allowed : (e.isEligible now || force) = true) (spared : e.isAutoExhausted = false) :
    q.Grants e force now e.mode [.claimed] := by
  intro actor note
  refine ⟨claimOf e actor note now, ?_, ?_, ?_⟩
  · rw [claim_of_idle found idle, if_pos allowed]
  · change (e.takenUp now).mode = e.mode
    rw [e.mode_takenUp, spared, if_neg Bool.false_ne_true]
  · simp [claimOf, spared]

theorem grants_exhausted (found : q.find? e.id = some e) (idle : e.status ≠ .running)
    (exhausted : e.isAutoExhausted = true) : q.Grants e true now .manual [.modeChanged, .claimed] := by
  intro actor note
  refine ⟨claimOf e actor note now, ?_, ?_, ?_⟩
  · rw [claim_of_idle found idle, Bool.or_true, if_pos rfl]
  · change (e.takenUp now).mode = .manual
    rw [e.mode_takenUp, exhausted, if_pos rfl]
  · simp [claimOf, exhausted]

theorem claim_denied (unique : (q.entries.map (·.id)).Nodup) {budget : Nat}
    (regular : ∀ e ∈ q.entries, e.Regular budget) (member : e ∈ q.entries) (idle : e.status ≠ .running)
    (refused : e.isEligible now = false) (actor : String) (note : Option String) :
    q.claim e.id actor note false now =
      (q, .error (.notEligible e.id (reasonAgainst (e.clearElapsed now) now))) := by
  have denied : q.claim e.id actor note false now = (q.replace (e.clearElapsed now),
      .error (.notEligible e.id (reasonAgainst (e.clearElapsed now) now))) := by
    rw [claim_of_idle (Keyed.find?_of_mem unique member) idle, refused, Bool.or_false,
      if_neg Bool.false_ne_true]
  rw [denied, claim_refused unique regular denied]

theorem foretells_of_isIn (unique : (q.entries.map (·.id)).Nodup) {budget : Nat}
    (regular : ∀ e ∈ q.entries, e.Regular budget) (member : e ∈ q.entries) {state : RetryState}
    (shown : e.IsIn now state) : q.Foretells e now state := by
  have found : q.find? e.id = some e := Keyed.find?_of_mem unique member
  cases shown with
  | inFlight running => exact fun force => ⟨fun actor note => claim_of_running found running, rfl⟩
  | manual idle manual =>
    have allowed : (e.isEligible now || false) = true := by simp [QueueEntry.isEligible, idle, manual]
    have spared : e.isAutoExhausted = false := by simp [QueueEntry.isAutoExhausted, manual]
    have grants := grants_spared found idle allowed spared
    rw [manual] at grants
    exact grants
  | autoExhausted idle exhausted =>
    have refused : e.isEligible now = false := QueueEntry.not_isEligible_of_exhausted exhausted
    refine ⟨⟨fun actor note => ?_, rfl⟩, grants_exhausted found idle exhausted⟩
    rw [claim_denied unique regular member idle refused, reasonAgainst_of_exhausted exhausted]
  | eligible auto ready =>
    have allowed : (e.isEligible now || false) = true := by rw [ready, Bool.true_or]
    have grants := grants_spared found (QueueEntry.idle_of_isEligible ready) allowed
      (QueueEntry.isAutoExhausted_of_isEligible ready)
    rw [auto] at grants
    exact grants
  | @coolingDown ending cools =>
    have grants := grants_spared found cools.idle (Bool.or_true (e.isEligible now)) cools.not_isAutoExhausted
    rw [cools.auto] at grants
    refine ⟨⟨waitSeconds ending now, fun actor note => ?_, rfl⟩, grants⟩
    rw [claim_denied unique regular member cools.idle cools.not_isEligible, reasonAgainst_of_coolsDown cools]

end Queue

namespace Ledger

variable {policy : CooldownPolicy} {maxAttempts : Nat} {calls : List Queue.Call} {claims : List Claim}
  {l : Ledger}

/-- Attempts are counted in words. -/
theorem Wanders.counted (run : Wanders (start policy maxAttempts) calls claims l) :
    Bounded policy (max maxAttempts 1) (fun e => e.attempts ≤ Word.max32) claims l := by
  induction run with
  | refl => exact bounded_start policy maxAttempts _
  | @call calls claims l c _ listed ih =>
    refine ih.perform ?_ ?_ fun failed mode now fresh draw _ => Nat.zero_le _
    · intro e counted next told revises _
      cases revises with
      | failed | retryFailed | attached => exact counted
      | @modeSet _ mode =>
        change (if mode = .auto then min e.attempts e.maxAttempts else e.attempts) ≤ Word.max32
        split
        · exact Nat.le_trans (Nat.min_le_left _ _) counted
        · exact counted
      | claimed takes => exact takes.attempts ▸ Nat.min_le_right _ _
      | @refused _ _ _ _ now => exact (e.attempts_clearElapsed now).symm ▸ counted
      | @released taken => exact ih.claims taken (List.mem_append_right _ listed)
    · intro e counted now _
      exact (e.attempts_clearElapsed now).symm ▸ counted

/-- The retry state that operators see of an entry foretells what becomes of a claim, whoever makes it.
The flag beside it says whether a claim needs no force. A claim that succeeds counts one attempt, as
long as there are words for it. -/
theorem retry_state_foretells_claims (run : Leads (start policy maxAttempts) calls l) :
    ∀ e ∈ l.queue.entries, ∀ now,
      l.queue.Foretells e now (e.view now).state ∧
      ((e.view now).eligible = true ↔ (e.view now).state = .eligible ∨ (e.view now).state = .manual) ∧
      e.attempts ≤ Word.max32 ∧
      ∀ actor note force after taken, l.queue.claim e.id actor note force now = (after, .ok taken) →
        after.find? e.id = some taken.entry ∧
        taken.entry.attempts = if e.attempts = Word.max32 then Word.max32 else e.attempts + 1 := by
  intro e member now
  have sound := run.sound (sound_start policy maxAttempts)
  obtain ⟨claims, wanders, _⟩ := run.wanders
  have counted : e.attempts ≤ Word.max32 := wanders.counted.entries e member
  have shown := e.isIn_retryState now
  refine ⟨Queue.foretells_of_isIn sound.unique_ids wanders.regular.entries member shown,
    shown.isEligible_iff, counted, ?_⟩
  intro actor note force after taken success
  obtain ⟨other, found, rfl, _, takes⟩ := Queue.claim_takes success
  obtain rfl : e = other := Option.some.inj ((sound.find?_of_mem member).symm.trans found)
  refine ⟨Queue.find?_replace found (congrArg Standing.id takes.standing), ?_⟩
  rw [takes.attempts]
  split <;> omega

/-- The one attempt that the budget allows is used up: only force helps, and takes the entry from the
scheduler. -/
theorem forecast_of_an_exhausted_entry :
    ∃ (calls : List Queue.Call) (l : Ledger), Leads (start (.ofSpans .zero .zero) 1) calls l ∧
      ∃ e ∈ l.queue.entries, (e.view .epoch).state = .autoExhausted ∧ (e.view .epoch).eligible = false ∧
        l.queue.Denies e false .epoch .exhausted none ∧
        l.queue.Grants e true .epoch .manual [.modeChanged, .claimed] := by
  let failed (n : Nat) : Task := { Task.create ⟨.ofNat n⟩ .all "ops" .epoch with status := .failed }
  let create : Queue.Call := .enqueue (failed 1) .auto .epoch ⟨.ofNat 1⟩ 0
  let claim : Queue.Call := .claim ⟨.ofNat 1⟩ "ops" none false .epoch
  let fail : Queue.Call := .recordRetryFailure ⟨.ofNat 1⟩ (failed 2) .epoch 0
  let last := (((start (.ofSpans .zero .zero) 1).perform create).perform claim).perform fail
  have run : Leads (start (.ofSpans .zero .zero) 1) [create, claim, fail] last :=
    ((Leads.refl.call create (by decide)).call claim trivial).call fail trivial
  obtain ⟨e, member, state⟩ : ∃ e ∈ last.queue.entries, (e.view .epoch).state = .autoExhausted := by
    decide +kernel
  obtain ⟨foretells, flag, _⟩ := retry_state_foretells_claims run e member .epoch
  rw [state] at foretells flag
  refine ⟨_, last, run, e, member, state, ?_, foretells⟩
  rw [← Bool.not_eq_true, flag]
  decide

end Ledger

end Reindexing
