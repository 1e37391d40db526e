import Reindexing.Proofs.Cooldown
import Reindexing.Proofs.Engine.Passages

/-!
# Cooldowns are kept

An automatic retry starts no earlier than the cooldown without jitter allows,
counted from the latest failure that was noted of its entry. The cooldown of an
entry is dropped once it has ended and is not set by a mode switch that comes too
late, so that no cooldown may mean that there never was one as well as that it is
over. What every change preserves is therefore about the future alone: an entry
that is eligible from now on has waited long enough.
-/
namespace Reindexing

/-- The latest failure that is noted of an entry. -/
structure IsLatestFailure (notes : List Note) (id : EntryId) (failure : Instant) : Prop where
  noted : .failure id failure ∈ notes
  latest : ∀ time, .failure id time ∈ notes → time ≤ failure

/-- The automatic retry did not start before the cooldown after the latest failure of its entry ended. -/
def Attempt.KeepsCooldown (policy : CooldownPolicy) (earlier : List Note) (a : Attempt) : Prop :=
  ∃ failure, IsLatestFailure earlier a.before.id failure ∧
    policy.plainCooldownUntil a.before.attempts failure ≤ a.time

/-- Every automatic retry without force keeps the cooldown of its entry. -/
def KeepsCooldowns (policy : CooldownPolicy) (notes : List Note) : Prop :=
  ∀ earlier a later, notes = earlier ++ .retried a :: later → a.force = false → a.before.mode = .auto →
    a.KeepsCooldown policy earlier

section
variable {policy : CooldownPolicy} {notes new : List Note} {id : EntryId} {failure now : Instant}

/-- What is noted of other entries does not matter. -/
theorem IsLatestFailure.append (before : IsLatestFailure notes id failure)
    (others : ∀ time, .failure id time ∉ new) : IsLatestFailure (notes ++ new) id failure where
  noted := List.mem_append_left _ before.noted
  latest time noted := before.latest time ((List.mem_append.mp noted).resolve_right (others time))

theorem IsLatestFailure.snoc (past : ∀ time, .failure id time ∈ notes → time ≤ now) :
    IsLatestFailure (notes ++ [.failure id now]) id now where
  noted := List.mem_append_right _ (List.mem_singleton_self _)
  latest time noted := by
    rcases List.mem_append.mp noted with old | new
    · exact past time old
    · cases List.mem_singleton.mp new
      exact Instant.le_refl now

theorem KeepsCooldowns.snoc {n : Note} (before : KeepsCooldowns policy notes)
    (kept : ∀ a, n = .retried a → a.force = false → a.before.mode = .auto → a.KeepsCooldown policy notes) :
    KeepsCooldowns policy (notes ++ [n]) := by
  intro earlier a later split unforced auto
  rcases List.eq_nil_or_concat later with rfl | ⟨rest, last, rfl⟩
  · obtain ⟨rfl, same⟩ := List.append_inj' split rfl
    exact kept a (List.cons.inj same).1 unforced auto
  · rw [List.concat_eq_append, ← List.cons_append, ← List.append_assoc] at split
    exact before earlier a rest (List.append_inj' split rfl).1 unforced auto

end

/-! ### One entry -/

namespace QueueEntry

/-- While no retry of it runs, an entry remembers the time of its latest failure; and from `since` on
it may be retried automatically only after the cooldown from that failure. -/
structure WaitsFrom (e : QueueEntry) (policy : CooldownPolicy) (failure since : Instant) : Prop where
  remembers : e.status ≠ .running → e.lastAttemptAt = some failure
  waits : ∀ time, since ≤ time → e.mode = .auto → e.isEligible time = true →
    policy.plainCooldownUntil e.attempts failure ≤ time

/-- An entry waits from its latest failure. -/
def IsPatient (e : QueueEntry) (policy : CooldownPolicy) (notes : List Note) (since : Instant) : Prop :=
  ∃ failure, IsLatestFailure notes e.id failure ∧ failure.Representable ∧ e.WaitsFrom policy failure since

variable {q : Queue} {e : QueueEntry} {policy : CooldownPolicy} {failure now since later : Instant}

theorem IsPatient.mono {notes : List Note} (before : e.IsPatient policy notes since) (le : since ≤ later) :
    e.IsPatient policy notes later := by
  obtain ⟨failure, latest, readable, waiting⟩ := before
  exact ⟨failure, latest, readable, waiting.remembers,
    fun time from_later => waiting.waits time (Instant.le_trans le from_later)⟩

/-- Running entries are not eligible, so that nothing is asked of them. -/
theorem WaitsFrom.of_running (running : e.status = .running) : e.WaitsFrom policy failure since where
  remembers idle := absurd running idle
  waits _ _ auto ready := absurd running ((isEligible_auto auto).mp ready).1

/-- An entry waits if its cooldown starts at its latest failure, and has been left out only if it is
over. -/
theorem WaitsFrom.of_cooldown (draw : Nat) (readable : failure.Representable)
    (attempted : e.lastAttemptAt = some failure)
    (cooldown : ∀ ending, q.cooldownAfter e failure draw = some ending →
      e.cooldownUntil = some ending ∨ ending ≤ since) : e.WaitsFrom q.policy failure since where
  remembers _ := attempted
  waits time from_since auto ready := by
    obtain ⟨_, left, ended⟩ := (isEligible_auto auto).mp ready
    refine Instant.le_trans (CooldownPolicy.plainCooldownUntil_le readable e.attempts draw) ?_
    rcases cooldown _ (if_pos ⟨auto, left⟩) with kept | past
    · exact ended _ kept
    · exact Instant.le_trans past from_since

/-- That a cooldown is dropped once it has ended changes nothing. -/
theorem WaitsFrom.clearElapsed (before : e.WaitsFrom policy failure now) :
    (e.clearElapsed now).WaitsFrom policy failure now := by
  constructor
  · intro idle
    rw [status_clearElapsed] at idle
    rw [lastAttemptAt_clearElapsed]
    exact before.remembers idle
  · intro time from_now auto ready
    rw [mode_clearElapsed] at auto
    rw [isEligible_clearElapsed from_now] at ready
    rw [attempts_clearElapsed]
    exact before.waits time from_now auto ready

/-- A failure starts a cooldown, unless a retry is running that will start one. -/
theorem WaitsFrom.repeatedFailure (readable : now.Representable) (e : QueueEntry) (failed : Task)
    (draw : Nat) : (q.repeatedFailure e failed now draw).WaitsFrom q.policy now now := by
  by_cases running : e.status = .running
  · exact .of_running running
  · refine .of_cooldown draw readable rfl fun ending starts => .inl ?_
    exact (if_neg running).trans starts

/-- A mode switch starts the cooldown again where it stood. -/
theorem WaitsFrom.withMode (before : e.WaitsFrom policy failure now) (readable : failure.Representable)
    (mode : RetryMode) (draw : Nat) : (q.withMode e mode now draw).WaitsFrom q.policy failure now := by
  by_cases running : e.status = .running
  · exact .of_running running
  · have attempted := before.remembers running
    refine .of_cooldown draw readable attempted fun ending starts => ?_
    by_cases ahead : now < ending
    · refine .inl ((if_neg running).trans ?_)
      rw [attempted]
      exact Option.filter_eq_some_iff.mpr ⟨starts, decide_eq_true ahead⟩
    · exact .inr (Instant.not_lt.mp ahead)

end QueueEntry

section
variable {q : Queue} {now : Instant} {e next : QueueEntry} {notes new past : List Note} {b after : Books}
  {policy : CooldownPolicy}

/-- Failures are noted at the time of the change. -/
theorem Alters.failure_now (alters : Alters q now e new next) {id : EntryId} {time : Instant}
    (noted : .failure id time ∈ new) : time = now := by
  cases alters with
  | failed | retryFailed =>
    cases List.mem_singleton.mp noted
    rfl
  | retried _ _ either =>
    rcases either with rfl | rfl
    · cases noted
    · cases List.mem_singleton.mp noted
  | _ => cases noted

/-- However a patient entry changes, it is patient afterwards. -/
theorem Alters.patient (alters : Alters q now e new next) (readable : now.Representable)
    (earlier : ∀ time, .failure e.id time ∈ notes → time ≤ now) (before : e.IsPatient q.policy notes now) :
    next.IsPatient q.policy (notes ++ new) now := by
  obtain ⟨failure, latest, readable_failure, waiting⟩ := before
  have id_eq := alters.keeps.1
  cases alters with
  | failed failed draw => exact ⟨now, .snoc earlier, readable, .repeatedFailure readable e failed draw⟩
  | retryFailed failed draw =>
    exact ⟨now, .snoc earlier, readable, .of_cooldown draw readable rfl fun _ starts => .inl starts⟩
  | modeSet mode draw =>
    rw [List.append_nil]
    exact ⟨failure, latest, readable_failure, waiting.withMode readable_failure mode draw⟩
  | cooldownEnded =>
    rw [List.append_nil]
    exact ⟨failure, id_eq ▸ latest, readable_failure, waiting.clearElapsed⟩
  | rolledBack =>
    rw [List.append_nil]
    exact ⟨failure, id_eq ▸ latest, readable_failure, waiting.clearElapsed.remembers,
      waiting.clearElapsed.waits⟩
  | retried task takes either =>
    have running := congrArg Standing.status takes.standing
    refine ⟨failure, id_eq ▸ latest.append fun time noted => ?_, readable_failure, .of_running running⟩
    rcases either with rfl | rfl
    · cases noted
    · cases List.mem_singleton.mp noted

/-- An automatic retry of a patient entry keeps the cooldown. -/
theorem Alters.keepsCooldowns (alters : Alters q now e new next) (before : e.IsPatient policy notes now)
    (kept : KeepsCooldowns policy notes) : KeepsCooldowns policy (notes ++ new) := by
  cases alters with
  | failed | retryFailed => exact kept.snoc fun _ same => by cases same
  | retried task takes either =>
    rcases either with rfl | rfl
    · rwa [List.append_nil]
    · refine kept.snoc fun a same unforced auto => ?_
      cases same
      obtain ⟨failure, latest, _, waiting⟩ := before
      exact ⟨failure, latest, waiting.waits now (Instant.le_refl now) auto (takes.eligible unforced)⟩
  | _ => rwa [List.append_nil]

/-! ### The queue -/

/-- All entries are patient and all retries were, as far as notes were taken up to a time. -/
structure Patient (policy : CooldownPolicy) (now : Instant) (notes : List Note) (b : Books) : Prop where
  queue : b.queue.policy = policy
  issued : ∀ e ∈ b.queue.entries, e.id ∈ b.entryIds
  past : ∀ id time, .failure id time ∈ notes → time ≤ now
  entries : ∀ e ∈ b.queue.entries, e.IsPatient policy notes now
  retries : KeepsCooldowns policy notes

theorem Patient.mono {later : Instant} (before : Patient policy now notes b) (le : now ≤ later) :
    Patient policy later notes b where
  queue := before.queue
  issued := before.issued
  past id time noted := Instant.le_trans (before.past id time noted) le
  entries e member := (before.entries e member).mono le
  retries := before.retries

theorem Change.patient (change : Change now b new after) (readable : now.Representable)
    (before : Patient policy now notes b) : Patient policy now (notes ++ new) after where
  queue := change.queue_fixed.2.trans before.queue
  issued := change.issued before.issued
  past id time noted := by
    rcases List.mem_append.mp noted with old | recent
    · exact before.past id time old
    · suffices same : time = now from same ▸ Instant.le_refl now
      cases change with
      | altered _ _ alters => exact alters.failure_now recent
      | added =>
        cases List.mem_singleton.mp recent
        rfl
      | _ => cases recent
  entries next member := by
    rcases change.origin before.issued member with ⟨old, others⟩ | ⟨e, known, alters⟩ |
      ⟨failed, mode, draw, created, rfl, _, _⟩
    · obtain ⟨failure, latest, readable_failure, waiting⟩ := before.entries next old
      exact ⟨failure, latest.append fun time noted => others _ noted rfl, readable_failure, waiting⟩
    · rw [← before.queue]
      exact alters.patient readable (before.past e.id) (before.queue ▸ before.entries e known)
    · refine ⟨now, .snoc (before.past next.id), readable, ?_⟩
      rw [created, ← before.queue]
      exact .of_cooldown draw readable rfl fun _ starts => .inl starts
  retries := by
    cases change with
    | altered _ known alters => exact alters.keepsCooldowns (before.entries _ known) before.retries
    | added => exact before.retries.snoc fun _ same => by cases same
    | _ => exact (List.append_nil notes).symm ▸ before.retries

/-! ### Runs -/

/-- A clock that never goes back, and shows instants that exist. -/
structure IsSteady (clock : Nat → Instant) : Prop where
  ordered : ∀ first later, first ≤ later → clock first ≤ clock later
  readable : ∀ reading, (clock reading).Representable

variable {m later : Moment}

theorem Passage.clock_eq (passage : Passage m notes later) : later.clock = m.clock := by
  induction passage with
  | wait => rfl
  | change => rfl
  | trans _ _ first second => exact second.trans first

theorem Passage.patient (passage : Passage m notes later) (steady : IsSteady m.clock)
    (before : Patient policy (m.clock m.readings) past m.toBooks) :
    Patient policy (later.clock later.readings) (past ++ notes) later.toBooks := by
  induction passage generalizing past with
  | wait le =>
    rw [List.append_nil]
    exact before.mono (steady.ordered _ _ le)
  | change change =>
    exact (change.patient (steady.readable _) before).mono (steady.ordered _ _ (Nat.le_succ _))
  | trans passage _ first second =>
    rw [← List.append_assoc]
    exact second (passage.clock_eq ▸ steady) (first steady before)

end

namespace Engine

theorem patient_empty (policy : CooldownPolicy) (maxAttempts : Nat) (ids : List EntryId) (now : Instant) :
    Patient policy now [] ⟨.empty policy maxAttempts, ids⟩ where
  queue := rfl
  issued e member := by cases member
  past id time noted := by cases noted
  entries e member := by cases member
  retries earlier a later split := absurd split.symm (List.append_ne_nil_of_right_ne_nil _ (List.cons_ne_nil _ _))

/-- No automatic retry starts early: one without force of an entry in automatic mode begins no earlier
than the cooldown without jitter ends, which the attempts up to then give from the latest failure that
was recorded in the entry. -/
theorem automatic_retries_keep_their_cooldown {config : Config} {audit : AuditLog} {disk : Disk}
    {runner : Runner} {supply : Supply} {notes : List Note} {e : Engine} (steady : IsSteady supply.clock)
    (run : Chronicle (.ofConfig config audit disk runner supply) notes e) :
    ∀ earlier a later, notes = earlier ++ .retried a :: later → a.force = false → a.before.mode = .auto →
      ∃ failure, IsLatestFailure earlier a.before.id failure ∧
        e.queue.policy.plainCooldownUntil a.before.attempts failure ≤ a.time := by
  have passage := run.passage (.start config audit disk runner supply)
  have patient := passage.patient steady (patient_empty ..)
  have retries := patient.retries
  rwa [← patient.queue] at retries

/-- The scheduler retries an entry that an operator had taken over and handed back during its
cooldown. -/
theorem cooldown_of_an_entry_handed_back :
    ∃ (config : Config) (supply : Supply) (notes earlier later : List Note) (a : Attempt) (e : Engine),
      IsSteady supply.clock ∧ Chronicle (.ofConfig config (.inMemory 100) .empty .parked supply) notes e ∧
      notes = earlier ++ .retried a :: later ∧ a.force = false ∧ a.before.mode = .auto ∧
      ∃ failure, IsLatestFailure earlier a.before.id failure ∧
        e.queue.policy.plainCooldownUntil a.before.attempts failure ≤ a.time := by
  let clock (n : Nat) : Instant := ⟨10 * min n 100, 0⟩
  let supply : Supply := ⟨clock, fun n => ⟨.ofNat n⟩, fun n => ⟨.ofNat n⟩, fun _ => 0, 0, 0, 0, 0⟩
  have steady : IsSteady clock := by
    have first : Instant.minSecond ≤ 0 := by decide
    have last : 1000 < Instant.maxSecond := by decide
    refine ⟨fun _ _ le => Instant.le_iff.mpr ?_, fun n => ⟨?_, Instant.le_iff.mpr (.inl ?_), Nat.zero_lt_succ _⟩⟩
    · simp only [clock]
      omega
    · simp only [clock]
      omega
    · simp only [clock, Instant.latest]
      omega
  let submitted := (Engine.ofConfig .default (.inMemory 100) .empty .parked supply).perform
    (.submit ⟨.all, "ops", none, none⟩)
  let failed := submitted.perform (.recordOutcome ⟨.ofNat 0⟩ (.failure "E1" none))
  let manual := failed.perform (.setRetryMode ⟨.ofNat 0⟩ .manual "ops")
  let auto := manual.perform (.setRetryMode ⟨.ofNat 0⟩ .auto "ops")
  let retried := auto.perform .tick
  have run : Chronicle _ _ retried := (((((Chronicle.start).call _ (by decide)).call _
    (by decide)).call _ (by decide)).call _ (by decide)).call _ (by decide +kernel)
  obtain ⟨a, attempted, unforced, mode⟩ : ∃ a ∈ (auto.notes .tick).filterMap Note.attempt?,
      a.force = false ∧ a.before.mode = .auto := by decide +kernel
  obtain ⟨earlier, later, split⟩ := List.append_of_mem (List.mem_append_right _ (mem_attempts attempted))
  exact ⟨.default, supply, _, earlier, later, a, retried, steady, run, split, unforced, mode,
    automatic_retries_keep_their_cooldown steady run earlier a later split unforced mode⟩

end Engine

end Reindexing
