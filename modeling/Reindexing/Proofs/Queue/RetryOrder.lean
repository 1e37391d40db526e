import Reindexing.Proofs.Queue.ModeSwitches
import Reindexing.Proofs.Queue.Replay

/-!
# The order of automatic retries

The scheduler retries the entries that are due by the time they were last touched.
A failure touches the entry that it is recorded in, so the order is that of the
last attempts as long as failures are all that happens. But a switch of the mode
and a rolled back claim touch an entry as well, and put it behind entries that
were attempted later. What was told last of an entry shows which of the two it is.
-/
namespace Reindexing

/-- Whether a mutation touches an entry although no attempt was made. -/
def MutationKind.isAside : MutationKind → Bool
  | .modeChanged | .released => true
  | _ => false

/-- No call names an earlier time than the calls before it. -/
def Queue.InOrder (calls : List Queue.Call) : Prop :=
  (calls.filterMap Queue.Call.time?).Pairwise (· ≤ ·)

instance (calls : List Queue.Call) : Decidable (Queue.InOrder calls) :=
  inferInstanceAs (Decidable (List.Pairwise _ _))

/-- The mutations that calls answer, one call after the other. -/
def Ledger.toldBy (l : Ledger) : List Queue.Call → List Mutation
  | [] => []
  | c :: calls => l.queue.mutations c ++ (l.perform c).toldBy calls

/-- A touch without an attempt is the last that was told of the entry. -/
def TouchedAside (told : List Mutation) (id : EntryId) : Prop :=
  ∃ m, (mutationsOf id told).getLast? = some m ∧ m.kind.isAside = true

instance (told : List Mutation) (id : EntryId) : Decidable (TouchedAside told id) :=
  decidable_of_iff (((mutationsOf id told).getLast?.any fun m => m.kind.isAside) = true)
    (Option.any_eq_true _ _)

namespace Queue

theorem exists_doneBy (calls : List Call) : ∃ time, DoneBy calls time := by
  induction calls with
  | nil => exact ⟨.epoch, List.forall_mem_nil _⟩
  | cons c rest ih =>
    obtain ⟨time, done⟩ := ih
    rcases Instant.le_total time (c.time?.getD time) with later | earlier
    · refine ⟨c.time?.getD time, List.forall_mem_cons.mpr ⟨fun now named => ?_, fun d member now named => ?_⟩⟩
      · rw [named]
        exact Instant.le_refl now
      · exact Instant.le_trans (done d member now named) later
    · refine ⟨time, List.forall_mem_cons.mpr ⟨fun now named => ?_, done⟩⟩
      rwa [named] at earlier

/-- The scheduler retries the first entry before the second. -/
def RetriesBefore (q : Queue) (now : Instant) (first second : EntryId) : Prop :=
  [first, second].Sublist (q.eligibleAuto now)

instance (q : Queue) (now : Instant) (first second : EntryId) : Decidable (q.RetriesBefore now first second) :=
  inferInstanceAs (Decidable (List.Sublist _ _))

/-- Elements of a list stand in the order that all its elements keep to, if they could not stand in the
other one. -/
theorem sublist_of_pairwise {α : Type} {r : α → α → Prop} {s : List α} (sorted : s.Pairwise r) {a b : α}
    (ha : a ∈ s) (hb : b ∈ s) (apart : a ≠ b) (not_after : ¬ r b a) : [a, b].Sublist s := by
  induction sorted with
  | nil => cases ha
  | @cons c rest first _ ih =>
    rcases List.mem_cons.mp hb with rfl | later_b
    · rcases List.mem_cons.mp ha with rfl | later_a
      · exact absurd rfl apart
      · exact absurd (first a later_a) not_after
    · rcases List.mem_cons.mp ha with rfl | later_a
      · exact (List.singleton_sublist.mpr later_b).cons_cons a
      · exact (ih later_a later_b).cons c

variable {q : Queue} {now : Instant} {a b : QueueEntry}

theorem oldestFirst_sorted (entries : List QueueEntry) :
    (oldestFirst entries).Pairwise fun a b => a.lastTouched ≤ b.lastTouched := by
  have sorted : (oldestFirst entries).Pairwise fun a b => decide (a.lastTouched ≤ b.lastTouched) = true := by
    refine List.pairwise_mergeSort ?_ ?_ _
    · intro a b c ab bc
      exact decide_eq_true (Instant.le_trans (of_decide_eq_true ab) (of_decide_eq_true bc))
    · intro a b
      rw [Bool.or_eq_true, decide_eq_true_eq, decide_eq_true_eq]
      exact Instant.le_total _ _
  exact sorted.imp of_decide_eq_true

/-- Of two entries that are due, the one that was touched earlier is retried first. -/
theorem retriesBefore_of_touched (unique : (q.entries.map (·.id)).Nodup) (ha : a ∈ q.entries)
    (hb : b ∈ q.entries) (due_a : a.id ∈ q.eligibleAuto now) (due_b : b.id ∈ q.eligibleAuto now)
    (earlier : a.lastTouched < b.lastTouched) : q.RetriesBefore now a.id b.id := by
  have listed : ∀ e ∈ q.entries, e.id ∈ q.eligibleAuto now →
      e ∈ oldestFirst (q.entries.filter fun e => e.mode = .auto && e.isEligible now) := by
    intro e member due
    obtain ⟨s, known, same, auto, ready⟩ := mem_eligibleAuto.mp due
    obtain rfl := Keyed.eq_of_key unique known member same
    rw [oldestFirst, List.mem_mergeSort, List.mem_filter]
    exact ⟨known, by simp [auto, ready]⟩
  have not_after : ¬ b.lastTouched ≤ a.lastTouched := by
    rw [← Instant.not_lt, not_not]
    exact earlier
  have apart : a ≠ b := by
    rintro rfl
    exact not_after (Instant.le_refl _)
  have ordered := sublist_of_pairwise (oldestFirst_sorted _) (listed a ha due_a) (listed b hb due_b) apart
    not_after
  exact ordered.map (·.id)

/-- No entry is retried before one that was touched earlier. -/
theorem touched_of_retriesBefore (unique : (q.entries.map (·.id)).Nodup) (ha : a ∈ q.entries)
    (hb : b ∈ q.entries) (before : q.RetriesBefore now a.id b.id) : a.lastTouched ≤ b.lastTouched := by
  have known : ∀ s ∈ oldestFirst (q.entries.filter fun e => e.mode = .auto && e.isEligible now),
      s ∈ q.entries := fun s listed => (List.mem_filter.mp (List.mem_mergeSort.mp listed)).1
  obtain ⟨pair, sub, same⟩ := List.sublist_map_iff.mp before
  obtain ⟨s, rest, rfl, id_s, tail⟩ := List.map_eq_cons_iff.mp same.symm
  obtain ⟨t, none, rfl, id_t, nil⟩ := List.map_eq_cons_iff.mp tail
  obtain rfl := List.map_eq_nil_iff.mp nil
  obtain rfl := Keyed.eq_of_key unique (known s (sub.subset List.mem_cons_self)) ha id_s
  obtain rfl := Keyed.eq_of_key unique
    (known t (sub.subset (List.mem_cons_of_mem s List.mem_cons_self))) hb id_t
  exact List.pairwise_iff_forall_sublist.mp (oldestFirst_sorted _) sub

/-- The scheduler retries exactly the entries in automatic mode that a claim without force takes. -/
theorem mem_eligibleAuto_iff_claim (unique : (q.entries.map (·.id)).Nodup) (id : EntryId) (actor : String)
    (note : Option String) :
    id ∈ q.eligibleAuto now ↔ ∃ e, q.find? id = some e ∧ e.mode = .auto ∧
      ∃ after taken, q.claim id actor note false now = (after, .ok taken) := by
  rw [mem_eligibleAuto]
  constructor
  · rintro ⟨e, member, rfl, auto, ready⟩
    have found : q.find? e.id = some e := Keyed.find?_of_mem unique member
    have success : q.claim e.id actor note false now = _ :=
      claim_of_idle found (QueueEntry.idle_of_isEligible ready)
    rw [ready, Bool.true_or, if_pos rfl] at success
    exact ⟨e, found, auto, _, _, success⟩
  · rintro ⟨e, found, auto, after, taken, success⟩
    obtain ⟨s, found_s, _, eligible, _⟩ := claim_succeeds success
    obtain rfl := Option.some.inj (found.symm.trans found_s)
    obtain ⟨member, same⟩ := mem_of_find? found
    exact ⟨e, member, same, auto, eligible rfl⟩

end Queue

/-! ### Attempts and touches -/

/-- While no retry of the entry runs, its last attempt lies neither after its last touch nor after this time. -/
def QueueEntry.AttemptedBy (time : Instant) (e : QueueEntry) : Prop :=
  ∃ last, e.lastAttemptAt = some last ∧ last ≤ time ∧ (e.status ≠ .running → last ≤ e.lastTouched)

namespace Ledger

variable {l : Ledger} {e next : QueueEntry} {c : Queue.Call} {calls : List Queue.Call} {after : Books}
  {told : List Mutation} {claims : List Claim} {policy : CooldownPolicy} {maxAttempts : Nat}
  {time now : Instant}

/-- What a call tells of an entry that is not running afterwards tells of its attempt, or of a touch
aside. -/
theorem Step.attempted (step : l.Step c told after) {m : Mutation} (member : m ∈ told) :
    m.kind.isAside = true ∨ m.kind.isFinal = true ∨ m.entry.status = .running ∨
      m.entry.lastAttemptAt = some m.entry.lastTouched := by
  cases step with
  | idle | cleared => cases member
  | created =>
    obtain rfl := List.mem_singleton.mp member
    exact .inr (.inr (.inr rfl))
  | dropped _ _ final =>
    obtain rfl := List.mem_singleton.mp member
    rcases final with kind | kind <;> exact .inr (.inl (by rw [kind]; rfl))
  | revised _ _ revises =>
    cases revises with
    | failed | retryFailed =>
      obtain rfl := List.mem_singleton.mp member
      exact .inr (.inr (.inr rfl))
    | modeSet | released =>
      obtain rfl := List.mem_singleton.mp member
      exact .inl rfl
    | claimed takes switched =>
      rcases List.mem_append.mp member with earlier | last
      · exact .inl (by rw [(switched m earlier).1]; rfl)
      · obtain rfl := List.mem_singleton.mp last
        exact .inr (.inr (.inl (congrArg Standing.status takes.standing)))
    | refused | attached => cases member

theorem Revises.attemptedBy (revises : l.Revises e c next told) (before : e.AttemptedBy time)
    (recent : ∀ now, c.time? = some now → now ≤ time ∧ e.AttemptedBy now ∧
      ∀ taken ∈ claims, taken.previous.AttemptedBy now)
    (listed : c.ReleasesFrom claims) : next.AttemptedBy time := by
  cases revises with
  | @failed _ _ now => exact ⟨now, rfl, (recent now rfl).1, fun _ => Instant.le_refl now⟩
  | @retryFailed _ _ now => exact ⟨now, rfl, (recent now rfl).1, fun _ => Instant.le_refl now⟩
  | @modeSet _ _ _ now =>
    obtain ⟨past, ⟨last, attempted, le, _⟩, _⟩ := recent now rfl
    exact ⟨last, attempted, Instant.le_trans le past, fun _ => le⟩
  | @claimed _ _ _ _ now _ _ takes =>
    have running := congrArg Standing.status takes.standing
    exact ⟨now, takes.attempted, (recent now rfl).1, fun idle => absurd running idle⟩
  | @refused _ _ _ _ now => exact e.clearElapsed_has now before before
  | attached => exact before
  | @released taken now =>
    obtain ⟨past, _, held⟩ := recent now rfl
    obtain ⟨last, attempted, le, _⟩ := held taken listed
    exact ⟨last, attempted, Instant.le_trans le past, fun _ => le⟩

/-! ### Runs -/

theorem Wanders.attemptedBy (run : Wanders (start policy maxAttempts) calls claims l)
    (ordered : Queue.InOrder calls) (done : Queue.DoneBy calls time) :
    Bounded policy (max maxAttempts 1) (QueueEntry.AttemptedBy time) claims l := by
  induction run generalizing time with
  | refl => exact bounded_start policy maxAttempts _
  | @call calls claims l c _ listed ih =>
    rw [Queue.InOrder, List.filterMap_append] at ordered
    obtain ⟨ordered_before, _, step_ordered⟩ := List.pairwise_append.mp ordered
    have last : c ∈ calls ++ [c] := List.mem_append_right _ (List.mem_singleton_self c)
    have before := ih ordered_before fun d member => done d (List.mem_append_left _ member)
    -- A mode switch or a release counts as a touch at its own time, which no attempt before it is after.
    have recent : ∀ now, c.time? = some now →
        Bounded policy (max maxAttempts 1) (QueueEntry.AttemptedBy now) claims l := by
      intro now named
      refine ih ordered_before fun d member earlier named_d => ?_
      exact step_ordered earlier (List.mem_filterMap.mpr ⟨d, member, named_d⟩) now
        (List.mem_filterMap.mpr ⟨c, List.mem_singleton_self c, named⟩)
    refine before.perform ?_ (fun e attempted now _ => e.clearElapsed_has now attempted attempted) ?_
    · intro e attempted next told revises known
      refine revises.attemptedBy attempted (fun now named => ⟨done c last now named, ?_, ?_⟩) listed
      · exact (recent now named).entries e known
      · exact fun taken member => (recent now named).claims taken (List.mem_append_right _ member)
    · rintro failed mode now fresh draw rfl
      exact ⟨now, rfl, done _ last now rfl, fun _ => Instant.le_refl now⟩

/-- In calls that come in the order of their times, no attempt is recorded that is later than the last
touch. -/
theorem Leads.last_attempt_le_touch (run : Leads (start policy maxAttempts) calls l)
    (ordered : Queue.InOrder calls) (member : e ∈ l.queue.entries) (idle : e.status ≠ .running) {last : Instant}
    (attempted : e.lastAttemptAt = some last) : last ≤ e.lastTouched := by
  obtain ⟨claims, wanders, _⟩ := run.wanders
  obtain ⟨time, done⟩ := Queue.exists_doneBy calls
  obtain ⟨other, same, _, le⟩ := (wanders.attemptedBy ordered done).entries e member
  obtain rfl := Option.some.inj (attempted.symm.trans same)
  exact le idle

theorem toldBy_append (l : Ledger) (calls more : List Queue.Call) :
    l.toldBy (calls ++ more) = l.toldBy calls ++ (calls.foldl perform l).toldBy more := by
  induction calls generalizing l with
  | nil => rfl
  | cons c rest ih => rw [List.cons_append, toldBy, toldBy, ih, List.append_assoc, List.foldl_cons]

theorem Leads.eq_foldl {start : Ledger} (run : Leads start calls l) : l = calls.foldl perform start := by
  induction run with
  | refl => rfl
  | call c _ _ ih => rw [List.foldl_append, ← ih, List.foldl_cons, List.foldl_nil]

/-- What the calls of a run told tells of every entry how it is. -/
theorem Leads.retold (run : Leads (start policy maxAttempts) calls l) :
    l.Retold (fun _ => True) ((start policy maxAttempts).toldBy calls) := by
  induction run with
  | refl => exact .empty _ policy maxAttempts []
  | @call calls l c leads admits ih =>
    have sound := leads.sound (sound_start policy maxAttempts)
    have step := l.step c
    rw [toldBy_append, ← leads.eq_foldl, toldBy, toldBy, List.append_nil]
    exact step.retold sound admits.listed (step.renews admits) (fun _ _ _ _ => trivial) ih

theorem Leads.told_attempted {start : Ledger} (run : Leads start calls l) {m : Mutation}
    (member : m ∈ start.toldBy calls) :
    m.kind.isAside = true ∨ m.kind.isFinal = true ∨ m.entry.status = .running ∨
      m.entry.lastAttemptAt = some m.entry.lastTouched := by
  induction run with
  | refl => cases member
  | @call calls l c leads admits ih =>
    rw [toldBy_append, ← leads.eq_foldl, toldBy, toldBy, List.append_nil] at member
    rcases List.mem_append.mp member with earlier | last
    · exact ih earlier
    · exact (l.step c).attempted last

/-- An entry that is not running was last touched by its last attempt, unless a touch aside is the last
that was told of it. -/
theorem Leads.last_attempt_eq_touch (run : Leads (start policy maxAttempts) calls l)
    (member : e ∈ l.queue.entries) (idle : e.status ≠ .running)
    (untouched : ¬ TouchedAside ((start policy maxAttempts).toldBy calls) e.id) :
    e.lastAttemptAt = some e.lastTouched := by
  have sound := run.sound (sound_start policy maxAttempts)
  obtain ⟨shown, course, alike⟩ := run.retold.course_of_find? (sound.find?_of_mem member)
  obtain ⟨m, last, rfl, ordinary⟩ := course.shown_last
  have told : m ∈ (start policy maxAttempts).toldBy calls := (List.mem_filter.mp (List.mem_of_getLast? last)).1
  have same := alike.same
  rcases run.told_attempted told with aside | final | running | attempted
  · exact absurd ⟨m, last, aside⟩ untouched
  · rw [ordinary] at final
    cases final
  · rw [same] at idle
    exact absurd running idle
  · rw [same]
    exact attempted

/-- The scheduler retries exactly the entries in automatic mode that a claim without force takes, each of
them once, in the order in which they were last touched. This is the order of their last attempts, except
that a mode switch or a rolled back claim since the last attempt of an entry may put it behind entries that
were attempted later; and if the calls do not come in the order of their times, it may also put it before
entries that were attempted earlier. -/
theorem eligible_entries_are_retried_in_the_order_of_touches
    (run : Leads (start policy maxAttempts) calls l) (now : Instant) :
    (l.queue.eligibleAuto now).Nodup ∧
    (∀ id actor note, id ∈ l.queue.eligibleAuto now ↔ ∃ e, l.queue.find? id = some e ∧ e.mode = .auto ∧
      ∃ after taken, l.queue.claim id actor note false now = (after, .ok taken)) ∧
    ∀ a ∈ l.queue.entries, ∀ b ∈ l.queue.entries,
      a.id ∈ l.queue.eligibleAuto now → b.id ∈ l.queue.eligibleAuto now →
      (a.lastTouched < b.lastTouched → l.queue.RetriesBefore now a.id b.id) ∧
      (l.queue.RetriesBefore now a.id b.id → a.lastTouched ≤ b.lastTouched) ∧
      ∀ first second, a.lastAttemptAt = some first → b.lastAttemptAt = some second → first < second →
        ¬ TouchedAside ((start policy maxAttempts).toldBy calls) a.id →
        Queue.InOrder calls ∨ ¬ TouchedAside ((start policy maxAttempts).toldBy calls) b.id →
        l.queue.RetriesBefore now a.id b.id := by
  have sound := run.sound (sound_start policy maxAttempts)
  have unique : (l.queue.entries.map (·.id)).Nodup := sound.unique_ids
  refine ⟨Queue.nodup_eligibleAuto unique now, Queue.mem_eligibleAuto_iff_claim unique, ?_⟩
  intro a ha b hb due_a due_b
  refine ⟨Queue.retriesBefore_of_touched unique ha hb due_a due_b,
    Queue.touched_of_retriesBefore unique ha hb, ?_⟩
  intro first second attempted_a attempted_b earlier untouched_a other
  have idle : ∀ e ∈ l.queue.entries, e.id ∈ l.queue.eligibleAuto now → e.status ≠ .running := by
    intro e member due
    obtain ⟨s, known, same, _, ready⟩ := Queue.mem_eligibleAuto.mp due
    obtain rfl := Keyed.eq_of_key unique known member same
    exact QueueEntry.idle_of_isEligible ready
  have touched_a : a.lastTouched = first :=
    Option.some.inj ((run.last_attempt_eq_touch ha (idle a ha due_a) untouched_a).symm.trans attempted_a)
  have touched_b : second ≤ b.lastTouched := by
    rcases other with ordered | untouched_b
    · exact run.last_attempt_le_touch ordered hb (idle b hb due_b) attempted_b
    · have attempted := run.last_attempt_eq_touch hb (idle b hb due_b) untouched_b
      rw [Option.some.inj (attempted_b.symm.trans attempted)]
      exact Instant.le_refl _
  apply Queue.retriesBefore_of_touched unique ha hb due_a due_b
  rw [touched_a]
  exact Instant.lt_of_lt_of_le earlier touched_b

/-- The scope that failed first fails again after the second one, and is handed to the scheduler once
more: the second one is retried first. -/
theorem repeated_failure_is_retried_later :
    ∃ (calls : List Queue.Call) (l : Ledger), Leads (start (.ofSpans .zero .zero) 3) calls l ∧
      Queue.InOrder calls ∧
      ∃ a ∈ l.queue.entries, ∃ b ∈ l.queue.entries, a.id = ⟨.ofNat 2⟩ ∧ b.id = ⟨.ofNat 1⟩ ∧
        a.lastAttemptAt = some ⟨10, 0⟩ ∧ b.lastAttemptAt = some ⟨20, 0⟩ ∧
        ¬ TouchedAside ((start (.ofSpans .zero .zero) 3).toldBy calls) a.id ∧
        TouchedAside ((start (.ofSpans .zero .zero) 3).toldBy calls) b.id ∧
        l.queue.RetriesBefore ⟨40, 0⟩ a.id b.id := by
  let failed (n : Nat) (key : String) : Task :=
    { Task.create ⟨.ofNat n⟩ (.sources [key]) "ops" .epoch with status := .failed }
  let calls : List Queue.Call := [.enqueue (failed 1 "a") .auto ⟨0, 0⟩ ⟨.ofNat 1⟩ 0,
    .enqueue (failed 2 "b") .auto ⟨10, 0⟩ ⟨.ofNat 2⟩ 0, .enqueue (failed 3 "a") .auto ⟨20, 0⟩ ⟨.ofNat 3⟩ 0,
    .setMode ⟨.ofNat 1⟩ .auto "ops" ⟨30, 0⟩ 0]
  let l := calls.foldl perform (start (.ofSpans .zero .zero) 3)
  have run : Leads (start (.ofSpans .zero .zero) 3) calls l :=
    (((Leads.refl.call _ (by decide +kernel)).call _ (by decide +kernel)).call _ (by decide +kernel)).call _
      (by decide +kernel)
  obtain ⟨b, hb, id_b, attempted_b, aside, due_b⟩ : ∃ b ∈ l.queue.entries, b.id = ⟨.ofNat 1⟩ ∧
      b.lastAttemptAt = some ⟨20, 0⟩ ∧ TouchedAside ((start (.ofSpans .zero .zero) 3).toldBy calls) b.id ∧
      b.mode = .auto ∧ b.isEligible ⟨40, 0⟩ = true := by
    decide +kernel
  obtain ⟨a, ha, id_a, attempted_a, untouched, due_a⟩ : ∃ a ∈ l.queue.entries, a.id = ⟨.ofNat 2⟩ ∧
      a.lastAttemptAt = some ⟨10, 0⟩ ∧ ¬ TouchedAside ((start (.ofSpans .zero .zero) 3).toldBy calls) a.id ∧
      a.mode = .auto ∧ a.isEligible ⟨40, 0⟩ = true := by
    decide +kernel
  have ordered : Queue.InOrder calls := by decide
  have due : ∀ e ∈ l.queue.entries, e.mode = .auto ∧ e.isEligible ⟨40, 0⟩ = true →
      e.id ∈ l.queue.eligibleAuto ⟨40, 0⟩ :=
    fun e member ready => Queue.mem_eligibleAuto.mpr ⟨e, member, rfl, ready⟩
  have order := ((eligible_entries_are_retried_in_the_order_of_touches run ⟨40, 0⟩).2.2 a ha b hb
    (due a ha due_a) (due b hb due_b)).2.2
  exact ⟨calls, l, run, ordered, a, ha, b, hb, id_a, id_b, attempted_a, attempted_b, untouched, aside,
    order _ _ attempted_a attempted_b (by decide) untouched (.inl ordered)⟩

/-- An entry that failed first is handed to the scheduler once more after another scope has failed, and is
retried after it. -/
theorem mode_switch_puts_an_entry_behind_later_attempts :
    ∃ (calls : List Queue.Call) (l : Ledger), Leads (start (.ofSpans .zero .zero) 3) calls l ∧
      Queue.InOrder calls ∧
      ∃ a ∈ l.queue.entries, ∃ b ∈ l.queue.entries,
        a.id ∈ l.queue.eligibleAuto ⟨30, 0⟩ ∧ b.id ∈ l.queue.eligibleAuto ⟨30, 0⟩ ∧
        a.lastAttemptAt = some ⟨0, 0⟩ ∧ b.lastAttemptAt = some ⟨10, 0⟩ ∧
        l.queue.RetriesBefore ⟨30, 0⟩ b.id a.id ∧ ¬ l.queue.RetriesBefore ⟨30, 0⟩ a.id b.id := by
  let failed (n : Nat) (key : String) : Task :=
    { Task.create ⟨.ofNat n⟩ (.sources [key]) "ops" .epoch with status := .failed }
  let calls : List Queue.Call := [.enqueue (failed 1 "a") .auto ⟨0, 0⟩ ⟨.ofNat 1⟩ 0,
    .enqueue (failed 2 "b") .auto ⟨10, 0⟩ ⟨.ofNat 2⟩ 0, .setMode ⟨.ofNat 1⟩ .auto "ops" ⟨20, 0⟩ 0]
  let l := calls.foldl perform (start (.ofSpans .zero .zero) 3)
  have run : Leads (start (.ofSpans .zero .zero) 3) calls l :=
    ((Leads.refl.call _ (by decide +kernel)).call _ (by decide +kernel)).call _ (by decide +kernel)
  have unique := (run.sound (sound_start (.ofSpans .zero .zero) 3)).unique_ids
  obtain ⟨a, ha, attempted_a, touched_a, ready_a⟩ : ∃ a ∈ l.queue.entries,
      a.lastAttemptAt = some ⟨0, 0⟩ ∧ a.lastTouched = ⟨20, 0⟩ ∧ a.mode = .auto ∧
      a.isEligible ⟨30, 0⟩ = true := by
    decide +kernel
  obtain ⟨b, hb, attempted_b, touched_b, ready_b⟩ : ∃ b ∈ l.queue.entries,
      b.lastAttemptAt = some ⟨10, 0⟩ ∧ b.lastTouched = ⟨10, 0⟩ ∧ b.mode = .auto ∧
      b.isEligible ⟨30, 0⟩ = true := by
    decide +kernel
  have due_a : a.id ∈ l.queue.eligibleAuto ⟨30, 0⟩ := Queue.mem_eligibleAuto.mpr ⟨a, ha, rfl, ready_a⟩
  have due_b : b.id ∈ l.queue.eligibleAuto ⟨30, 0⟩ := Queue.mem_eligibleAuto.mpr ⟨b, hb, rfl, ready_b⟩
  refine ⟨calls, l, run, by decide, a, ha, b, hb, due_a, due_b, attempted_a, attempted_b, ?_, fun before => ?_⟩
  · apply Queue.retriesBefore_of_touched unique hb ha due_b due_a
    rw [touched_a, touched_b]
    decide
  · have le := Queue.touched_of_retriesBefore unique ha hb before
    rw [touched_a, touched_b] at le
    exact absurd le (by decide)

end Ledger

end Reindexing
