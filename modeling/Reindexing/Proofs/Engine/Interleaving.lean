import Reindexing.Proofs.Engine.Coherence

/-!
# Interleaved calls

Any number of calls share the stores. In one step a call begins, or some call
does its next section with inputs of its own; sections of other calls may come
in between any two sections of one call. The parties of an entry are those that
answer for its retry, told apart by what they are: a call that has claimed the
entry, a task that retries it, or a call that has the outcome of such a task to
settle. Identifiers are handed out at most once; nothing else is assumed.
-/
namespace Reindexing

/-- Stores that several calls work on. -/
structure System where
  stores : Stores
  /-- The sections that each call has left to do. -/
  calls : List (List Section)

/-- Who answers for the retry of a running entry. -/
inductive Party where
  /-- A call that has claimed the entry, and has neither created its task nor released it. -/
  | claimant
  /-- A task of the entry that has not ended. -/
  | retry (task : TaskId)
  /-- A call that has ended such a task and not settled its outcome in the queue. -/
  | reporter
  deriving DecidableEq, Repr

/-- What a section makes its call to an entry. -/
def Section.party? (id : EntryId) : Section → Option Party
  | .resubmit entry _ _ => if entry = id then some .claimant else none
  | .release taken => if taken.previous.id = id then some .claimant else none
  | .recordRetryFailure entry _ => if entry = id then some .reporter else none
  | .resolve entry => if entry = id then some .reporter else none
  | _ => none

namespace System

/-- One step: a call begins, or does its next section. -/
inductive Step (y : System) : System → Prop where
  | begin (c : Engine.Call) (timeout : Span) (cap : Nat) :
      Step y { y with calls := y.calls ++ [c.sections timeout cap] }
  | advance {s : Section} {rest : List Section} (earlier later : List (List Section)) (x : Inputs) :
      y.calls = earlier ++ (s :: rest) :: later → (s.run x y.stores).1.Distinct →
      Step y ⟨(s.run x y.stores).1, earlier ++ ((s.run x y.stores).2 ++ rest) :: later⟩

inductive Reachable : System → Prop where
  | start (policy : CooldownPolicy) (maxAttempts : Nat) : Reachable ⟨.empty policy maxAttempts [] [], []⟩
  | step {y z : System} : Reachable y → Step y z → Reachable z

/-- The sections that are still to be done, of all calls. -/
def pending (y : System) : List Section := y.calls.flatten

/-- Whether no call is in progress. -/
def IsQuiet (y : System) : Prop := ∀ todo ∈ y.calls, todo = []

def parties (y : System) (id : EntryId) : List Party :=
  (y.stores.registry.tasks.filter (·.retries id)).map (.retry ·.id) ++
    y.pending.filterMap (Section.party? id)

/-- The claims that calls hold. -/
def claims (y : System) : List Claim := y.pending.filterMap Section.held?

/-! ### Coherence of every reachable system -/

theorem coherent_step {y z : System} (before : Coherent y.stores.view y.pending) (step : Step y z) :
    Coherent z.stores.view z.pending := by
  cases step with
  | begin c timeout cap =>
    have opened := before.open_sections (c.sections_open timeout cap)
    refine opened.perm ?_
    simp only [pending, List.flatten_append, List.flatten_singleton]
    exact List.perm_append_comm
  | @advance s rest earlier later x calls distinct =>
    have front : y.pending.Perm (s :: (rest ++ (earlier.flatten ++ later.flatten))) := by
      rw [pending, calls, List.flatten_append, List.flatten_cons, List.cons_append]
      refine List.perm_middle.trans ?_
      refine List.Perm.cons s ?_
      rw [← List.append_assoc, ← List.append_assoc]
      exact List.perm_append_comm.append_right _
    have moved := Stores.coherent_run (before.perm front) x distinct
    refine moved.perm ?_
    simp only [pending, List.flatten_append, List.flatten_cons]
    rw [← List.append_assoc, ← List.append_assoc, ← List.append_assoc]
    exact List.perm_append_comm.append_right _

theorem Reachable.coherent {y : System} (h : Reachable y) : Coherent y.stores.view y.pending := by
  induction h with
  | start policy maxAttempts => exact Stores.coherent_empty policy maxAttempts [] []
  | step _ step ih => exact coherent_step ih step

/-! ### Parties -/

theorem isSome_party? (id : EntryId) (s : Section) :
    (s.party? id).isSome = decide (s.owned? = some id) := by
  cases s <;> simp only [Section.party?, Section.owned?, Option.some.injEq] <;> try rfl
  all_goals split <;> simp [*]

theorem length_parties (y : System) (id : EntryId) :
    (y.parties id).length = holders y.stores.view y.pending id := by
  rw [parties, List.length_append, List.length_map, ← List.countP_eq_length_filter,
    List.length_filterMap_eq_countP]
  simp only [isSome_party?]
  rfl

/-- The claims that calls hold are of different entries. -/
theorem claims_nodup {y : System} (coherent : Coherent y.stores.view y.pending) :
    (y.claims.map (·.previous.id)).Nodup := by
  rw [List.nodup_iff_count_le_one]
  intro id
  have owners : (y.claims.map (·.previous.id)).count id ≤
      y.pending.countP fun s => decide (s.owned? = some id) := by
    rw [List.count_eq_countP, List.countP_map, claims, List.countP_filterMap]
    refine List.countP_mono_left fun s member holds => ?_
    cases held : s.held? with
    | none => simp [held] at holds
    | some taken =>
      have same : taken.previous.id = id := by simpa [held] using holds
      rw [coherent.issued.owned_of_held member held, same]
      exact decide_eq_true rfl
  have single := coherent.custody.single id
  rw [holders] at single
  omega

/-- When no call is in progress, a running entry has one party left: a task that runs. -/
theorem runningRetries_of_quiet {y : System} (coherent : Coherent y.stores.view y.pending)
    (quiet : y.IsQuiet) {e : QueueEntry} (member : e ∈ y.stores.queue.entries)
    (running : e.status = .running) : ∃ t, y.stores.registry.runningRetries e.id = [t] := by
  have nothing : y.pending = [] := List.flatten_eq_nil_iff.mpr quiet
  rw [nothing] at coherent
  exact coherent.runningRetries_of_running (List.mem_map_of_mem member) running

/-- Claims are exclusive and no entry is stranded, however calls interleave. A running entry has
exactly one party that answers for it, and no entry has more; the claims that calls hold are of
different entries; and when no call is in progress, exactly one task runs as the retry of each
running entry. -/
theorem running_entries_have_one_party {y : System} (h : Reachable y) :
    (∀ e ∈ y.stores.queue.entries, e.status = .running → ∃ p, y.parties e.id = [p]) ∧
    (∀ id, (y.parties id).length ≤ 1) ∧
    (y.claims.map (·.previous.id)).Nodup ∧
    (y.IsQuiet → ∀ e ∈ y.stores.queue.entries, e.status = .running →
      ∃ t, y.stores.registry.runningRetries e.id = [t]) := by
  have coherent := h.coherent
  refine ⟨?_, ?_, claims_nodup coherent, ?_⟩
  · intro e member running
    have one := (coherent.custody.running e.standing (List.mem_map_of_mem member)).mp running
    exact List.length_eq_one_iff.mp ((length_parties y e.id).trans one)
  · intro id
    rw [length_parties]
    exact coherent.custody.single id
  · intro quiet e member running
    exact runningRetries_of_quiet coherent quiet member running

/-- Two operators retry the entry of a failed task at the same time. The first has claimed it and
not yet resubmitted the scope when the other, who forces the retry, is about to claim it too. -/
theorem one_party_of_a_contended_entry :
    ∃ y : System, Reachable y ∧ y.stores.queue.entries.map (·.status) = [.running] ∧
      y.pending.length = 2 ∧
      (∀ e ∈ y.stores.queue.entries, e.status = .running → ∃ p, y.parties e.id = [p]) ∧
      (y.claims.map (·.previous.id)).Nodup := by
  let x : Inputs := ⟨.epoch, ⟨.ofNat 1⟩, ⟨.ofNat 1⟩, 0, none⟩
  let hour := Span.ofSeconds 3600
  have y₀ := Reachable.start (.ofSpans hour hour) 3
  have y₁ := y₀.step (.begin (.submit ⟨.all, "ops", none, none⟩) hour 10)
  have y₂ := y₁.step (.advance [] [] x rfl (by decide))
  have y₃ := y₂.step (.advance [] [] x rfl (by decide))
  have y₄ := y₃.step (.begin (.recordOutcome ⟨.ofNat 1⟩ (.failure "E" none)) hour 10)
  have y₅ := y₄.step (.advance [[]] [] x rfl (by decide))
  have y₆ := y₅.step (.advance [[]] [] x rfl (by decide))
  -- In manual mode the entry has no cooldown left, so that an unforced claim takes it.
  have y₇ := y₆.step (.begin (.setRetryMode ⟨.ofNat 1⟩ .manual "ops") hour 10)
  have y₈ := y₇.step (.advance [[], []] [] x rfl (by decide))
  have y₉ := y₈.step (.begin (.retry ⟨.ofNat 1⟩ ⟨"ops", none, false⟩) hour 10)
  have y₁₀ := y₉.step (.begin (.retry ⟨.ofNat 1⟩ ⟨"boss", none, true⟩) hour 10)
  have y₁₁ := y₁₀.step
    (.advance [[], [], []] [[.claim ⟨.ofNat 1⟩ ⟨"boss", none, true⟩]] x rfl (by decide))
  obtain ⟨attended, _, apart, _⟩ := running_entries_have_one_party y₁₁
  exact ⟨_, y₁₁, by decide, by decide, attended, apart⟩

end System

end Reindexing
