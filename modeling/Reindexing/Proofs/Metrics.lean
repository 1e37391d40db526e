import Reindexing.Metrics
import Reindexing.Proofs.Keyed
import Reindexing.Proofs.Task.Transitions

/-!
# Readings of the metrics

A `Panel` is what is read off the metrics of tasks and entries, next to the tasks
and the size of the queue that it is about. It is exact when readings and contents
agree. A task is created, started or finished, the queue grows or shrinks, a task
is timed out: each leads from an exact panel to an exact one, if the counters go on
and the gauges are set as they should.
-/
namespace Reindexing

/-! ### Counters and gauges -/

namespace Metrics

variable [DecidableEq κ]

/-- The value under a key of a list, or `zero`. -/
theorem value_adjust (key other : κ) (zero : α) (change : α → α) (l : List (κ × α)) :
    (((adjust key zero change l).find? (·.1 = other)).map (·.2)).getD zero =
      if other = key then change (((l.find? (·.1 = other)).map (·.2)).getD zero)
      else ((l.find? (·.1 = other)).map (·.2)).getD zero := by
  induction l with
  | nil =>
    by_cases same : other = key
    · simp [adjust, same]
    · simp [adjust, same, Ne.symm same]
  | cons head rest ih =>
    obtain ⟨k, a⟩ := head
    by_cases here : k = key
    · subst here
      by_cases same : other = k
      · simp [adjust, same]
      · simp [adjust, same, Ne.symm same]
    · by_cases found : k = other
      · subst found
        simp [adjust, here]
      · simpa [adjust, here, found] using ih

theorem counter_increment (m : Metrics) (series other : Series) :
    (m.increment series).counter other = m.counter other + if other = series then 1 else 0 := by
  rw [counter, increment, value_adjust]
  split <;> rfl

theorem gauge_setGauge (m : Metrics) (name other : String) (value : Nat) :
    (m.setGauge name value).gauge other = if other = name then value else m.gauge other := by
  rw [gauge, setGauge, value_adjust]
  rfl

end Metrics

/-- The counters of tasks and retries. -/
inductive Dial where
  | submitted (isRetry : Bool)
  | finished (status : TaskStatus)
  | retries (mode : RetryMode)
  | timeouts
  deriving DecidableEq

namespace Dial

def series : Dial → Series
  | submitted isRetry => Metrics.submittedSeries isRetry
  | finished status => Metrics.finishedSeries status
  | retries mode => Metrics.retriesSeries mode
  | timeouts => Metrics.timeoutsSeries

def every : List Dial :=
  [true, false].map submitted ++ TaskStatus.every.map finished ++ RetryMode.every.map retries ++ [timeouts]

theorem mem_every (d : Dial) : d ∈ every := by
  rcases d with (_ | _) | status | mode | _
  · decide
  · decide
  · cases status <;> decide
  · cases mode <;> decide
  · decide

theorem series_inj {d other : Dial} : d.series = other.series ↔ d = other := by
  have unique : (every.map series).Nodup := by decide
  exact ⟨List.inj_on_of_nodup_map unique d.mem_every other.mem_every, congrArg series⟩

/-- Errors are counted elsewhere. -/
theorem series_ne_errors (d : Dial) (code : ErrorCode) : d.series ≠ Metrics.errorsSeries code := by
  intro same
  have others : ∀ d ∈ every, d.series.name ≠ "reindex_errors_total" := by decide
  exact others d d.mem_every (congrArg Series.name same)

end Dial

/-! ### Panels -/

/-- What is read off the metrics of tasks and entries, next to what it is about. -/
structure Panel where
  dials : Dial → Nat
  depth : Nat
  running : Nat
  tasks : List Task
  size : Nat

namespace Panel

/-- A counter goes on by one. -/
def bump (p : Panel) (d : Dial) : Panel :=
  { p with dials := fun other => p.dials other + if other = d then 1 else 0 }

def showDepth (p : Panel) : Panel := { p with depth := p.size }

def showRunning (p : Panel) : Panel :=
  { p with running := p.tasks.countP fun t => t.status = .running }

/-- A task is created; `mode` is the mode of the entry that it retries, if it does. -/
def create (p : Panel) (t : Task) (mode : RetryMode) : Panel :=
  let created := { p with tasks := p.tasks ++ [t] }.bump (.submitted t.retryOf.isSome)
  if t.retryOf.isSome then created.bump (.retries mode) else created

/-- A task changes. -/
def change (p : Panel) (t : Task) : Panel := { p with tasks := Keyed.replaceBy (·.id) t p.tasks }

/-- The readings agree with tasks and entries; `timeouts` tasks were timed out. -/
structure Exact (p : Panel) (timeouts : Nat) : Prop where
  unique : (p.tasks.map (·.id)).Nodup
  submitted : ∀ isRetry, p.dials (.submitted isRetry) = p.tasks.countP fun t => t.retryOf.isSome == isRetry
  finished : ∀ status, status.isTerminal = true →
    p.dials (.finished status) = p.tasks.countP fun t => t.status = status
  retries : p.dials (.retries .auto) + p.dials (.retries .manual) =
    p.tasks.countP fun t => t.retryOf.isSome
  timeouts : p.dials .timeouts = timeouts
  depth : p.depth = p.size
  running : p.running = p.tasks.countP fun t => t.status = .running

variable {p : Panel} {n : Nat} {t : Task} {now : Instant}

/-- A count of tasks stays the same if it makes no difference between a task and its replacement. -/
theorem countP_change (unique : (p.tasks.map (·.id)).Nodup) (member : t ∈ p.tasks) {u : Task}
    (same : t.id = u.id) (f : Task → Bool) (alike : f u = f t) :
    (p.change u).tasks.countP f = p.tasks.countP f := by
  have counts := Keyed.countP_replaceBy unique member same f
  rw [alike] at counts
  exact Nat.add_right_cancel counts

theorem unique_change (unique : (p.tasks.map (·.id)).Nodup) (u : Task) :
    ((p.change u).tasks.map (·.id)).Nodup := by
  rw [change, Keyed.map_key_replaceBy]
  exact unique

namespace Exact

theorem create (exact : p.Exact n) (fresh : ∀ u ∈ p.tasks, u.id ≠ t.id) (waiting : t.status.isWaiting = true)
    (mode : RetryMode) : (p.create t mode).Exact n := by
  have tasks : (p.create t mode).tasks = p.tasks ++ [t] := by
    unfold Panel.create
    split <;> rfl
  have dials : ∀ d, (p.create t mode).dials d = p.dials d +
      (if d = .submitted t.retryOf.isSome then 1 else 0) +
      if d = .retries mode ∧ t.retryOf.isSome = true then 1 else 0 := by
    intro d
    unfold Panel.create
    split <;> simp [bump, *]
  have gauges : (p.create t mode).depth = p.depth ∧ (p.create t mode).size = p.size ∧
      (p.create t mode).running = p.running := by
    unfold Panel.create
    split <;> exact ⟨rfl, rfl, rfl⟩
  have other : ∀ status, status.isWaiting = false → t.status ≠ status := by
    rintro status moves rfl
    rw [waiting] at moves
    cases moves
  refine ⟨?_, fun isRetry => ?_, fun status terminal => ?_, ?_, ?_, ?_, ?_⟩
  · rw [tasks]
    exact Keyed.nodup_map_append exact.unique fresh
  · rw [dials, tasks, List.countP_append, exact.submitted]
    cases isRetry <;> cases retried : t.retryOf <;> simp [retried]
  · rw [dials, tasks, List.countP_append, exact.finished status terminal]
    simp [other status (TaskStatus.not_waiting_of_terminal terminal)]
  · have before := exact.retries
    rw [dials, dials, tasks, List.countP_append, ← before]
    cases mode <;> cases retried : t.retryOf <;> simp [retried] <;> omega
  · simp [dials, exact.timeouts]
  · rw [gauges.1, gauges.2.1, exact.depth]
  · rw [gauges.2.2, tasks, exact.running]
    simp [List.countP_append, other .running rfl]

theorem start (exact : p.Exact n) (member : t ∈ p.tasks) (waiting : t.status.isWaiting = true) :
    ((p.change (t.started now)).showRunning).Exact n where
  unique := unique_change exact.unique _
  submitted isRetry :=
    (exact.submitted isRetry).trans (countP_change exact.unique member (t.started_id now).symm _ rfl).symm
  finished status terminal := by
    have other : t.status ≠ status := fun same => by
      rw [same, TaskStatus.not_waiting_of_terminal terminal] at waiting
      cases waiting
    have running : TaskStatus.running ≠ status := fun same => by
      rw [← same] at terminal
      cases terminal
    refine (exact.finished status terminal).trans ?_
    refine (countP_change exact.unique member (t.started_id now).symm _ ?_).symm
    simp [other, running]
  retries := exact.retries.trans (countP_change exact.unique member (t.started_id now).symm _ rfl).symm
  timeouts := exact.timeouts
  depth := exact.depth
  running := rfl

theorem finish (exact : p.Exact n) (member : t ∈ p.tasks) (running : t.status = .running) (o : Outcome)
    (size : Nat) :
    (({ (p.change (t.ended o now)).bump (.finished o.status) with size }.showDepth).showRunning).Exact n where
  unique := unique_change exact.unique _
  submitted isRetry := by
    refine (exact.submitted isRetry).trans (countP_change exact.unique member (t.ended_id ..).symm _ ?_).symm
    rw [Task.ended_retryOf]
  finished status terminal := by
    have counts := Keyed.countP_replaceBy exact.unique member (t.ended_id o now).symm
      fun u => decide (u.status = status)
    have other : TaskStatus.running ≠ status := fun same => by
      rw [← same] at terminal
      cases terminal
    simp only [running, other, Task.ended_status, decide_eq_true_eq, if_false, Nat.add_zero] at counts
    have before := exact.finished status terminal
    change p.dials (.finished status) + (if Dial.finished status = .finished o.status then 1 else 0) =
      (Keyed.replaceBy _ _ p.tasks).countP _
    rw [counts, before]
    simp [eq_comm]
  retries := by
    refine exact.retries.trans (countP_change exact.unique member (t.ended_id ..).symm _ ?_).symm
    rw [Task.ended_retryOf]
  timeouts := exact.timeouts
  depth := rfl
  running := rfl

theorem timeOut (exact : p.Exact n) : (p.bump .timeouts).Exact (n + 1) where
  unique := exact.unique
  submitted := exact.submitted
  finished := exact.finished
  retries := exact.retries
  timeouts := by simp [bump, exact.timeouts]
  depth := exact.depth
  running := exact.running

theorem resize (exact : p.Exact n) (size : Nat) : ({ p with size }.showDepth).Exact n where
  unique := exact.unique
  submitted := exact.submitted
  finished := exact.finished
  retries := exact.retries
  timeouts := exact.timeouts
  depth := rfl
  running := exact.running

end Exact

end Panel

end Reindexing
