import Reindexing.Engine

/-!
# Event loop

Runs and the scheduler take turns in a virtual time of whole milliseconds that
the engine's clock knows nothing of. What is ready proceeds in order; what waits
for a time proceeds when that time comes, the earliest first. A run waits for
the delay of its runner, and the scheduler for its poll interval.
-/
namespace Reindexing

structure SchedulerStats where
  ticks : Nat
  retried : Nat
  timedOut : Nat
  deriving DecidableEq, Repr

/-- A scheduler that was started. -/
structure Scheduler where
  poll : Span
  stats : SchedulerStats
  deriving DecidableEq, Repr

/-- What can proceed. -/
inductive Work where
  | beginRun (run : Run)
  | endRun (run : Run)
  | beginScheduler
  | tick
  deriving DecidableEq, Repr

structure EventLoop where
  engine : Engine
  /-- The virtual time in milliseconds. -/
  time : Nat
  /-- Work that can proceed, in order. -/
  ready : List Work
  /-- Work that waits for a time, in the order in which the waits began. -/
  waiting : List (Nat × Work)
  scheduler : Option Scheduler

namespace EventLoop

def ofEngine (engine : Engine) : EventLoop := ⟨engine, 0, [], [], none⟩

def target : String := "reindex_core::jobs::scheduler"

/-- Takes over the runs that the engine has dispatched. -/
def collect (l : EventLoop) : EventLoop :=
  { l with
    engine := { l.engine with dispatched := [] }
    ready := l.ready ++ l.engine.dispatched.map .beginRun }

/-- Applies an operation of the engine. -/
def onEngine (l : EventLoop) (f : Engine → Engine × α) : EventLoop × α :=
  let (engine, a) := f l.engine
  ({ l with engine }.collect, a)

/-- Whole milliseconds of a wait, rounded up and at least one. -/
def waitMillis (s : Span) : Nat := max 1 ((s.nanos + 999999) / 1000000)

def wait (l : EventLoop) (s : Span) (work : Work) : EventLoop :=
  { l with waiting := l.waiting ++ [(l.time + waitMillis s, work)] }

def lateEvent (id : TaskId) : LogEvent :=
  ⟨.warn, Engine.engineTarget, "Runner reported after the task was already finished",
    [("task_id", .shown id.toText)], []⟩

/-- Delivers the report of a run. -/
def deliver (e : Engine) (id : TaskId) (outcome : Outcome) : Engine :=
  match e.recordOutcome id outcome with
  | (e, .ok _) => e
  | (e, .error (.outcomeRecorded ..)) => e.tell (lateEvent id)
  | (e, .error r) => e.tell (Error.ofRefusal r).event

/-- Ends a run: its outcome is reported inside the span of the run. -/
def endRun (l : EventLoop) (run : Run) : EventLoop :=
  match l.engine.runner.finish with
  | (_, none) => l
  | (runner, some outcome) =>
    let engine := { l.engine with runner }
    { l with engine := engine.inside run.surroundings (deliver · run.request.task outcome) }

def startedEvent (poll : Span) : LogEvent :=
  ⟨.info, target, "Retry scheduler started", [("poll_interval_ms", .number poll.millis)], []⟩

def tickEvent (r : TickReport) : LogEvent :=
  ⟨.info, target, "Scheduler tick",
    [("retried", .number r.retried.length), ("timed_out", .number r.timedOut.length),
      ("skipped", .number r.skipped.length), ("cooldowns_cleared", .number r.cooldownsCleared)], []⟩

def SchedulerStats.add (s : SchedulerStats) (r : TickReport) : SchedulerStats :=
  ⟨s.ticks + 1, s.retried + r.retried.length, s.timedOut + r.timedOut.length⟩

/-- Work proceeds. Only a tick makes further work ready. -/
def proceed (l : EventLoop) (work : Work) : EventLoop :=
  match work with
  | .beginRun run =>
    let l := { l with engine := { l.engine with runner := l.engine.runner.start run.request } }
    if l.engine.runner.delay.isZero then l.endRun run else l.wait l.engine.runner.delay (.endRun run)
  | .endRun run => l.endRun run
  | .beginScheduler =>
    match l.scheduler with
    | none => l
    | some s => { l with engine := l.engine.tell (startedEvent s.poll) }.wait s.poll .tick
  | .tick =>
    match l.scheduler with
    | none => l
    | some s =>
      let (l, report) := l.onEngine Engine.tick
      let l := { l with scheduler := some { s with stats := SchedulerStats.add s.stats report } }
      let l := if report.retried.isEmpty && report.timedOut.isEmpty then l
        else { l with engine := l.engine.tell (tickEvent report) }
      l.wait s.poll .tick

/-- All work that is ready proceeds. -/
def proceedAll (l : EventLoop) : EventLoop := l.ready.foldl proceed { l with ready := [] }

/-- Work proceeds until nothing is ready: what is ready now, and the runs that it dispatches. -/
def settle (l : EventLoop) : EventLoop := l.collect.proceedAll.proceedAll

/-- The time of the earliest wait that ends before `limit`. -/
def nextTime? (l : EventLoop) (limit : Nat) : Option Nat :=
  ((l.waiting.map (·.1)).filter (· < limit)).min?

/-- Time passes to `time`, where waits end. -/
def advance (l : EventLoop) (time : Nat) : EventLoop :=
  { l with
    time
    ready := l.ready ++ (l.waiting.filter fun w => w.1 = time).map (·.2)
    waiting := l.waiting.filter fun w => w.1 ≠ time }

/-- Time passes until `limit`; what becomes ready only then has its turn later. Every wait takes at
least one millisecond, so that `steps` need not exceed the milliseconds that are left. -/
def passUntil (l : EventLoop) (limit : Nat) : Nat → EventLoop
  | 0 => l.advance limit
  | steps + 1 =>
    match l.nextTime? limit with
    | none => l.advance limit
    | some time => (l.advance time).settle.passUntil limit steps

/-- So many milliseconds of virtual time pass. Without any, nothing has its turn. -/
def runFor (l : EventLoop) (millis : Nat) : EventLoop :=
  if millis = 0 then l else l.settle.passUntil (l.time + millis) (millis + 1)

/-- Starts the scheduler, which begins when it is its turn. -/
def startScheduler (l : EventLoop) (poll : Span) : EventLoop :=
  { l with
    scheduler := some ⟨poll, ⟨0, 0, 0⟩⟩
    ready := l.ready ++ [.beginScheduler]
    waiting := l.waiting.filter fun w => w.2 ≠ .tick }

def stoppingEvent : LogEvent := ⟨.info, target, "Retry scheduler shutting down", [], []⟩

def stoppedEvent : LogEvent := ⟨.info, target, "Retry scheduler stopped", [], []⟩

/-- Stops the scheduler after everything that is ready has proceeded. -/
def stopScheduler (l : EventLoop) : EventLoop × Option SchedulerStats :=
  match l.scheduler with
  | none => (l, none)
  | some _ =>
    let l := l.settle
    let engine := (l.engine.tell stoppingEvent).tell stoppedEvent
    ({ l with engine, scheduler := none, waiting := l.waiting.filter fun w => w.2 ≠ .tick },
      l.scheduler.map (·.stats))

end EventLoop

end Reindexing
