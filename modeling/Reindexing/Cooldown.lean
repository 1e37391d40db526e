import Reindexing.Time.Span

/-!
# Cooldowns

How long an entry waits before its next automatic retry: `base` doubled for
every attempt, up to `max`. A random part of at most `jitter` times the wait may
be added, which never lifts the wait above `max`. The sum is formed before it is
cut at `max`, and where it is longer than the longest span there is no wait at
all. A wait that ends after the latest instant ends there.
-/
namespace Reindexing

structure CooldownPolicy where
  base : Span
  max : Span
  jitter : Float

namespace CooldownPolicy

/-- A policy without jitter; the ceiling is at least the base. -/
def ofSpans (base max : Span) : CooldownPolicy := ⟨base, Max.max max base, 0.0⟩

/-- The policy with jitter, kept between zero and one. -/
def withJitter (p : CooldownPolicy) (factor : Float) : CooldownPolicy :=
  { p with jitter := if factor < 0.0 then 0.0 else if 1.0 < factor then 1.0 else factor }

/-- The largest count of attempts whose power of two is formed. -/
def maxDoublings : Nat := 31

/-- The wait after so many attempts, without jitter. -/
def nextCooldown (p : CooldownPolicy) (attempts : Nat) : Span :=
  if attempts ≤ maxDoublings then
    match p.base.scale? (Nat.pow 2 attempts) with
    | some delay => min delay p.max
    | none => p.max
  else p.max

/-- The most milliseconds that jitter may add to a wait. -/
def spreadMillis (p : CooldownPolicy) (delay : Span) : Nat :=
  if 0.0 < p.jitter then (Float.ofNat delay.millis * p.jitter).toUInt64.toNat else 0

/-- The wait with the random part that `draw` chooses, unless their sum is no span. -/
def jitteredCooldown (p : CooldownPolicy) (attempts draw : Nat) : Option Span :=
  let delay := p.nextCooldown attempts
  let spread := p.spreadMillis delay
  if spread = 0 then some delay
  else (delay.add? (.ofMillis (min draw spread))).map fun sum => min sum p.max

/-- The end of a wait of this length. -/
def endOf (delay : Span) (start : Instant) : Instant :=
  ((delay.toDelta?).bind start.add?).getD .latest

/-- The latest end of a wait that starts at this time. -/
def ceiling (p : CooldownPolicy) (start : Instant) : Instant := endOf p.max start

/-- When an entry with so many attempts may be retried again, unless there is no wait for it. -/
def cooldownUntil (p : CooldownPolicy) (attempts draw : Nat) (start : Instant) : Option Instant :=
  (p.jitteredCooldown attempts draw).map fun delay => endOf delay start

/-- The end of a wait; where there is none, the latest end stands in for it. -/
def keptUntil (p : CooldownPolicy) (attempts draw : Nat) (start : Instant) : Instant :=
  (p.cooldownUntil attempts draw start).getD (p.ceiling start)

end CooldownPolicy

end Reindexing
