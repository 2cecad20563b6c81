/-!
# Time

Durations and instants are counted in nanoseconds; an instant is the time since the clock
started. The clock counts its seconds in 64 bits with a sign, so it has a latest instant, while
a duration may be longer than that. An instant that a setting puts beyond the latest does not
exist, and `Instant.add?` says so. The clock itself never gets near its end, so the ticks that
follow the first one of a task are reckoned without that limit.
-/

namespace ConnectionPool

/-- A span of time in nanoseconds. -/
abbrev Duration := Nat

/-- A point in time, in nanoseconds since the clock started. -/
abbrev Instant := Nat

namespace Duration

/-- The span of `n` milliseconds. -/
def ofMilliseconds (n : Nat) : Duration := 1000000 * n

/-- The whole milliseconds of the span. -/
def milliseconds (d : Duration) : Nat := d / 1000000

/-- The span of whole seconds and further nanoseconds. -/
def ofParts (seconds nanoseconds : Nat) : Duration := 1000000000 * seconds + nanoseconds

/-- The whole seconds of the span and the nanoseconds beyond them. -/
def parts (d : Duration) : Nat × Nat := (d / 1000000000, d % 1000000000)

end Duration

namespace Instant

/-- The latest instant of the clock. -/
def latest : Instant := Duration.ofParts 0x7fffffffffffffff 999999999

/-- The instant that is the span later, unless it is beyond the latest. -/
def add? (instant : Instant) (span : Duration) : Option Instant :=
  if instant + span ≤ latest then some (instant + span) else none

/-- An instant that exists is the span later. -/
theorem add_eq_some {instant later : Instant} {span : Duration}
    (h : instant.add? span = some later) : later = instant + span := by
  unfold add? at h
  split at h
  · exact (Option.some.inj h).symm
  · cases h

/-- An instant that is too far away once is too far away later. -/
theorem add_none_later {instant later : Instant} {span : Duration} (hle : instant ≤ later)
    (h : instant.add? span = none) : later.add? span = none := by
  unfold add? at h ⊢
  split at h
  · cases h
  · next hbeyond =>
      exact if_neg fun hwithin => hbeyond (Nat.le_trans (Nat.add_le_add_right hle span) hwithin)

end Instant

/-- A tick that comes more than this after it was due moves the ticks that follow. -/
def lateTick : Duration := Duration.ofMilliseconds 5

/-- When the next tick is due after the one that was due at `due` and taken at `taken`: one period
after it was due, or one period after it was taken if it came late. -/
def nextTick (due taken : Instant) (period : Duration) : Instant :=
  if taken ≤ due + lateTick then due + period else taken + period

end ConnectionPool
