import ConnectionPool.Event

/-!
# Recording events and waiting for them

A recorder keeps every event it is told of and then gives notice to those who wait. A watcher
waits until enough events of one type are on record. It takes note of the notices given so far
before it counts, so that a notice given after its count keeps it from sleep, or wakes it.
-/

namespace ConnectionPool

/-- The events on record, and how often notice was given. -/
structure Recorder where
  events : List Event := []
  notices : Nat := 0
  deriving Repr, Inhabited

namespace Recorder

/-- Put an event on record. -/
def push (recorder : Recorder) (event : Event) : Recorder :=
  { recorder with events := recorder.events ++ [event] }

/-- Give notice to those who wait. -/
def notify (recorder : Recorder) : Recorder :=
  { recorder with notices := recorder.notices + 1 }

/-- Put an event on record and give notice. -/
def record (recorder : Recorder) (event : Event) : Recorder :=
  (recorder.push event).notify

/-- Forget the events. -/
def clear (recorder : Recorder) : Recorder :=
  { recorder with events := [] }

/-- How many events of the type are on record. -/
def count (recorder : Recorder) (typeName : String) : Nat :=
  recorder.events.countP fun event => event.typeName == typeName

end Recorder

/-- Where a watcher is. `checking` is about to count, and `lacking` has counted too few and is
about to go to sleep. These two and `suspended` carry the number of notices given when the
watcher last took note of them. -/
inductive WatchPhase where
  | starting
  | checking (notices : Nat)
  | lacking (notices : Nat)
  | suspended (notices : Nat)
  | reached
  deriving DecidableEq, Repr

/-- Someone who waits until `count` events of the type are on record. -/
structure Watcher where
  typeName : String
  count : Nat
  phase : WatchPhase := .starting
  deriving DecidableEq, Repr

namespace Watcher

/-- One step: take note of the notices, count and be done, or go to sleep; one to whom notice
was given since does not go to sleep, or wakes. -/
def step (recorder : Recorder) (watcher : Watcher) : Watcher :=
  match watcher.phase with
  | .starting => { watcher with phase := .checking recorder.notices }
  | .checking notices =>
      if watcher.count ≤ recorder.count watcher.typeName then { watcher with phase := .reached }
      else { watcher with phase := .lacking notices }
  | .lacking notices =>
      if notices < recorder.notices then { watcher with phase := .starting }
      else { watcher with phase := .suspended notices }
  | .suspended notices =>
      if notices < recorder.notices then { watcher with phase := .starting } else watcher
  | .reached => watcher

/-- Run until the watcher sleeps or is done; from any phase that takes at most four steps. -/
def poll (recorder : Recorder) (watcher : Watcher) : Watcher :=
  step recorder (step recorder (step recorder (step recorder watcher)))

/-- The events were seen. -/
def isDone (watcher : Watcher) : Bool :=
  watcher.phase == .reached

end Watcher

end ConnectionPool
