import ConnectionPool.Conformance.Run.Turn

/-!
# Performing a test

A run is played to its end: turns are taken as long as somebody has one, and the clock moves
when nobody has. A run that is not over when its time is up is stuck.
-/

namespace ConnectionPool.Conformance

/-- How long a run may take. -/
def runLimit : Duration := Duration.ofMilliseconds 60000

namespace Run

/-- Let time pass up to the instant. -/
def elapseTo (run : Run) (instant : Instant) : Run :=
  run.act (.elapse (instant - run.pool.now))

/-- Take turns until the run is over, at most so many, each either a turn or a move of the
clock. At the limit the main sequence has one more turn, and nobody else. -/
def play : Nat → Run → Run
  | 0, run => run
  | fuel + 1, run =>
      if run.result?.isSome then run
      else
        match run.ready? with
        | some turn => play fuel (run.take turn)
        | none =>
            match run.nextDue? with
            | none => run
            | some due =>
                if due < runLimit then play fuel (run.elapseTo due)
                else (run.elapseTo runLimit).advance

/-- A bound on the turns of a run. There is one instant a millisecond; at an instant each
operation has a few turns, and each acquisition, each timer and each connection up to the least
size too. -/
def effort (run : Run) : Nat :=
  (Duration.milliseconds runLimit + 1) *
    (32 * (run.operations.length + 2) * (run.pool.config.minPoolSize.toNat + 2))

end Run

namespace Test

/-- What a test comes to. -/
inductive Outcome where
  | passed
  | failed (failure : Failure)
  | stuck

/-- The run of a test against a pool that was just opened. -/
def run (test : Test) (pool : Pool) : Run :=
  let run := Run.observe { pool := pool, operations := test.operations }
  run.play run.effort

/-- Open a pool, run the test against it and give the verdict. A run that is not over in time is
stuck. The observer's clock shows `clock` when the pool's clock starts. -/
def perform (test : Test) (clock : Duration) : Outcome :=
  match Pool.create (test.options.apply {}) .simulated {} 0 with
  | .error fault => .failed (.wrongEnd (.unexpected (.pool (.configuration fault.message))))
  | .ok pool =>
      let run := test.run pool
      match run.result? with
      | none => .stuck
      | some result =>
          match test.check clock result run.recorder.events with
          | .ok () => .passed
          | .error failure => .failed failure

end Test

end ConnectionPool.Conformance
