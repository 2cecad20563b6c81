import ConnectionPool.Pool.Basic

/-!
# Serving the wait queue

The answers of the queue go to the calls that wait as its members. A tick of the run loop finds
a connection for the head of the line, and while it does so waiting callers may go away, of
themselves or because of an event that the tick emits. If the head itself does, the connection
goes back to the pool.
-/

namespace ConnectionPool.Pool

/-- Give an answer to the call that waits as the member. -/
def deliver (pool : Pool) (answer : Nat × Except PoolError Connection) : Pool :=
  { pool with
    calls := pool.calls.map fun call =>
      match call.phase with
      | .queued member =>
          if member = answer.1 then { call with phase := .answered answer.2 } else call
      | _ => call }

/-- Take over the outcome of an operation on the queue. -/
def settle (pool : Pool) (outcome : WaitQueue.Outcome Nat Connection) : Pool :=
  let pool := outcome.answers.foldl deliver pool
  { pool with
    queue := outcome.queue
    timers := pool.timers.filter fun timer => timer.member ∉ outcome.aborted }

/-- The caller goes away while it waits: in line, or for a look at an error. One that holds a
connection stays, since it would have to return it to a pool that is busy. -/
def loseWaiter (pool : Pool) (id : Nat) : Pool :=
  match (pool.call? id).map Call.phase with
  | some (.queued member) => { pool.removeCall id with queue := pool.queue.abandon member }
  | some (.answered (.error _)) => pool.removeCall id
  | _ => pool

/-- A tripwire goes off for a caller at the event of this place in the log. One that is not the
pool's own is put down among the departures. -/
def sendAway (pool : Pool) (id place : Nat) : Pool :=
  if pool.isPending id then pool.loseWaiter id
  else { pool with departures := pool.departures ++ [⟨id, place + 1⟩] }

/-- Let the tripwires see this event. -/
def fireAt (pool : Pool) (event : Event) (place : Nat) : Pool :=
  let (hit, rest) := pool.tripwires.partition fun wire => event.type == wire.type
  hit.foldl (fun pool wire => pool.sendAway wire.call place) { pool with tripwires := rest }

/-- Let the tripwires see the events of the log from this place on. -/
def fire (pool : Pool) (place : Nat) : Pool :=
  ((pool.log.drop place).zipIdx place).foldl (fun pool (event, place) => pool.fireAt event place)
    pool

/-- The callers go away one after the other. -/
def loseAll (pool : Pool) (ids : List Nat) : Pool :=
  ids.foldl loseWaiter pool

/-- Attend to the head of the line once. If a connection is to be found for it, the callers in
`lost` go away meanwhile. The result says whether the run loop goes on. -/
def attend (pool : Pool) (lost : List Nat) : Bool × Pool :=
  if pool.queue.asks then
    let (resource, stock) := pool.stock.lend
    let pool := ({ pool with stock := stock }.fire pool.log.length).loseAll lost
    let (tick, outcome) := pool.queue.serve resource
    let pool := pool.settle outcome
    match tick with
    | .unclaimed connection => (true, { pool with stock := pool.stock.reclaim connection })
    | .stopped => (false, pool)
    | _ => (true, pool)
  else
    match pool.queue.pass with
    | (.stopped, outcome) => (false, pool.settle outcome)
    | (_, outcome) => (true, pool.settle outcome)

/-- A tick of a run loop, if it is due, and the callers that go away while it looks for a
connection. A run loop that stops is gone. -/
def tick (pool : Pool) (id : Nat) (lost : List Nat) : Pool :=
  match pool.runLoops.find? fun loop => loop.id == id with
  | none => pool
  | some loop =>
      if loop.due ≤ pool.now then
        match pool.attend lost with
        | (true, next) =>
            { next with
              runLoops := next.runLoops.map fun other =>
                if other.id = id then
                  { other with due := nextTick loop.due pool.now pool.config.waitQueuePeriod }
                else other }
        | (false, next) =>
            { next with
              runLoop := none
              runLoops := next.runLoops.filter fun other => other.id != id }
      else pool

/-- The member's timer, if it is due, ends its wait. -/
def expire (pool : Pool) (member : Nat) : Pool :=
  if pool.timers.any fun timer => timer.member ==
    member && decide (timer.deadline ≤ pool.now) then
    let rest := { pool with timers := pool.timers.filter fun timer => timer.member != member }
    match pool.queue.expire member with
    | some outcome => rest.settle outcome
    | none => rest
  else pool

end ConnectionPool.Pool
