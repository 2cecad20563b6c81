import ConnectionPool.Pool.Action

/-!
# Several pools under one clock

A system is a list of pools, the clock that they share and the log of all their events. Each
action happens to one pool; only time passes for all of them. Releasing a connection to a pool
that did not issue it is refused, and the connection goes back to its own pool.

Tripwires of one pool may go off for calls of another. After an action the system follows it up:
it puts the new events on its log, and gives up each such call at the event that set the
tripwire off.

The clock moves only when the system is settled, that is when no pool has anything to do at the
current instant, and then at most to the next instant at which there is something to do.
-/

namespace ConnectionPool

/-- Pools under one clock. `log` has the events of all pools in the order in which they were
emitted, each with the index of its pool. -/
structure System where
  now : Instant := 0
  pools : List Pool := []
  log : List (Nat × Event) := []

namespace System

/-- Take an action at the pool of the index. -/
def perform (system : System) (index : Nat) (action : Action) : Reply × System :=
  match system.pools[index]? with
  | none => (.done, system)
  | some pool =>
      let (reply, pool) := pool.perform action
      (reply, { system with pools := system.pools.set index pool })

/-- The system after an action at the pool of the index. -/
def after (system : System) (index : Nat) (action : Action) : System :=
  (system.perform index action).2

/-- Add a pool. -/
def add (system : System) (pool : Pool) : System :=
  { system with
    pools := system.pools ++ [pool]
    log := system.log ++ pool.log.map fun event => (system.pools.length, event) }

/-! ## Following up actions -/

/-- What is left to do after an action: events to put on the log, and calls to give up. -/
inductive Sequel where
  | events (pool : Nat) (events : List Event)
  | giveUp (call : Nat)

/-- The sequels of the events of a pool that follow the first `seen`, and of the departures among
them. -/
def sequelsFrom (index : Nat) (log : List Event) (seen : Nat) : List Departure → List Sequel
  | [] => [.events index (log.drop seen)]
  | departure :: rest =>
      .events index ((log.take departure.seen).drop seen) :: .giveUp departure.call ::
        sequelsFrom index log departure.seen rest

/-- The sequels of what happened to a pool meanwhile. -/
def sequels (index : Nat) (before after : Pool) : List Sequel :=
  sequelsFrom index after.log before.log.length
    (after.departures.drop before.departures.length)

/-- Follow up sequels and those that come of them, at most so many. -/
def followWithin : Nat → List Sequel → System → System
  | 0, _, system => system
  | _ + 1, [], system => system
  | fuel + 1, .events index events :: rest, system =>
      followWithin fuel rest
        { system with log := system.log ++ events.map fun event => (index, event) }
  | fuel + 1, .giveUp call :: rest, system =>
      match system.pools.zipIdx.find? fun (pool, _) => pool.isPending call with
      | none => followWithin fuel rest system
      | some (pool, index) =>
          let next := pool.after (.cancel call)
          followWithin fuel (sequels index pool next ++ rest)
            { system with pools := system.pools.set index next }

/-- The number of tripwires that have not gone off. -/
def tripwires (system : System) : Nat :=
  system.pools.foldl (fun count pool => count + pool.tripwires.length) 0

/-- Follow up what happened since `before`. Each call given up brings the events of its pool,
and each tripwire that goes off then brings up to three sequels, once. -/
def follow (system before : System) : System :=
  let pending := (before.pools.zip system.pools).zipIdx.flatMap fun ((before, after), index) =>
    sequels index before after
  followWithin (2 * pending.length + 3 * system.tripwires) pending system

/-! ## Time and connections of several pools -/

/-- Let time pass for all pools. -/
def elapse (system : System) (span : Duration) : System :=
  { system with
    now := system.now + span
    pools := system.pools.map fun pool => pool.after (.elapse span) }

/-- Release a connection that the pool `home` lent to the pool `index`. The key of the
connection is that of its home, whatever the ids of the two pools are. -/
def release (system : System) (index home connection : Nat) (force : Bool) : Reply × System :=
  if index = home then system.perform index (.release connection force)
  else
    match system.pools[index]?, (system.pools[home]?).bind (·.loan? connection) with
    | some pool, some loan =>
        if pool.held then
          (.returned (.error (pool.stock.foreignError loan.info)),
            system.after home (.drop connection))
        else (.done, system)
    | _, _ => (.noLoan, system)

/-- An action that is to happen at this instant, and the index of its pool. -/
def ready? (system : System) : Option (Nat × Action) :=
  go 0 system.pools
where
  /-- Look through the pools from this index on. -/
  go (index : Nat) : List Pool → Option (Nat × Action)
    | [] => none
    | pool :: rest =>
        match pool.ready? with
        | some action => some (index, action)
        | none => go (index + 1) rest

/-- The next instant at which there is something to do. -/
def nextDue? (system : System) : Option Instant :=
  (system.pools.filterMap Pool.nextDue?).min?

/-- A bound on the number of actions that a pool can take at one instant: each call, timer and
run loop a few, and each population a few for every connection up to the least size. -/
def effort (pool : Pool) : Nat :=
  8 * (pool.calls.length + pool.timers.length + pool.runLoops.length +
    pool.populations.length + 2) *
    (pool.config.minPoolSize.toNat + 2)

/-- Take the actions of this instant, at most so many. -/
def settleWithin : Nat → System → System
  | 0, system => system
  | fuel + 1, system =>
      match system.ready? with
      | none => system
      | some (index, action) => settleWithin fuel ((system.after index action).follow system)

/-- Take all actions of this instant. -/
def settle (system : System) : System :=
  system.settleWithin (system.pools.foldl (fun bound pool => bound + effort pool) 1)

/-- Move the clock of a settled system to the next instant at which there is something to do,
and no further than the limit. At the limit it stays. -/
def advance (system : System) (limit : Instant) : System :=
  match system.nextDue? with
  | some due => system.elapse (min due limit - system.now)
  | none => system.elapse (limit - system.now)

/-- Settle instant after instant until the limit is reached and settled; at most so many
instants. -/
def runUntil (limit : Instant) : Nat → System → System
  | 0, system => system.settle
  | fuel + 1, system =>
      let system := system.settle
      if limit ≤ system.now then system else runUntil limit fuel (system.advance limit)

/-- Let so many milliseconds pass. Everything is due at whole milliseconds. -/
def wait (system : System) (milliseconds : Nat) : System :=
  system.runUntil (system.now + Duration.ofMilliseconds milliseconds) (milliseconds + 1)

/-- Settle instant after instant until the pool of the index is open; at most so many instants. -/
def untilOpen (index : Nat) : Nat → System → System
  | 0, system => system.settle
  | fuel + 1, system =>
      let system := system.settle
      match system.pools[index]? with
      | none => system
      | some pool =>
          if pool.isOpen then system
          else
            match system.nextDue? with
            | none => system
            | some due => untilOpen index fuel (system.elapse (due - system.now))

/-- Add a pool and wait until it is open. No instant passes without a connect under way, and
there are at most as many as the least size. -/
def openPool (system : System) (pool : Pool) : System :=
  let milliseconds := pool.stock.network.connectDelay.milliseconds
  (system.add pool).untilOpen system.pools.length
    ((milliseconds + 1) * (pool.config.minPoolSize.toNat + 1) + 1)

end System

end ConnectionPool
