import ConnectionPool.Recorder
import ConnectionPool.Scenario.Setup

/-!
# Scenarios

A scenario is a script over several pools. Its steps name calls and connections, and the names
are shared by all pools: a name belongs to a pending call or to a connection that is kept, never
to both. Every step is followed by everything that can happen at that instant, and then reported
with the events and the ends of calls since the last report.
-/

namespace ConnectionPool

/-- One step of a scenario. Pools are named by their place in the list of setups. -/
inductive Scenario.Step where
  | acquire (pool : Nat) (name : String)
  | ensureMin (pool : Nat) (name : String)
  | tryAcquire (pool : Nat) (name : String)
  | release (pool : Nat) (connection : String) (force : Bool)
  | drop (connection : String)
  | write (connection : String) (bytes : Nat)
  | establish (connection : String)
  | destroyConnection (connection : String)
  | inspect (connection : String)
  | cancel (name : String)
  | cancelOn (pool : Nat) (event : String) (name : String)
  | clear (pool : Nat)
  | close (pool : Nat)
  | destroy (pool : Nat)
  | dropPool (pool : Nat)
  | failNext (pool count : Nat)
  | failAll (pool : Nat) (on : Bool)
  | connectDelay (pool milliseconds : Nat)
  | network (pool : Nat)
  | wait (milliseconds : Nat)
  | waitFor (pool : Nat) (event : String) (count milliseconds : Nat)
  | recorded (pool : Nat)
  | clearRecorder (pool : Nat)
  | subscribe (pool : Nat) (name : String)
  | receive (name : String)
  | unsubscribe (name : String)
  | metrics (pool : Nat)
  | info (pool : Nat)

/-- What a subscriber receives: an event, the number of events that it lost, or the end. -/
inductive Scenario.Received where
  | event (typeName : String)
  | lagged (count : Nat)
  | closed

/-- What a step comes to. -/
inductive Scenario.Answer where
  | done
  | noPool
  | nameTaken
  | noConnection
  | noSubscription
  | ok
  | nothing
  | cancelled
  | notRunning
  | flag (value : Bool)
  | connection (connection : ConnectionInfo)
  | poolError (error : PoolError)
  | linkError (error : LinkError)
  | network (network : Network)
  | types (names : List String)
  | received (items : List Scenario.Received)
  | metrics (metrics : Metrics) (uptime : Duration)
  | inspected (connection : Connection) (now : Instant) (debug : String)
  | info (pool : Pool) (debug : String)

/-- A pool of the scenario. `pool` is its index in the system, if it could be opened; `observed`
says that there are observers; `fed` counts the events given to the recorder, `ended` the ends
of calls reported so far. -/
structure Scenario.Slot where
  pool : Option Nat
  observed : Bool
  recorder : Recorder := {}
  fed : Nat := 0
  ended : Nat := 0

/-- A connection that is kept under a name. -/
structure Scenario.Kept where
  ticket : Nat
  slot : Nat
  connection : Nat

/-- A subscriber of a pool's events and the place of the next event it is to receive. -/
structure Scenario.Subscription where
  name : String
  slot : Nat
  next : Nat

/-- A scenario at one moment. A name's ticket is its place in `names`; `reported` counts the
events reported so far. -/
structure Scenario where
  system : System := {}
  slots : List Scenario.Slot := []
  names : List String := []
  kept : List Scenario.Kept := []
  subscriptions : List Scenario.Subscription := []
  reported : Nat := 0

/-- What is reported after a step. A pool that could not be opened or whose handle is gone has no
status. -/
structure Scenario.Report where
  time : Instant
  answer : Scenario.Answer
  ended : List (Instant × String × CallResult)
  events : List (Nat × Event)
  status : List (Option (Pool.Status × Bool))

namespace Scenario

/-- The ticket of a name, which is written down if it is new. -/
def ticket (scenario : Scenario) (name : String) : Nat × Scenario :=
  let place := scenario.names.idxOf name
  if place < scenario.names.length then (place, scenario)
  else (place, { scenario with names := scenario.names ++ [name] })

/-- The pool of a slot and its index, if it could be opened. -/
def pool? (scenario : Scenario) (slot : Nat) : Option (Nat × Pool) :=
  (scenario.slots[slot]?).bind fun entry =>
    entry.pool.bind fun index => (scenario.system.pools[index]?).map fun pool => (index, pool)

/-- The pool of a slot and its index, while its handle is there. -/
def held? (scenario : Scenario) (slot : Nat) : Option (Nat × Pool) :=
  (scenario.pool? slot).filter fun entry => entry.2.held

/-- The name belongs to a pending call or a kept connection. -/
def isTaken (scenario : Scenario) (ticket : Nat) : Bool :=
  (scenario.kept.any fun entry => entry.ticket == ticket) ||
    scenario.system.pools.any fun pool => pool.isPending ticket

/-- The connection kept under the name. -/
def kept? (scenario : Scenario) (name : String) : Option Kept :=
  scenario.kept.find? fun entry => scenario.names[entry.ticket]? == some name

/-- Keep a connection of a pool under a name no more. -/
def forget (scenario : Scenario) (ticket : Nat) : Scenario :=
  { scenario with kept := scenario.kept.filter fun entry => entry.ticket != ticket }

/-- The kept connection, with its pool and the pool's index. -/
def borrowed? (scenario : Scenario) (name : String) : Option (Kept × Nat × Pool × Connection) :=
  (scenario.kept? name).bind fun entry =>
    (scenario.pool? entry.slot).bind fun (index, pool) =>
      (pool.loan? entry.connection).map fun connection => (entry, index, pool, connection)

/-- The scenario with another system, after what led to it was followed up. -/
def goOn (scenario : Scenario) (system : System) : Scenario :=
  { scenario with system := system.follow scenario.system }

/-- Take an action at the pool of an index. -/
def act (scenario : Scenario) (index : Nat) (action : Action) : Reply × Scenario :=
  let (reply, system) := scenario.system.perform index action
  (reply, scenario.goOn system)

/-- The observed slot of the pool of an index. -/
def observedSlot? (scenario : Scenario) (index : Nat) : Option Nat :=
  scenario.slots.findIdx? fun slot => slot.observed && slot.pool == some index

/-- The events of the pool that the recorder does not know yet go to it. -/
def feedSlot (system : System) (slot : Slot) : Slot :=
  match slot.pool.bind (system.pools[·]?) with
  | some pool =>
      { slot with
        recorder := if slot.observed then (pool.log.drop slot.fed).foldl
          Recorder.record slot.recorder
          else slot.recorder
        fed := pool.log.length }
  | none => slot

/-- Settle the system and give the new events to the recorders. -/
def settle (scenario : Scenario) : Scenario :=
  let system := scenario.system.settle
  { scenario with system := system, slots := scenario.slots.map (feedSlot system) }

end Scenario

end ConnectionPool
