import ConnectionPool.Pool.Inventory
import ConnectionPool.WaitQueue.Basic

/-!
# Pools

A pool is its inventory, its wait queue, the tasks that serve them and everyone who has a part
in it: the calls that are waiting for a connection, the populations that fill the pool up to its
least size, and the connections on loan. A call says with its phase what it waits for and which
connection it holds.

Tasks are the run loops, the timers of queued members and the maintenance task. The pool exists
as long as somebody has a part in it; when the last of them goes, the idle connections go too.
-/

namespace ConnectionPool

/-- Where an acquisition is. `entering` is about to enter the queue; `answered` has its answer
and has not looked at it; `connecting` waits for the link of a connection it was given;
`connected` has the outcome of that and has not told the pool. -/
inductive Phase where
  | entering (readmitted : Bool)
  | queued (member : Nat)
  | answered (answer : Except PoolError Connection)
  | connecting (connection : Connection) (due : Instant)
  | connected (connection : Connection) (outcome : Except LinkError Unit)

/-- The connection that a call in this phase holds. -/
def Phase.connection? : Phase → Option Connection
  | .answered (.ok connection) => some connection
  | .connecting connection _ => some connection
  | .connected connection _ => some connection
  | _ => none

/-- An acquisition that is not over. All its waits in the queue end at `deadline`. -/
structure Call where
  id : Nat
  deadline : Option Instant
  phase : Phase

/-- Who runs a population: the opening of the pool, a call, or the maintenance task. -/
inductive Owner where
  | opening
  | call (id : Nat)
  | maintenance
  deriving DecidableEq, Repr

/-- Where a population is. -/
inductive PopulationPhase where
  | reserving
  | connecting (connection : Connection) (due : Instant)
  | connected (connection : Connection) (outcome : Except LinkError Unit)

/-- The connection that a population in this phase is establishing. -/
def PopulationPhase.connection? : PopulationPhase → Option Connection
  | .reserving => none
  | .connecting connection _ => some connection
  | .connected connection _ => some connection

/-- A run that makes connections until the pool has its least size. `added` counts those it has
made idle. -/
structure Population where
  owner : Owner
  added : Nat
  phase : PopulationPhase

/-- A run loop of the wait queue and the instant of its next tick. -/
structure RunLoop where
  id : Nat
  due : Instant
  deriving DecidableEq, Repr

/-- A timer that ends the wait of a member. -/
structure Timer where
  member : Nat
  deadline : Instant
  deriving DecidableEq, Repr

/-- An observer that makes the caller go away when an event of the type is emitted, once. The
caller may be one of another pool. -/
structure Tripwire where
  type : EventType
  call : Nat
  deriving DecidableEq, Repr

/-- A tripwire went off for a call of another pool. `seen` counts the events of the pool's log
up to the one that set it off. -/
structure Departure where
  call : Nat
  seen : Nat
  deriving DecidableEq, Repr

/-- How a call ended. -/
inductive CallResult where
  | acquired (connection : ConnectionInfo)
  | populated (added : Nat)
  | failed (error : PoolError)
  deriving DecidableEq, Repr

/-- A call that ended by itself, and when. -/
structure Completion where
  time : Instant
  call : Nat
  result : CallResult
  deriving DecidableEq, Repr

/-- A pool. `runLoop` is the run loop that the pool knows of, `runLoops` are those that are
live; `maintenance` is the instant of the maintenance task's next tick; `departures` are the
tripwires that went off for calls that are not the pool's own, oldest first; `held` says that
the pool's handle is still there. -/
structure Pool where
  stock : Inventory
  queue : WaitQueue Nat
  runLoops : List RunLoop := []
  runLoop : Option Nat := none
  nextRunLoop : Nat := 0
  timers : List Timer := []
  maintenance : Option Instant := none
  calls : List Call := []
  populations : List Population := []
  loans : List Connection := []
  tripwires : List Tripwire := []
  departures : List Departure := []
  results : List Completion := []
  openedAt : Instant
  held : Bool := true

namespace Pool

/-- The current instant. -/
def now (pool : Pool) : Instant :=
  pool.stock.now

/-- The events so far, oldest first. -/
def log (pool : Pool) : List Event :=
  pool.stock.log

/-- The settings. -/
def config (pool : Pool) : Config :=
  pool.stock.config

/-- The pool is closed. -/
def isClosed (pool : Pool) : Bool :=
  pool.stock.closed

/-- Somebody has a part in the pool: its handle, a call, a population or a connection on loan. -/
def isAlive (pool : Pool) : Bool :=
  pool.held || !pool.calls.isEmpty || !pool.populations.isEmpty || !pool.loans.isEmpty

/-- The call of the id. -/
def call? (pool : Pool) (id : Nat) : Option Call :=
  pool.calls.find? fun call => call.id == id

/-- The population of the owner. -/
def population? (pool : Pool) (owner : Owner) : Option Population :=
  pool.populations.find? fun population => population.owner == owner

/-- The id is that of a call that is not over. -/
def isPending (pool : Pool) (id : Nat) : Bool :=
  (pool.call? id).isSome || (pool.population? (.call id)).isSome

/-- The connection on loan of the id. -/
def loan? (pool : Pool) (id : Nat) : Option Connection :=
  pool.loans.find? fun connection => connection.id == id

/-- The pool was opened and has been filled for the first time. -/
def isOpen (pool : Pool) : Bool :=
  (pool.population? .opening).isNone

/-- Move a call on to another phase. -/
def setPhase (pool : Pool) (id : Nat) (phase : Phase) : Pool :=
  { pool with
    calls := pool.calls.map fun call =>
      if call.id = id then { call with phase := phase } else call }

/-- Take a call off the list. -/
def removeCall (pool : Pool) (id : Nat) : Pool :=
  { pool with calls := pool.calls.filter fun call => call.id != id }

/-- End a call with a result. -/
def complete (pool : Pool) (id : Nat) (result : CallResult) : Pool :=
  { pool.removeCall id with results := pool.results ++ [⟨pool.now, id, result⟩] }

/-- End an acquisition with an error and record it. -/
def failCall (pool : Pool) (id : Nat) (error : PoolError) : Pool :=
  { pool with stock := pool.stock.fail error }.complete id (.failed error)

/-- The counts that callers may ask for. -/
structure Status where
  available : Nat
  inUse : Nat
  total : Nat
  max : UInt32
  waiting : Nat
  generation : Nat
  deriving DecidableEq, Repr

/-- The counts at this moment. -/
def status (pool : Pool) : Status where
  available := pool.stock.available.length
  inUse := pool.stock.checkedOut.length
  total := pool.stock.total
  max := pool.config.maxPoolSize
  waiting := pool.queue.members.length
  generation := pool.stock.generation

/-- The share of the greatest size that is on loan, in percent, as the bits of a binary64 value;
0 for an unbounded pool. -/
def Status.utilization (status : Status) : UInt64 :=
  if status.max = 0 then (0.0 : Float).toBits
  else (status.inUse.toUInt64.toFloat / status.max.toUInt64.toFloat * 100.0).toBits

/-- The pool has its greatest size. -/
def Status.isAtCapacity (status : Status) : Bool :=
  0 < status.max.toNat && status.max.toNat ≤ status.total

/-- The pool as diagnostic text, with the number of its event handlers and subscribers. -/
def debugText (pool : Pool) (handlers subscribers : Nat) : String :=
  "Pool \x7b id: " ++ toString pool.config.id.toNat ++ ", address: " ++
    Connection.debugAddress pool.config.address ++ ", events: EventEmitter \x7b handlers: " ++
    toString handlers ++ ", subscribers: " ++ toString subscribers ++ " \x7d \x7d"

/-- A connection on loan as diagnostic text. -/
def debugLoan (pool : Pool) (connection : Connection) : String :=
  "PooledConnection \x7b connection: " ++ connection.debugText ++ ", pool_id: " ++
    toString pool.config.id.toNat ++ " \x7d"

end Pool

/-- The share of acquisitions that succeeded, as the bits of a binary64 value; 1 if there were
none. The counts are added in 64 bits. -/
def successRate (succeeded failed : UInt64) : UInt64 :=
  let total := succeeded + failed
  if total = 0 then (1.0 : Float).toBits else (succeeded.toFloat / total.toFloat).toBits

end ConnectionPool
