import ConnectionPool.Config
import ConnectionPool.Connection
import ConnectionPool.Event

/-!
# The connections of a pool

The inventory is what a pool knows about its connections: those that are idle, the ids of those
on loan, the number being established to fill the pool, the generation and whether the pool is
closed. Every change is written to the log of events with the counts at that moment, and
counted.

Idle connections are taken from the front and returned at the back. Taking one discards those in
front of it that are of an old generation or have been idle for too long.

A connection bears the key of the pool that made it, which no other pool has, even one of the
same id. The inventory need not compare keys: only a connection on loan from the pool itself
comes to `release`, and its key is that of the pool. One that is on loan from another pool is
refused before that, by `System.release`.
-/

namespace ConnectionPool

/-- How often what happened to a pool. -/
structure Metrics where
  created : Nat := 0
  closed : Nat := 0
  stale : Nat := 0
  idle : Nat := 0
  succeeded : Nat := 0
  failed : Nat := 0
  deriving DecidableEq, Repr, Inhabited

/-- The connections of a pool, the network they run over and what is on record about them. -/
structure Inventory where
  config : Config
  source : LinkSource
  network : Network
  now : Instant
  generation : Nat := 0
  closed : Bool := false
  available : List Connection := []
  checkedOut : List Nat := []
  pending : Nat := 0
  nextConnection : Nat := 1
  metrics : Metrics := {}
  log : List Event := []

namespace Inventory

/-- The connections that are idle or on loan. -/
def total (stock : Inventory) : Nat :=
  stock.available.length + stock.checkedOut.length

/-- There is room for one more connection. -/
def hasCapacity (stock : Inventory) : Bool :=
  stock.config.maxPoolSize == 0 || stock.total + stock.pending < stock.config.maxPoolSize.toNat

/-- The counts at this moment. -/
def snapshot (stock : Inventory) : PoolSnapshot where
  id := stock.config.id
  total := stock.total
  available := stock.available.length
  generation := stock.generation
  address := stock.config.address

/-- Write an event to the log. -/
def emit (stock : Inventory) (kind : EventKind) : Inventory :=
  { stock with log := stock.log ++ [⟨stock.now, stock.snapshot, kind⟩] }

/-- The error for callers of a closed pool. -/
def closedError (stock : Inventory) : PoolError :=
  .poolClosed stock.config.id stock.config.address

/-- The error for a connection that the pool did not issue. -/
def foreignError (stock : Inventory) (connection : ConnectionInfo) : PoolError :=
  .foreignConnection stock.config.id stock.config.address connection

/-- The error for a connection that could not be established. -/
def connectError (stock : Inventory) (source : LinkError) : PoolError :=
  .connect stock.config.id stock.config.address source

/-- Count a closed connection by its reason. -/
def countClosed (metrics : Metrics) (reason : CloseReason) : Metrics :=
  match reason with
  | .stale => { metrics with closed := metrics.closed + 1, stale := metrics.stale + 1 }
  | .idle => { metrics with closed := metrics.closed + 1, idle := metrics.idle + 1 }
  | _ => { metrics with closed := metrics.closed + 1 }

/-- Make a new connection of the current generation. -/
def create (stock : Inventory) : Connection × Inventory :=
  let (link, network) := stock.source.create stock.network
  let connection := Connection.make stock.nextConnection stock.generation stock.config.id
    stock.config.address link stock.now
  let stock := { stock with
    network := network
    nextConnection := stock.nextConnection + 1
    metrics := { stock.metrics with created := stock.metrics.created + 1 } }
  (connection, stock.emit (.created connection.info))

/-- Close a connection that the pool no longer holds. -/
def discard (stock : Inventory) (connection : Connection) (reason : CloseReason) : Inventory :=
  let (connection, network) := connection.destroy stock.network
  let stock := { stock with network := network, metrics := countClosed stock.metrics reason }
  stock.emit (.closed connection.info reason)

/-- Put a connection at the back of the idle ones. -/
def putBack (stock : Inventory) (connection : Connection) : Inventory :=
  { stock with available := stock.available ++ [connection.makeAvailable stock.now] }

/-- Why an idle connection is not to be used any more. -/
def evictionReason? (stock : Inventory) (connection : Connection) : Option CloseReason :=
  if connection.isStale stock.generation then some .stale
  else if connection.isIdleExpired stock.config.maxIdleTime stock.now then some .idle
  else none

/-- Take the first of these idle connections that may still be used and discard those before
it. -/
def takeFrom (stock : Inventory) : List Connection → Option Connection × Inventory
  | [] => (none, { stock with available := [] })
  | connection :: rest =>
      let stock := { stock with available := rest }
      match stock.evictionReason? connection with
      | some reason => (stock.discard connection reason).takeFrom rest
      | none => (some connection, stock)

/-- Take the first idle connection that may still be used and discard those before it. -/
def takeIdle (stock : Inventory) : Option Connection × Inventory :=
  stock.takeFrom stock.available

/-- Find a connection for a request: an idle one, or a new one if there is room. -/
def obtain (stock : Inventory) : Option Connection × Inventory :=
  match stock.takeIdle with
  | (some connection, stock) => (some connection, stock)
  | (none, stock) =>
      if stock.hasCapacity then
        let (connection, stock) := stock.create
        (some connection, stock)
      else (none, stock)

/-- Lend a connection. -/
def checkOut (stock : Inventory) (connection : Connection) : Connection × Inventory :=
  (connection.markInUse, { stock with checkedOut := connection.id :: stock.checkedOut })

/-- Take a connection off the list of those on loan. -/
def giveBack (stock : Inventory) (connection : Connection) : Inventory :=
  { stock with checkedOut := stock.checkedOut.erase connection.id }

/-- Find a connection for a request and lend it. -/
def lend (stock : Inventory) : Option Connection × Inventory :=
  match stock.obtain with
  | (some connection, stock) =>
      let (connection, stock) := stock.checkOut connection
      (some connection, stock)
  | (none, stock) => (none, stock)

/-- Why a connection that comes back is not to become idle. -/
def returnReason? (stock : Inventory) (connection : Connection) : Option CloseReason :=
  if stock.closed then some .poolClosed
  else if connection.isStale stock.generation then some .stale
  else none

/-- Take back a connection on loan that no caller was told about. -/
def reclaim (stock : Inventory) (connection : Connection) : Inventory :=
  let stock := stock.giveBack connection
  match stock.returnReason? connection with
  | some reason => stock.discard connection reason
  | none => stock.putBack connection

/-- Take back a connection that the pool lent. It is closed if `force` is set, the pool is
closed or the generation of the connection is over, and becomes idle otherwise. -/
def release (stock : Inventory) (connection : Connection) (force : Bool) :
    Except PoolError Unit × Inventory :=
  if connection.id ∈ stock.checkedOut then
    let stock := stock.giveBack connection
    match if force then some .force else stock.returnReason? connection with
    | some reason =>
        (.ok (), (stock.emit (.released connection.info)).discard connection reason)
    | none => (.ok (), (stock.putBack connection).emit (.released connection.info))
  else (.error (stock.foreignError connection.info), stock)

/-- Record a failed acquisition. -/
def fail (stock : Inventory) (error : PoolError) : Inventory :=
  let stock := { stock with
    metrics := { stock.metrics with failed := stock.metrics.failed + 1 } }
  stock.emit (.acquisitionFailed error.failureReason)

/-- Record a successful acquisition. -/
def succeed (stock : Inventory) (connection : Connection) : Inventory :=
  let stock := { stock with
    metrics := { stock.metrics with succeeded := stock.metrics.succeeded + 1 } }
  stock.emit (.acquired connection.info)

/-- Lend the first of these idle connections that may still be used and is established. One that
is not established stays first in line, and none is lent. -/
def lendFrom (stock : Inventory) : List Connection → Option Connection × Inventory
  | [] => (none, { stock with available := [] })
  | connection :: rest =>
      let stock := { stock with available := rest }
      match stock.evictionReason? connection with
      | some reason => (stock.discard connection reason).lendFrom rest
      | none =>
          if connection.established then
            let (connection, stock) := stock.checkOut connection
            let stock := { stock with
              metrics := { stock.metrics with succeeded := stock.metrics.succeeded + 1 } }
            let stock := (stock.emit .acquisitionStarted).emit (.acquired connection.info)
            (some connection, stock)
          else (none, { stock with available := connection :: rest })

/-- Lend an established idle connection without waiting, if the first usable one is. -/
def lendIdle (stock : Inventory) : Option Connection × Inventory :=
  stock.lendFrom stock.available

/-- Close these idle connections because the pool is closed. -/
def closeIdle (stock : Inventory) : List Connection → Inventory
  | [] => { stock with available := [] }
  | connection :: rest =>
      (({ stock with available := rest }).discard connection .poolClosed).closeIdle rest

/-- Give up the links of all idle connections without a word. -/
def scrapIdle (stock : Inventory) : Inventory :=
  { stock with
    available := []
    network := stock.available.foldl (fun network connection => (connection.destroy network).2)
      stock.network }

end Inventory

end ConnectionPool
