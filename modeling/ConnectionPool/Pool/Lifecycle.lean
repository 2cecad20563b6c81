import ConnectionPool.Pool.Population
import ConnectionPool.Pool.Service

/-!
# Opening, clearing and closing

A pool is opened with a valid configuration and filled at once. Clearing it makes every
connection stale. Closing it answers all who wait, closes the idle connections and lets nobody
in any more; destroying it does so without a word and stops its tasks.
-/

namespace ConnectionPool.Pool

/-- Open a pool. Its first population is still to run. -/
def create (config : Config) (source : LinkSource) (network : Network) (now : Instant) :
    Except ConfigFault Pool :=
  match config.validate with
  | .error fault => .error fault
  | .ok () =>
      let stock : Inventory :=
        { config := config, source := source, network := network, now := now }
      .ok
        { stock := stock.emit (.poolCreated config.options)
          queue := WaitQueue.empty config.waitQueueSize.toNat config.id config.address
          populations := [⟨.opening, 0, .reserving⟩]
          openedAt := now }

/-- Begin a new generation. -/
def clear (pool : Pool) : Pool :=
  { pool with
    stock := { pool.stock with generation := pool.stock.generation + 1 }.emit .poolCleared }

/-- Close the pool. A closed pool stays as it is. -/
def close (pool : Pool) : Pool :=
  if pool.isClosed then pool
  else
    let pool := { pool with stock := { pool.stock with closed := true } }
    let pool := pool.settle pool.queue.destroy
    { pool with
      maintenance := none
      stock := (pool.stock.closeIdle pool.stock.available).emit .poolClosed }

/-- Stop the tasks, answer all who wait and give up the idle connections, without events. -/
def destroy (pool : Pool) : Pool :=
  let pool := { pool with
    runLoops := pool.runLoops.filter fun loop => some loop.id != pool.runLoop
    runLoop := none
    maintenance := none }
  let pool := pool.settle pool.queue.destroy
  { pool with
    queue := pool.queue.markStopped
    stock := { pool.stock with closed := true }.scrapIdle }

/-- Let go of the pool's handle. -/
def dropHandle (pool : Pool) : Pool :=
  { pool with held := false }

/-- Once nobody has a part in the pool, give up its idle connections and its tasks. -/
def collect (pool : Pool) : Pool :=
  if pool.isAlive then pool
  else
    { pool with
      stock := pool.stock.scrapIdle
      queue := { pool.queue with members := [] }
      runLoops := []
      runLoop := none
      timers := []
      maintenance := none }

end ConnectionPool.Pool
