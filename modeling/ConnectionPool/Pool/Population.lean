import ConnectionPool.Pool.Basic

/-!
# Filling the pool

A population makes connections one after the other until the pool has its least size. A
connection that it establishes counts as pending. It ends when the pool has enough connections,
is full or is closed, and at the first connect that fails.

The opening of a pool runs one, a caller may ask for one, and the maintenance task runs one at
each of its ticks. Whoever opens the pool may give that up meanwhile, and then there is no pool.
A run of a maintenance task that was stopped is abandoned.
-/

namespace ConnectionPool.Pool

/-- Move a population on. -/
def setPopulation (pool : Pool) (owner : Owner) (added : Nat) (phase : PopulationPhase) : Pool :=
  { pool with
    populations := pool.populations.map fun population =>
      if population.owner = owner then ⟨owner, added, phase⟩ else population }

/-- Take a population off the list. -/
def removePopulation (pool : Pool) (owner : Owner) : Pool :=
  { pool with
    populations := pool.populations.filter fun population => population.owner ≠ owner }

/-- End a population. Only a caller is told the result; once the opening is over the maintenance
task starts, if there is to be one and the clock has the instant of its first tick. -/
def finishPopulation (pool : Pool) (owner : Owner) (result : CallResult) : Pool :=
  let next := pool.removePopulation owner
  match owner with
  | .opening =>
      { next with maintenance := pool.config.maintenanceInterval.bind pool.now.add? }
  | .call id => { next with results := next.results ++ [⟨pool.now, id, result⟩] }
  | .maintenance => next

/-- Start a population for a caller. -/
def startPopulation (pool : Pool) (id : Nat) : Pool :=
  if pool.held && (pool.population? (.call id)).isNone && (pool.call? id).isNone then
    { pool with populations := pool.populations ++ [⟨.call id, 0, .reserving⟩] }
  else pool

/-- The pool is closed, has its least size or is full. -/
def isFilled (stock : Inventory) : Bool :=
  stock.closed || stock.config.minPoolSize.toNat ≤ stock.total + stock.pending ||
    !stock.hasCapacity

/-- The population makes the next connection and starts to connect it, or ends. -/
def reserve (pool : Pool) (owner : Owner) : Pool :=
  match pool.population? owner with
  | some ⟨_, added, .reserving⟩ =>
      if isFilled pool.stock then pool.finishPopulation owner (.populated added)
      else
        let (connection, stock) :=
          { pool.stock with pending := pool.stock.pending + 1 }.create
        { pool with stock := stock }.setPopulation owner added
          (.connecting connection (pool.now + connection.link.delay stock.network))
  | _ => pool

/-- The connect that the population waits for is over, if it is due. -/
def finishReserved (pool : Pool) (owner : Owner) : Pool :=
  match pool.population? owner with
  | some ⟨_, added, .connecting connection due⟩ =>
      if due ≤ pool.now then
        let (outcome, connection, network) := connection.connect pool.stock.network pool.now
        { pool with stock := { pool.stock with network := network } }.setPopulation owner added
          (.connected connection outcome)
      else pool
  | _ => pool

/-- The population registers the outcome of its connect. A connection that the pool still wants
becomes idle. -/
def settleReserved (pool : Pool) (owner : Owner) : Pool :=
  match pool.population? owner with
  | some ⟨_, added, .connected connection outcome⟩ =>
      let stock := { pool.stock with pending := pool.stock.pending - 1 }
      match outcome with
      | .ok () =>
          let stock := stock.emit (.ready connection.info)
          match stock.returnReason? connection with
          | some reason =>
              { pool with stock := stock.discard connection reason }.setPopulation owner added
                .reserving
          | none =>
              { pool with stock := stock.putBack connection }.setPopulation owner (added + 1)
                .reserving
      | .error error =>
          let stock := stock.discard connection .unknown
          { pool with stock := stock }.finishPopulation owner (.failed (stock.connectError error))
  | _ => pool

/-- Drop the population where it is. A connection that it was establishing is closed. -/
def abandonPopulation (pool : Pool) (owner : Owner) : Pool :=
  match pool.population? owner with
  | none => pool
  | some population =>
      let next := pool.removePopulation owner
      match population.phase.connection? with
      | none => next
      | some connection =>
          let stock := { pool.stock with pending := pool.stock.pending - 1 }
          { next with stock := stock.discard connection .unknown }

/-- Give up opening the pool while it is filled. Nobody gets its handle. -/
def abandonOpening (pool : Pool) : Pool :=
  if pool.isOpen then pool else { pool.abandonPopulation .opening with held := false }

/-- A run of the maintenance task is under way. -/
def isMaintaining (pool : Pool) : Bool :=
  (pool.population? .maintenance).isSome

/-- A tick of the maintenance task, if it is due and the last run is over. It ends in a closed
pool. -/
def maintain (pool : Pool) : Pool :=
  match pool.maintenance, pool.config.maintenanceInterval with
  | some due, some interval =>
      if due ≤ pool.now && !pool.isMaintaining then
        if pool.isClosed then { pool with maintenance := none }
        else
          { pool with
            maintenance := some (nextTick due pool.now interval)
            populations := pool.populations ++ [⟨.maintenance, 0, .reserving⟩] }
      else pool
  | _, _ => pool

/-- Drop a run of the maintenance task after the task was stopped. -/
def abandonMaintenance (pool : Pool) : Pool :=
  match pool.maintenance with
  | none => pool.abandonPopulation .maintenance
  | some _ => pool

end ConnectionPool.Pool
