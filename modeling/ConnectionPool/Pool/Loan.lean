import ConnectionPool.Pool.Basic

/-!
# Connections on loan

A borrower may write to a connection, establish it and destroy it, and gives it back by
releasing or by dropping it. What happens to it then depends on the pool alone.
-/

namespace ConnectionPool.Pool

/-- Put back the changed connection in the place of the one on loan. -/
def setLoan (pool : Pool) (connection : Connection) (network : Network) : Pool :=
  { pool with
    stock := { pool.stock with network := network }
    loans := pool.loans.map fun other => if other.id = connection.id then connection else other }

/-- Take a connection off the list of loans. -/
def removeLoan (pool : Pool) (id : Nat) : Pool :=
  { pool with loans := pool.loans.filter fun connection => connection.id != id }

/-- Release a connection on loan; `none` if there is no such loan. -/
def releaseLoan (pool : Pool) (id : Nat) (force : Bool) : Option (Except PoolError Unit) × Pool :=
  match pool.loan? id with
  | none => (none, pool)
  | some connection =>
      let (result, stock) := pool.stock.release connection force
      (some result, { pool.removeLoan id with stock := stock })

/-- Drop a connection on loan, which releases it. -/
def dropLoan (pool : Pool) (id : Nat) : Pool :=
  (pool.releaseLoan id false).2

/-- Write so many bytes to a connection on loan. -/
def writeLoan (pool : Pool) (id bytes : Nat) : Option (Except LinkError Unit) × Pool :=
  match pool.loan? id with
  | none => (none, pool)
  | some connection =>
      let (result, connection, network) := connection.write bytes pool.stock.network pool.now
      (some result, pool.setLoan connection network)

/-- Establish a connection on loan. It was established when it was lent, so this never waits. -/
def establishLoan (pool : Pool) (id : Nat) : Option (Except LinkError Unit) × Pool :=
  match pool.loan? id with
  | none => (none, pool)
  | some connection =>
      let (result, connection, network) := connection.establish pool.stock.network pool.now
      (some result, pool.setLoan connection network)

/-- Destroy a connection on loan. It stays on loan. -/
def destroyLoan (pool : Pool) (id : Nat) : Pool :=
  match pool.loan? id with
  | none => pool
  | some connection =>
      let (connection, network) := connection.destroy pool.stock.network
      pool.setLoan connection network

end ConnectionPool.Pool
