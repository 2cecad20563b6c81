import ConnectionPool.Pool.Acquisition
import ConnectionPool.Pool.Lifecycle
import ConnectionPool.Pool.Loan

/-!
# Actions

An action is one step that happens to a pool: something its users do, one turn of a call, a
population or a task at the pool's lock, a change of the network's script, or time that passes.
An action that is not possible changes nothing. Any sequence of actions is a history of the
pool.

`ready?` names an action that is to happen at the current instant, and `nextDue?` the next
instant at which there is one.
-/

namespace ConnectionPool

/-- A step that happens to a pool. -/
inductive Action where
  | acquire (call : Nat)
  | tryAcquire
  | cancel (call : Nat)
  | populate (call : Nat)
  | release (connection : Nat) (force : Bool)
  | drop (connection : Nat)
  | write (connection bytes : Nat)
  | establish (connection : Nat)
  | destroyConnection (connection : Nat)
  | clear
  | close
  | destroy
  | watch (type : EventType) (call : Nat)
  | dropHandle
  | abandonOpening
  | failNext (count : Nat)
  | failAll (on : Bool)
  | connectDelay (delay : Duration)
  | enter (call : Nat)
  | resume (call : Nat)
  | finishConnect (call : Nat)
  | register (call : Nat)
  | tick (runLoop : Nat) (lost : List Nat := [])
  | expire (member : Nat)
  | reserve (owner : Owner)
  | finishReserved (owner : Owner)
  | settleReserved (owner : Owner)
  | maintain
  | abandonMaintenance
  | elapse (span : Duration)
  deriving DecidableEq, Repr

/-- What an action reports to the one who takes it. -/
inductive Reply where
  | done
  | offered (result : Except PoolError (Option ConnectionInfo))
  | returned (result : Except PoolError Unit)
  | link (result : Except LinkError Unit)
  | noLoan

namespace Pool

/-- Change the network's script. -/
def script (pool : Pool) (change : Network → Network) : Pool :=
  { pool with stock := { pool.stock with network := change pool.stock.network } }

/-- The action as one step, before anyone has noticed it. The actions that take the pool's
handle do nothing once it was dropped. -/
def step (pool : Pool) : Action → Reply × Pool
  | .acquire call => (.done, pool.startAcquire call)
  | .tryAcquire =>
      if pool.held then
        let (result, pool) := pool.tryAcquire
        (.offered result, pool)
      else (.done, pool)
  | .cancel call => (.done, (pool.cancelAcquire call).abandonPopulation (.call call))
  | .populate call => (.done, pool.startPopulation call)
  | .release connection force =>
      if pool.held then
        match pool.releaseLoan connection force with
        | (some result, pool) => (.returned result, pool)
        | (none, pool) => (.noLoan, pool)
      else (.done, pool)
  | .drop connection => (.done, pool.dropLoan connection)
  | .write connection bytes =>
      match pool.writeLoan connection bytes with
      | (some result, pool) => (.link result, pool)
      | (none, pool) => (.noLoan, pool)
  | .establish connection =>
      match pool.establishLoan connection with
      | (some result, pool) => (.link result, pool)
      | (none, pool) => (.noLoan, pool)
  | .destroyConnection connection => (.done, pool.destroyLoan connection)
  | .clear => (.done, if pool.held then pool.clear else pool)
  | .close => (.done, if pool.held then pool.close else pool)
  | .destroy => (.done, if pool.held then pool.destroy else pool)
  | .watch type call => (.done, { pool with tripwires := pool.tripwires ++ [⟨type, call⟩] })
  | .dropHandle => (.done, pool.dropHandle)
  | .abandonOpening => (.done, pool.abandonOpening)
  | .failNext count => (.done, pool.script fun network => { network with failNext := count })
  | .failAll on => (.done, pool.script fun network => { network with failAll := on })
  | .connectDelay delay =>
      (.done, pool.script fun network => { network with connectDelay := delay })
  | .enter call => (.done, pool.enter call)
  | .resume call => (.done, pool.resume call)
  | .finishConnect call => (.done, pool.finishConnect call)
  | .register call => (.done, pool.register call)
  | .tick runLoop lost => (.done, pool.tick runLoop lost)
  | .expire member => (.done, pool.expire member)
  | .reserve owner => (.done, pool.reserve owner)
  | .finishReserved owner => (.done, pool.finishReserved owner)
  | .settleReserved owner => (.done, pool.settleReserved owner)
  | .maintain => (.done, pool.maintain)
  | .abandonMaintenance => (.done, pool.abandonMaintenance)
  | .elapse span => (.done, { pool with stock := { pool.stock with now := pool.now + span } })

/-- Take an action: the step itself, what its events set off, and the end of a pool that nobody
has a part in any more. -/
def perform (pool : Pool) (action : Action) : Reply × Pool :=
  let (reply, next) := pool.step action
  (reply, (next.fire pool.log.length).collect)

/-- The pool after an action. -/
def after (pool : Pool) (action : Action) : Pool :=
  (pool.perform action).2

/-- The pool after a history of actions. -/
def run (pool : Pool) (actions : List Action) : Pool :=
  actions.foldl after pool

/-- The action that a call takes at this instant. -/
def callAction? (now : Instant) (call : Call) : Option Action :=
  match call.phase with
  | .entering _ => some (.enter call.id)
  | .queued _ => none
  | .answered _ => some (.resume call.id)
  | .connecting _ due => if due ≤ now then some (.finishConnect call.id) else none
  | .connected .. => some (.register call.id)

/-- The action that a population takes at this instant. -/
def populationAction? (now : Instant) (population : Population) : Option Action :=
  match population.phase with
  | .reserving => some (.reserve population.owner)
  | .connecting _ due => if due ≤ now then some (.finishReserved population.owner) else none
  | .connected .. => some (.settleReserved population.owner)

/-- An action that is to happen at this instant; `none` if the pool is settled. -/
def ready? (pool : Pool) : Option Action :=
  let now := pool.now
  if pool.maintenance.isNone && pool.isMaintaining then some .abandonMaintenance
  else
    (pool.calls.findSome? (callAction? now)) <|>
    (pool.populations.findSome? (populationAction? now)) <|>
    (pool.timers.findSome? fun timer =>
      if timer.deadline ≤ now then some (.expire timer.member) else none) <|>
    (pool.runLoops.findSome? fun loop =>
      if loop.due ≤ now then some (.tick loop.id) else none) <|>
    (match pool.maintenance with
      | some due => if due ≤ now && !pool.isMaintaining then some .maintain else none
      | none => none)

/-- The instants at which something of a settled pool is due. -/
def dues (pool : Pool) : List Instant :=
  (pool.calls.filterMap fun call =>
    match call.phase with
    | .connecting _ due => some due
    | _ => none) ++
  (pool.populations.filterMap fun population =>
    match population.phase with
    | .connecting _ due => some due
    | _ => none) ++
  pool.timers.map Timer.deadline ++
  pool.runLoops.map RunLoop.due ++
  (if pool.isMaintaining then [] else pool.maintenance.toList)

/-- The earliest instant at which something of a settled pool is due. -/
def nextDue? (pool : Pool) : Option Instant :=
  pool.dues.min?

end Pool

end ConnectionPool
