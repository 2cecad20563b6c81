import ConnectionPool.Pool.Service

/-!
# Acquisitions

An acquisition enters the wait queue, gets a connection or an error from it, establishes a
connection that is new and registers it with the pool. If the pool was cleared meanwhile the
connection is closed and the acquisition goes back to the head of the line with its deadline
kept. Each step but the connect is one turn at the pool's lock.
-/

namespace ConnectionPool.Pool

/-- The deadline of an acquisition that starts now is an instant that the clock has. Where waits
are not limited there is no deadline. -/
def deadlineFits (pool : Pool) : Bool :=
  pool.config.waitQueueTimeout.all fun timeout => (pool.now.add? timeout).isSome

/-- Start an acquisition. Its deadline counts from now. If the clock has no such instant the
acquisition breaks off, after it was announced. -/
def startAcquire (pool : Pool) (id : Nat) : Pool :=
  if pool.held && !pool.isPending id then
    { pool with
      stock := pool.stock.emit .acquisitionStarted
      calls := pool.calls ++
        if pool.deadlineFits then
          [⟨id, pool.config.waitQueueTimeout.map (pool.now + ·), .entering false⟩]
        else [] }
  else pool

/-- The run loop that starts now, if the clock has the instant of its first tick. -/
def firstTick? (pool : Pool) : Option RunLoop :=
  (pool.now.add? pool.config.waitQueuePeriod).map (RunLoop.mk pool.nextRunLoop)

/-- Start a run loop; its first tick is one period from now. If the clock has no such instant
the run loop breaks off, and the pool takes it for live all the same. -/
def startRunLoop (pool : Pool) : Pool :=
  { pool with
    runLoops := pool.runLoops ++ pool.firstTick?.toList
    runLoop := some pool.nextRunLoop
    nextRunLoop := pool.nextRunLoop + 1 }

/-- Arm a timer for the member. -/
def armTimer (pool : Pool) (member : Nat) (deadline : Instant) : Pool :=
  let (queue, aborted) := pool.queue.arm member member
  { pool with
    queue := queue
    timers := if aborted = [] then pool.timers ++ [⟨member, deadline⟩] else pool.timers }

/-- The call enters the wait queue: at the end, or at the head if it was served before. -/
def enter (pool : Pool) (id : Nat) : Pool :=
  match pool.call? id with
  | some ⟨_, deadline, .entering readmitted⟩ =>
      if pool.isClosed then pool.failCall id pool.stock.closedError
      else
        match if readmitted then pool.queue.enterFront else pool.queue.enter with
        | .error error => pool.failCall id error
        | .ok (admission, queue) =>
            let pool := { pool with queue := queue }
            let pool := match deadline with
              | some deadline => pool.armTimer admission.member deadline
              | none => pool
            let pool := if admission.startRunLoop then pool.startRunLoop else pool
            pool.setPhase id (.queued admission.member)
  | _ => pool

/-- The call's connection could not be established: close it and fail. -/
def giveUp (pool : Pool) (id : Nat) (connection : Connection) (error : LinkError) : Pool :=
  let stock := (pool.stock.giveBack connection).discard connection .unknown
  { pool with stock := stock }.failCall id (stock.connectError error)

/-- The call has an established connection: hand it out. A connection of a closed pool is closed
and the call fails; one of an old generation is closed and the call enters again. -/
def announce (pool : Pool) (id : Nat) (connection : Connection) : Pool :=
  match pool.stock.returnReason? connection with
  | some reason =>
      let stock := (pool.stock.giveBack connection).discard connection reason
      let next := { pool with stock := stock }
      if pool.isClosed then next.failCall id stock.closedError
      else next.setPhase id (.entering true)
  | none =>
      { pool with
        stock := pool.stock.succeed connection
        loans := pool.loans ++ [connection] }.complete id (.acquired connection.info)

/-- The call looks at its answer. -/
def resume (pool : Pool) (id : Nat) : Pool :=
  match pool.call? id with
  | some ⟨_, _, .answered (.error error)⟩ => pool.failCall id error
  | some ⟨_, _, .answered (.ok connection)⟩ =>
      match connection.establishNow? with
      | some (.ok ()) => pool.announce id connection
      | some (.error error) => pool.giveUp id connection error
      | none =>
          pool.setPhase id
            (.connecting connection (pool.now + connection.link.delay pool.stock.network))
  | _ => pool

/-- The connect that the call waits for is over, if it is due. -/
def finishConnect (pool : Pool) (id : Nat) : Pool :=
  match pool.call? id with
  | some ⟨_, _, .connecting connection due⟩ =>
      if due ≤ pool.now then
        let (outcome, connection, network) := connection.connect pool.stock.network pool.now
        { pool with stock := { pool.stock with network := network } }.setPhase id
          (.connected connection outcome)
      else pool
  | _ => pool

/-- The call registers the outcome of its connect. -/
def register (pool : Pool) (id : Nat) : Pool :=
  match pool.call? id with
  | some ⟨_, _, .connected connection (.ok ())⟩ =>
      { pool with stock := pool.stock.emit (.ready connection.info) }.announce id connection
  | some ⟨_, _, .connected connection (.error error)⟩ => pool.giveUp id connection error
  | _ => pool

/-- The caller gives up the acquisition where it waits: in line, for a look at its answer or for
its link. A connection that it holds goes back to the pool; a place in line stays until its
turn, with nobody listening. A call on its way to the lock does not wait and goes on. -/
def cancelAcquire (pool : Pool) (id : Nat) : Pool :=
  match (pool.call? id).map Call.phase with
  | some (.queued member) => { pool.removeCall id with queue := pool.queue.abandon member }
  | some (.answered (.error _)) => pool.removeCall id
  | some (.answered (.ok connection)) =>
      { pool.removeCall id with stock := pool.stock.reclaim connection }
  | some (.connecting connection _) =>
      { pool.removeCall id with stock := pool.stock.reclaim connection }
  | _ => pool

/-- Try to borrow an idle connection without waiting. Nothing is lent while callers are in
line. -/
def tryAcquire (pool : Pool) : Except PoolError (Option ConnectionInfo) × Pool :=
  if pool.isClosed then
    let error := pool.stock.closedError
    (.error error, { pool with stock := (pool.stock.emit .acquisitionStarted).fail error })
  else if pool.queue.members.isEmpty then
    match pool.stock.lendIdle with
    | (some connection, stock) =>
        (.ok (some connection.info),
          { pool with stock := stock, loans := pool.loans ++ [connection] })
    | (none, stock) => (.ok none, { pool with stock := stock })
  else (.ok none, pool)

end ConnectionPool.Pool
